import AlertTriage.Ingest.AlertIdentity

/-!
# Two events are two alerts

A vendor names an event by an identifier, in one of several fields and at one
of several levels of the payload. Each parser looks for it in its own places.
Where these are the places in which a payload carries its identifier, events
are told apart; where they are not, all payloads of that shape are one alert
(`events_separated_iff`).
-/

namespace AlertTriage

open Library

/-! ## §1  Where the identifier is and where it is read -/

/-- The value names an event: neither null nor empty text. -/
def carries : Json → Bool
  | .null => false
  | .str s => decide (s ≠ "")
  | _ => true

/-- The path of a key under another, where that one is there. -/
def under (payload : Params) (outer key : String) : Json.Path :=
  if hasKey payload outer then [outer, key] else [key]

def splunkPaths : List Json.Path :=
  [["result", "_cd"], ["_cd"], ["result", "sid"], ["sid"],
    ["result", "search_name"], ["search_name"]]

def crowdstrikePaths : List Json.Path :=
  [["event", "DetectionId"], ["DetectionId"], ["metadata", "offset"]]

/-- Where a payload carries the vendor's identifier of its event. An OCSF uid
that is false counts as absent. -/
def vendorPath (payload : Params) : ParserKind → Option Json.Path
  | .ocsf =>
      (Json.firstPath Json.truthy [["finding_uid"], ["activity_uid"]]
        payload).or (Json.firstPath carries [["id"]] payload)
  | .splunk => Json.firstPath carries splunkPaths payload
  | .crowdstrike => Json.firstPath carries crowdstrikePaths payload
  | .guardduty => Json.firstPath carries [under payload "detail" "id"] payload
  | .generic => none

def present (_ : Json) : Bool := true

/-- Where the parser reads it. -/
def readPath (payload : Params) : ParserKind → Option Json.Path
  | .ocsf =>
      (Json.firstPath Json.truthy [["finding_uid"], ["activity_uid"]]
        payload).or (Json.firstPath present [["id"]] payload)
  | .splunk =>
      Json.firstPath present
        (["_cd", "sid", "search_name"].map (under payload "result")) payload
  | .crowdstrike =>
      Json.firstPath present
        [under payload "event" "DetectionId", ["metadata", "offset"]] payload
  | .guardduty => Json.firstPath present [under payload "detail" "id"] payload
  | .generic => none

/-- The text at a path, if there is one. -/
def textAt (py : PyBuiltins) (payload : Params) (path : Option Json.Path) :
    Option String :=
  path.bind fun p => (Json.valueAt p payload).map py.str

/-- The vendor's identifier of a payload's event. -/
def eventId (py : PyBuiltins) (source : AlertSource) (payload : Params) :
    Option String :=
  textAt py payload (vendorPath payload (parserOf source payload))

/-- The parser reads the identifier where the payload carries it. -/
def Placed (source : AlertSource) (payload : Params) : Prop :=
  readPath payload (parserOf source payload) =
    vendorPath payload (parserOf source payload)

/-- The same payload with another identifier in the same place. -/
def SameShape (source : AlertSource) (payload payload' : Params) : Prop :=
  ∃ path text, vendorPath payload (parserOf source payload) = some path ∧
    text ≠ "" ∧ payload' = Json.putAt path (.str text) payload

/-! ## §2  What a parser hashes is what it reads -/

theorem lookup_level (payload : Params) (outer key : String) :
    Json.lookup key (level outer payload) =
      Json.valueAt (under payload outer key) payload := by
  unfold level under hasKey getOr
  cases h : Json.lookup outer payload with
  | none => rfl
  | some v =>
      simp only [Option.getD_some, Option.isSome_some, if_true, Json.valueAt_two,
        h]

theorem splunk_reads (py : PyBuiltins) (payload : Params) :
    hashedText py payload .splunk =
      (textAt py payload (readPath payload .splunk)).getD "" := by
  unfold hashedText splunkSourceId getOr
  simp only [lookup_level]
  unfold readPath Json.firstPath textAt
  simp only [List.map_cons, List.map_nil]
  cases h₁ : Json.valueAt (under payload "result" "_cd") payload with
  | some v => simp [h₁, present]
  | none =>
  cases h₂ : Json.valueAt (under payload "result" "sid") payload with
  | some v => simp [h₁, h₂, present]
  | none =>
  cases h₃ : Json.valueAt (under payload "result" "search_name") payload with
  | some v => simp [h₁, h₂, h₃, present]
  | none => simp [h₁, h₂, h₃, py.str_text]

theorem crowdstrike_reads (py : PyBuiltins) (payload : Params) :
    hashedText py payload .crowdstrike =
      (textAt py payload (readPath payload .crowdstrike)).getD "" := by
  unfold hashedText crowdstrikeDetectionId getOr
  rw [lookup_level, ← Json.valueAt_two]
  unfold readPath Json.firstPath textAt
  cases h₁ : Json.valueAt (under payload "event" "DetectionId") payload with
  | some v => simp [h₁, present]
  | none =>
  cases h₂ : Json.valueAt ["metadata", "offset"] payload with
  | some v =>
      rw [Json.valueAt_two] at h₂
      simp [h₁, h₂, present]
  | none =>
      rw [Json.valueAt_two] at h₂
      simp [h₁, h₂, py.str_text]

theorem guardduty_reads (py : PyBuiltins) (payload : Params) :
    hashedText py payload .guardduty =
      (textAt py payload (readPath payload .guardduty)).getD "" := by
  unfold hashedText getOr
  rw [lookup_level]
  unfold readPath Json.firstPath textAt
  cases h₁ : Json.valueAt (under payload "detail" "id") payload with
  | some v => simp [h₁, present]
  | none => simp [h₁, py.str_text]

theorem ocsf_reads (py : PyBuiltins) (payload : Params) :
    ocsfAid py payload =
      (textAt py payload (readPath payload .ocsf)).getD "" := by
  have hany : ∀ key, (Json.lookup key payload).any Json.truthy =
      (get payload key).truthy := by
    intro key
    unfold get getOr
    cases Json.lookup key payload with
    | none => rfl
    | some v => rfl
  have hsome : ∀ key, (get payload key).truthy = true →
      Json.lookup key payload = some (get payload key) := by
    intro key h
    unfold get getOr at h ⊢
    cases hl : Json.lookup key payload with
    | none =>
        rw [hl] at h
        exact absurd h (by decide)
    | some v => rfl
  unfold ocsfAid pyOr readPath Json.firstPath textAt
  simp only [List.find?_cons, Json.valueAt_one, hany, List.find?_nil]
  by_cases h₁ : (get payload "finding_uid").truthy = true
  · simp [h₁, hsome _ h₁]
  by_cases h₂ : (get payload "activity_uid").truthy = true
  · simp [h₁, h₂, hsome _ h₂]
  cases h₃ : Json.lookup "id" payload with
  | some v => simp [h₁, h₂, h₃, present, getOr]
  | none => simp [h₁, h₂, h₃, getOr, py.str_text]

/-- The text of an identifier is not empty. -/
theorem eventId_ne_empty {py : PyBuiltins} {source : AlertSource}
    {payload : Params} {id : String} (h : eventId py source payload = some id) :
    id ≠ "" := by
  have hgood : ∀ {path : Json.Path} {good : Json → Bool} {paths},
      (good (.str "") = false) →
      Json.firstPath good paths payload = some path →
      ∀ v, Json.valueAt path payload = some v → v ≠ .str "" := by
    intro path good paths hempty hpath v hv hstr
    obtain ⟨-, w, hw, hok⟩ := Json.mem_of_firstPath hpath
    rw [hv] at hw
    rw [← Option.some.inj hw, hstr, hempty] at hok
    exact absurd hok (by decide)
  obtain ⟨path, hpath, htext⟩ := Option.bind_eq_some_iff.mp h
  obtain ⟨v, hv, rfl⟩ := Option.map_eq_some_iff.mp htext
  intro hid
  have hstr := py.str_ne_empty v hid
  cases hkind : parserOf source payload with
  | generic =>
      rw [hkind] at hpath
      cases hpath
  | splunk =>
      rw [hkind] at hpath
      exact hgood (by decide) hpath v hv hstr
  | crowdstrike =>
      rw [hkind] at hpath
      exact hgood (by decide) hpath v hv hstr
  | guardduty =>
      rw [hkind] at hpath
      exact hgood (by decide) hpath v hv hstr
  | ocsf =>
      rw [hkind] at hpath
      rcases Option.or_eq_some_iff.mp hpath with hpath | ⟨-, hpath⟩
      · exact hgood (by decide) hpath v hv hstr
      · exact hgood (by decide) hpath v hv hstr

theorem kind_of_eventId {py : PyBuiltins} {source : AlertSource}
    {payload : Params} {id : String} (h : eventId py source payload = some id) :
    parserOf source payload ≠ .generic := by
  intro hkind
  unfold eventId at h
  rw [hkind] at h
  cases h

/-- **A well-placed identifier is what the alert is named by.** -/
theorem alertId_of_placed {py : PyBuiltins} {source : AlertSource}
    {payload : Params} {uuid id : String} {a : ParsedAlert}
    (ha : normalizeAlert py uuid source payload = .ok a)
    (hid : eventId py source payload = some id) (h : Placed source payload) :
    a.alertId =
      stableAlertId py (parserOf source payload).hashedSource id := by
  have hread : textAt py payload (readPath payload (parserOf source payload)) =
      some id := by
    rw [h]
    exact hid
  rw [(normalize_ids ha).1, if_neg (kind_of_eventId hid)]
  congr 1
  cases hkind : parserOf source payload with
  | generic => exact absurd hkind (kind_of_eventId hid)
  | splunk =>
      rw [hkind] at hread
      rw [splunk_reads, hread]
      rfl
  | crowdstrike =>
      rw [hkind] at hread
      rw [crowdstrike_reads, hread]
      rfl
  | guardduty =>
      rw [hkind] at hread
      rw [guardduty_reads, hread]
      rfl
  | ocsf =>
      rw [hkind] at hread
      have haid : ocsfAid py payload = id := by
        rw [ocsf_reads, hread]
        rfl
      unfold hashedText
      rw [haid, if_neg (eventId_ne_empty hid)]

/-! ## §3  Hashes of different texts -/

theorem hashedSource_ne_nil (kind : ParserKind) :
    kind.hashedSource.toList ≠ [] := by
  cases kind <;> decide

/-- The parsers hash with sources that differ in their first letter. -/
theorem hashedSource_head {kind kind' : ParserKind} (hk : kind ≠ .generic)
    (hk' : kind' ≠ .generic)
    (h : kind.hashedSource.toList.head? = kind'.hashedSource.toList.head?) :
    kind = kind' := by
  cases kind <;> cases kind' <;>
    first
    | rfl
    | exact absurd rfl hk
    | exact absurd rfl hk'
    | exact absurd h (by decide)

theorem hashedSource_text_inj {kind kind' : ParserKind} {id id' : String}
    (hk : kind ≠ .generic) (hk' : kind' ≠ .generic)
    (h : kind.hashedSource ++ ":" ++ id = kind'.hashedSource ++ ":" ++ id') :
    id = id' := by
  have hlist := congrArg String.toList h
  simp only [String.toList_append] at hlist
  have hhead := congrArg List.head? hlist
  rw [List.append_assoc, List.append_assoc,
    List.head?_append_of_ne_nil _ (hashedSource_ne_nil kind),
    List.head?_append_of_ne_nil _ (hashedSource_ne_nil kind')] at hhead
  obtain rfl := hashedSource_head hk hk' hhead
  exact String.toList_inj.mp (List.append_cancel_left hlist)

/-! ## §4  Another identifier in the same place -/

section SameShape

variable {source : AlertSource} {payload : Params} {path : Json.Path}
  {text : String}

theorem paths_apart : ∀ p ∈ splunkPaths ++ crowdstrikePaths, ∀ q ∈
    splunkPaths ++ crowdstrikePaths, q = p ∨ Json.Apart p q := by
  decide

theorem hasKey_putAt {old : Json} (h : Json.valueAt path payload = some old)
    (value : Json) (key : String) :
    hasKey (Json.putAt path value payload) key = hasKey payload key :=
  Json.isSome_lookup_putAt h value key

theorem under_putAt {old : Json} (h : Json.valueAt path payload = some old)
    (value : Json) (outer key : String) :
    under (Json.putAt path value payload) outer key =
      under payload outer key := by
  unfold under
  rw [hasKey_putAt h]

/-- What decides that a payload is a finding is no identifier. -/
theorem isDetectionFinding_eq (payload : Params) :
    isDetectionFindingPayload payload =
      (isNumber 2004 ((Json.valueAt ["class_uid"] payload).getD .null) ||
        isNumber 2004
          ((Json.valueAt ["metadata", "class_uid"] payload).getD .null)) := by
  unfold isDetectionFindingPayload get getOr
  simp only [Json.valueAt_one, Json.valueAt_two]
  cases Json.lookup "metadata" payload with
  | none => rfl
  | some v => cases v <;> rfl

theorem parserOf_putAt
    (h : Json.Apart path ["class_uid"] ∧ Json.Apart path ["metadata", "class_uid"])
    (value : Json) (source : AlertSource) :
    parserOf source (Json.putAt path value payload) = parserOf source payload := by
  unfold parserOf
  rw [isDetectionFinding_eq, isDetectionFinding_eq, Json.valueAt_putAt_ne h.1,
    Json.valueAt_putAt_ne h.2]

/-- The paths that an identifier can be at. -/
def identifierPaths : List Json.Path :=
  splunkPaths ++ crowdstrikePaths ++
    [["detail", "id"], ["id"], ["finding_uid"], ["activity_uid"]]

theorem vendorPath_mem {kind : ParserKind}
    (h : vendorPath payload kind = some path) :
    path ∈ identifierPaths ∧ ∃ old, Json.valueAt path payload = some old := by
  have hfirst : ∀ {good : Json → Bool} {paths},
      Json.firstPath good paths payload = some path →
      path ∈ paths ∧ ∃ old, Json.valueAt path payload = some old := by
    intro good paths hp
    obtain ⟨hmem, v, hv, -⟩ := Json.mem_of_firstPath hp
    exact ⟨hmem, v, hv⟩
  unfold identifierPaths
  cases kind with
  | generic => cases h
  | splunk =>
      obtain ⟨hmem, hold⟩ := hfirst h
      exact ⟨by simp [hmem], hold⟩
  | crowdstrike =>
      obtain ⟨hmem, hold⟩ := hfirst h
      exact ⟨by simp [hmem], hold⟩
  | guardduty =>
      obtain ⟨hmem, hold⟩ := hfirst h
      refine ⟨?_, hold⟩
      unfold under at hmem
      split at hmem
      · simp [List.mem_singleton.mp hmem]
      · simp [List.mem_singleton.mp hmem]
  | ocsf =>
      rcases Option.or_eq_some_iff.mp h with h | ⟨-, h⟩
      · obtain ⟨hmem, hold⟩ := hfirst h
        refine ⟨?_, hold⟩
        simp only [List.mem_cons, List.not_mem_nil, or_false] at hmem
        rcases hmem with rfl | rfl
        · simp
        · simp
      · obtain ⟨hmem, hold⟩ := hfirst h
        exact ⟨by simp [List.mem_singleton.mp hmem], hold⟩

theorem identifierPaths_apart : ∀ p ∈ identifierPaths,
    p ≠ [] ∧ Json.Apart p ["class_uid"] ∧
      Json.Apart p ["metadata", "class_uid"] := by
  decide

/-- The other identifier is where this one was. -/
theorem vendorPath_putAt {kind : ParserKind}
    (h : vendorPath payload kind = some path) (ht : text ≠ "") :
    vendorPath (Json.putAt path (.str text) payload) kind = some path := by
  obtain ⟨hmem, old, hold⟩ := vendorPath_mem h
  have hne := (identifierPaths_apart path hmem).1
  have hcarries : carries (.str text) = true := decide_eq_true ht
  have htruthy : Json.truthy (.str text) = true := decide_eq_true ht
  cases kind with
  | generic => cases h
  | splunk =>
      refine Json.firstPath_putAt h ?_ hne hcarries
      intro q hq
      exact paths_apart path (by simp [(Json.mem_of_firstPath h).1]) q (by simp [hq])
  | crowdstrike =>
      refine Json.firstPath_putAt h ?_ hne hcarries
      intro q hq
      exact paths_apart path (by simp [(Json.mem_of_firstPath h).1]) q (by simp [hq])
  | guardduty =>
      unfold vendorPath at h ⊢
      rw [under_putAt hold]
      refine Json.firstPath_putAt h ?_ hne hcarries
      intro q hq
      left
      rw [List.mem_singleton.mp hq, List.mem_singleton.mp (Json.mem_of_firstPath h).1]
  | ocsf =>
      have huids : ∀ p ∈ [["finding_uid"], ["activity_uid"]],
          ∀ q ∈ [["finding_uid"], ["activity_uid"]], q = p ∨ Json.Apart p q := by
        decide
      unfold vendorPath at h ⊢
      -- the uids are looked up first, and `id` does not touch them
      rcases Option.or_eq_some_iff.mp h with h | ⟨hnone, h⟩
      · have hput := @Json.firstPath_putAt Json.truthy _ payload path (.str text) h
          (huids path (Json.mem_of_firstPath h).1) hne htruthy
        rw [hput]
        rfl
      · have hid := List.mem_singleton.mp (Json.mem_of_firstPath h).1
        have huid : Json.firstPath Json.truthy [["finding_uid"], ["activity_uid"]]
            (Json.putAt path (.str text) payload) = none := by
          rw [Json.firstPath_congr, hnone]
          intro p hp
          have hapart : ∀ p ∈ [["finding_uid"], ["activity_uid"]],
              Json.Apart ["id"] p := by decide
          rw [Json.valueAt_putAt_ne (hid ▸ hapart p hp)]
        rw [huid]
        refine Json.firstPath_putAt h ?_ hne hcarries
        intro q hq
        left
        rw [List.mem_singleton.mp hq, hid]

theorem under_mem (outer key : String) :
    under payload outer key = [outer, key] ∨ under payload outer key = [key] := by
  unfold under
  split
  · exact .inl rfl
  · exact .inr rfl

/-- A Splunk or Falcon parser reads at one of these paths. -/
theorem splunkRead_mem : ∀ q ∈ ["_cd", "sid", "search_name"].map
    (under payload "result"), q ∈ splunkPaths ++ crowdstrikePaths := by
  intro q hq
  simp only [List.map_cons, List.map_nil, List.mem_cons, List.not_mem_nil,
    or_false] at hq
  rcases hq with rfl | rfl | rfl
  · rcases @under_mem payload "result" "_cd" with h | h <;> rw [h] <;> decide
  · rcases @under_mem payload "result" "sid" with h | h <;> rw [h] <;> decide
  · rcases @under_mem payload "result" "search_name" with h | h <;> rw [h] <;>
      decide

theorem crowdstrikeRead_mem : ∀ q ∈ [under payload "event" "DetectionId",
    ["metadata", "offset"]], q ∈ splunkPaths ++ crowdstrikePaths := by
  intro q hq
  simp only [List.mem_cons, List.not_mem_nil, or_false] at hq
  rcases hq with rfl | rfl
  · rcases @under_mem payload "event" "DetectionId" with h | h <;> rw [h] <;>
      decide
  · decide

/-- The parser goes on reading where it read. -/
theorem readPath_putAt {kind : ParserKind}
    (hkind : kind = .splunk ∨ kind = .crowdstrike)
    (h : vendorPath payload kind = some path) (value : Json) :
    readPath (Json.putAt path value payload) kind = readPath payload kind := by
  obtain ⟨-, old, hold⟩ := vendorPath_mem h
  have hpath : path ∈ splunkPaths ++ crowdstrikePaths := by
    rcases hkind with rfl | rfl
    · exact List.mem_append_left _ (Json.mem_of_firstPath h).1
    · exact List.mem_append_right _ (Json.mem_of_firstPath h).1
  have hpresent : ∀ q ∈ splunkPaths ++ crowdstrikePaths,
      (Json.valueAt q (Json.putAt path value payload)).any present =
        (Json.valueAt q payload).any present := by
    intro q hq
    have hany : ∀ o : Option Json, o.any present = o.isSome := by
      intro o
      cases o <;> rfl
    rw [hany, hany]
    exact Json.isSome_valueAt_putAt hold ((paths_apart path hpath q hq).symm) value
  rcases hkind with rfl | rfl
  · unfold readPath
    simp only [List.map_cons, List.map_nil, under_putAt hold]
    exact Json.firstPath_congr fun q hq => hpresent q (splunkRead_mem q hq)
  · unfold readPath
    rw [under_putAt hold]
    exact Json.firstPath_congr fun q hq => hpresent q (crowdstrikeRead_mem q hq)

/-- Where it reads at another path, it does not see the other identifier. -/
theorem misplaced_reads {kind : ParserKind}
    (hkind : kind = .splunk ∨ kind = .crowdstrike)
    (h : vendorPath payload kind = some path)
    (hread : readPath payload kind ≠ some path) (py : PyBuiltins)
    (value : Json) :
    textAt py (Json.putAt path value payload)
        (readPath (Json.putAt path value payload) kind) =
      textAt py payload (readPath payload kind) := by
  rw [readPath_putAt hkind h]
  cases hr : readPath payload kind with
  | none => rfl
  | some r =>
  have hpath : path ∈ splunkPaths ++ crowdstrikePaths := by
    rcases hkind with rfl | rfl
    · exact List.mem_append_left _ (Json.mem_of_firstPath h).1
    · exact List.mem_append_right _ (Json.mem_of_firstPath h).1
  have hmem : r ∈ splunkPaths ++ crowdstrikePaths := by
    rcases hkind with rfl | rfl
    · exact splunkRead_mem r (Json.mem_of_firstPath hr).1
    · exact crowdstrikeRead_mem r (Json.mem_of_firstPath hr).1
  rcases paths_apart path hpath r hmem with rfl | hapart
  · exact absurd hr hread
  · unfold textAt
    rw [Option.bind_some, Option.bind_some, Json.valueAt_putAt_ne hapart]

/-- GuardDuty's and OCSF's identifiers are always read where they are. -/
theorem placed_of_located {kind : ParserKind}
    (hkind : kind = .guardduty ∨ kind = .ocsf)
    (h : vendorPath payload kind = some path) :
    readPath payload kind = some path := by
  have hone : ∀ q, Json.firstPath carries [q] payload = some path →
      Json.firstPath present [q] payload = some path := by
    intro q hq
    obtain ⟨hmem, v, hv, -⟩ := Json.mem_of_firstPath hq
    obtain rfl := List.mem_singleton.mp hmem
    simp [Json.firstPath, hv, present]
  rcases hkind with rfl | rfl
  · exact hone _ h
  · unfold vendorPath at h
    unfold readPath
    rcases Option.or_eq_some_iff.mp h with h | ⟨hnone, h⟩
    · rw [h]
      rfl
    · rw [hnone, hone _ h]
      rfl

end SameShape

/-! ## §5  A parser accepts it too -/

theorem attach_accepts {a a' b : ParsedAlert}
    (h : attachDetectionFinding a = .ok b)
    (hobs : observableTexts a' = observableTexts a) :
    ∃ b', attachDetectionFinding a' = .ok b' := by
  obtain ⟨d, hd, -⟩ := ok_of_bind h
  unfold buildDetectionFindingSlice at hd
  obtain ⟨info, -, hd⟩ := ok_of_bind hd
  obtain ⟨entries, hentries, -⟩ := ok_of_bind hd
  have hinfo : ∀ title desc, findingInfo title desc a'.source.value
      (some (severityToOcsfId a'.severity)) =
        .ok ⟨title, desc, a'.source.value,
          some (severityToOcsfId a'.severity)⟩ := by
    intro title desc
    unfold findingInfo
    cases a'.severity <;> rfl
  unfold attachDetectionFinding buildDetectionFindingSlice
  rw [hinfo, hobs, hentries]
  exact ⟨_, rfl⟩

/-- The identifier's keys of a Splunk result. -/
def splunkIdKeys : List String := ["_cd", "sid", "search_name"]

theorem parseSplunk_accepts {py : PyBuiltins} {p q r r' : Params}
    {a : ParsedAlert}
    (hr : fieldsOf (getOr p "result" (.obj p)) = .ok r)
    (hr' : fieldsOf (getOr q "result" (.obj q)) = .ok r')
    (hsame : ∀ key, key ∉ splunkIdKeys → Json.lookup key r' = Json.lookup key r)
    (htitle : Json.lookup "search_name" q = Json.lookup "search_name" p ∨
      ∃ s, Json.lookup "search_name" q = some (.str s))
    (h : parseSplunk py p = .ok a) : ∃ b, parseSplunk py q = .ok b := by
  unfold parseSplunk at h
  obtain ⟨result, hresult, h⟩ := ok_of_bind h
  obtain rfl := Except.ok.inj (hresult.symm.trans hr)
  obtain ⟨severity, hseverity, h⟩ := ok_of_bind h
  obtain ⟨network, hnetwork, h⟩ := ok_of_bind h
  obtain ⟨process, hprocess, h⟩ := ok_of_bind h
  obtain ⟨user, huser, h⟩ := ok_of_bind h
  obtain ⟨title, htitle', h⟩ := ok_of_bind h
  obtain ⟨description, hdescription, h⟩ := ok_of_bind h
  obtain ⟨hostname, hhostname, h⟩ := ok_of_bind h
  obtain ⟨tactic, htactic, h⟩ := ok_of_bind h
  obtain ⟨technique, htechnique, h⟩ := ok_of_bind h
  -- all that is read besides the ids is read alike
  have hget : ∀ key, key ∉ splunkIdKeys → ∀ d,
      getOr r' key d = getOr result key d := by
    intro key hkey d
    unfold getOr
    rw [hsame key hkey]
  have hnetwork' : splunkNetwork py r' = .ok network := by
    rw [← hnetwork]
    unfold splunkNetwork get
    simp (disch := decide) only [hget]
  have hprocess' : splunkProcess py r' = .ok process := by
    rw [← hprocess]
    unfold splunkProcess get
    simp (disch := decide) only [hget]
  have huser' : splunkUser r' = .ok user := by
    rw [← huser]
    unfold splunkUser get
    simp (disch := decide) only [hget]
  have htitle'' : ∃ s, requiredStr (getOr q "search_name"
      (getOr result "source" (.str "Splunk Alert"))) = .ok s := by
    rcases htitle with hsearch | ⟨s, hs⟩
    · refine ⟨title, ?_⟩
      rw [← htitle']
      unfold getOr
      rw [hsearch]
    · refine ⟨s, ?_⟩
      unfold getOr
      rw [hs]
      rfl
  have hdescription' : ∃ s, requiredStr (getOr result "message"
      (getOr result "_raw" (.str (textTake 500 (jsonDumps r'))))) = .ok s := by
    unfold getOr at hdescription ⊢
    cases hm : Json.lookup "message" result with
    | some v =>
        rw [hm] at hdescription
        exact ⟨_, hdescription⟩
    | none =>
        cases hw : Json.lookup "_raw" result with
        | some v =>
            rw [hm, hw] at hdescription
            exact ⟨_, hdescription⟩
        -- a dump of the result stands in, whatever the result
        | none => exact ⟨_, rfl⟩
  obtain ⟨title', htitle''⟩ := htitle''
  obtain ⟨description', hdescription'⟩ := hdescription'
  unfold get at hhostname htactic htechnique
  unfold parseSplunk get
  rw [hr']
  simp (disch := decide) only [ok_bind, hnetwork', hprocess', huser', hget,
    hseverity, htitle'', hdescription', hhostname, htactic, htechnique]
  exact attach_accepts h rfl

theorem parseCrowdstrike_accepts {py : PyBuiltins} {p q e e' m m' : Params}
    {a : ParsedAlert}
    (he : fieldsOf (getOr p "event" (.obj p)) = .ok e)
    (he' : fieldsOf (getOr q "event" (.obj q)) = .ok e')
    (hm : subFields p "metadata" = .ok m) (hm' : subFields q "metadata" = .ok m')
    (hsame : ∀ key, key ∉ ["DetectionId", "metadata"] →
      Json.lookup key e' = Json.lookup key e)
    (h : parseCrowdstrike py p = .ok a) :
    ∃ b, parseCrowdstrike py q = .ok b := by
  unfold parseCrowdstrike at h
  obtain ⟨event, hevent, h⟩ := ok_of_bind h
  obtain rfl := Except.ok.inj (hevent.symm.trans he)
  obtain ⟨metadata, hmetadata, h⟩ := ok_of_bind h
  obtain rfl := Except.ok.inj (hmetadata.symm.trans hm)
  obtain ⟨severity, hseverity, h⟩ := ok_of_bind h
  obtain ⟨processId, hprocessId, h⟩ := ok_of_bind h
  obtain ⟨process, hprocess, h⟩ := ok_of_bind h
  obtain ⟨user, huser, h⟩ := ok_of_bind h
  obtain ⟨network, hnetwork, h⟩ := ok_of_bind h
  obtain ⟨title, htitle, h⟩ := ok_of_bind h
  obtain ⟨description, hdescription, h⟩ := ok_of_bind h
  obtain ⟨hostname, hhostname, h⟩ := ok_of_bind h
  obtain ⟨tactic, htactic, h⟩ := ok_of_bind h
  obtain ⟨technique, htechnique, h⟩ := ok_of_bind h
  -- all that is read besides the ids is read alike
  have hget : ∀ key, key ∉ ["DetectionId", "metadata"] → ∀ d,
      getOr e' key d = getOr event key d := by
    intro key hkey d
    unfold getOr
    rw [hsame key hkey]
  have huser' : crowdstrikeUser e' = .ok user := by
    rw [← huser]
    unfold crowdstrikeUser get
    simp (disch := decide) only [hget]
  have hnetwork' : crowdstrikeNetwork py e' = .ok network := by
    rw [← hnetwork]
    unfold crowdstrikeNetwork get
    simp (disch := decide) only [hget]
  unfold get at hprocessId hprocess htitle hhostname htactic htechnique
  unfold parseCrowdstrike get
  rw [he', ok_bind, hm']
  simp (disch := decide) only [ok_bind, huser', hnetwork', hget, hseverity,
    hprocessId, hprocess, htitle, hdescription, hhostname, htactic, htechnique]
  exact attach_accepts h rfl

/-! ### Writing beside a level and inside it -/

theorem level_beside {outer key : String} {value : Json} {p r : Params}
    (hkey : key ≠ outer) (h : fieldsOf (getOr p outer (.obj p)) = .ok r) :
    ∃ r', fieldsOf (getOr (Json.upsert key value p) outer
        (.obj (Json.upsert key value p))) = .ok r' ∧
      ∀ k, k ≠ key → Json.lookup k r' = Json.lookup k r := by
  unfold getOr at h ⊢
  rw [Json.lookup_upsert_ne hkey.symm]
  cases hl : Json.lookup outer p with
  | some v =>
      rw [hl] at h
      exact ⟨r, h, fun _ _ => rfl⟩
  | none =>
      rw [hl] at h
      obtain rfl := Except.ok.inj h
      exact ⟨_, rfl, fun k hk => Json.lookup_upsert_ne hk value _⟩

theorem level_inside {outer key : String} {old value : Json} {p r : Params}
    (hold : Json.valueAt [outer, key] p = some old)
    (h : fieldsOf (getOr p outer (.obj p)) = .ok r) :
    ∃ r', fieldsOf (getOr (Json.putAt [outer, key] value p) outer
        (.obj (Json.putAt [outer, key] value p))) = .ok r' ∧
      ∀ k, k ≠ key → Json.lookup k r' = Json.lookup k r := by
  have hr : Json.fieldsOrEmpty (Json.lookup outer p) = r := by
    unfold getOr at h
    cases hl : Json.lookup outer p with
    | some v =>
        rw [hl] at h
        cases v with
        | obj f => exact Except.ok.inj h
        | _ => cases h
    | none =>
        rw [Json.valueAt_two, hl] at hold
        cases hold
  refine ⟨Json.upsert key value r, ?_, fun k hk => Json.lookup_upsert_ne hk value _⟩
  unfold getOr
  show fieldsOf ((Json.lookup outer (Json.upsert outer _ p)).getD _) = _
  rw [Json.lookup_upsert, hr]
  rfl

theorem subFields_beside {outer key : String} {value : Json} {p m : Params}
    (hkey : key ≠ outer) (h : subFields p outer = .ok m) :
    subFields (Json.upsert key value p) outer = .ok m := by
  unfold subFields getOr at h ⊢
  rw [Json.lookup_upsert_ne hkey.symm]
  exact h

theorem splunk_accepts {py : PyBuiltins} {p : Params} {path : Json.Path}
    {old : Json} {a : ParsedAlert} (hpath : path ∈ splunkPaths)
    (hold : Json.valueAt path p = some old) (text : String)
    (h : parseSplunk py p = .ok a) :
    ∃ b, parseSplunk py (Json.putAt path (.str text) p) = .ok b := by
  have hresult := h
  unfold parseSplunk at hresult
  obtain ⟨r, hr, -⟩ := ok_of_bind hresult
  -- the id is in the result, or beside it
  have hinside : ∀ key, key ∈ splunkIdKeys → ∀ {old},
      Json.valueAt ["result", key] p = some old →
      ∃ b, parseSplunk py (Json.putAt ["result", key] (.str text) p) = .ok b := by
    intro key hkey old hold
    obtain ⟨r', hr', hsame⟩ := level_inside hold hr
    refine parseSplunk_accepts hr hr' (fun k hk => hsame k ?_) (.inl ?_) h
    · rintro rfl
      exact hk hkey
    · exact Json.lookup_upsert_ne (by decide) _ _
  have hbeside : ∀ key, key ∈ splunkIdKeys →
      ∃ b, parseSplunk py (Json.putAt [key] (.str text) p) = .ok b := by
    intro key hkey
    have hne : key ≠ "result" := by
      rintro rfl
      exact absurd hkey (by decide)
    obtain ⟨r', hr', hsame⟩ := @level_beside "result" key (.str text) p r hne hr
    refine parseSplunk_accepts hr hr' (fun k hk => hsame k ?_) ?_ h
    · rintro rfl
      exact hk hkey
    · by_cases hs : "search_name" = key
      · subst hs
        exact .inr ⟨text, Json.lookup_upsert _ _ _⟩
      · exact .inl (Json.lookup_upsert_ne hs _ _)
  simp only [splunkPaths, List.mem_cons, List.not_mem_nil, or_false] at hpath
  rcases hpath with rfl | rfl | rfl | rfl | rfl | rfl
  · exact hinside "_cd" (by decide) hold
  · exact hbeside "_cd" (by decide)
  · exact hinside "sid" (by decide) hold
  · exact hbeside "sid" (by decide)
  · exact hinside "search_name" (by decide) hold
  · exact hbeside "search_name" (by decide)

theorem crowdstrike_accepts {py : PyBuiltins} {p : Params} {path : Json.Path}
    {old : Json} {a : ParsedAlert} (hpath : path ∈ crowdstrikePaths)
    (hold : Json.valueAt path p = some old) (text : String)
    (h : parseCrowdstrike py p = .ok a) :
    ∃ b, parseCrowdstrike py (Json.putAt path (.str text) p) = .ok b := by
  have hevent := h
  unfold parseCrowdstrike at hevent
  obtain ⟨e, he, hmetadata⟩ := ok_of_bind hevent
  obtain ⟨m, hm, -⟩ := ok_of_bind hmetadata
  simp only [crowdstrikePaths, List.mem_cons, List.not_mem_nil, or_false] at hpath
  rcases hpath with rfl | rfl | rfl
  · obtain ⟨e', he', hsame⟩ := level_inside hold he
    refine parseCrowdstrike_accepts he he' hm (subFields_beside (by decide) hm)
      (fun k hk => hsame k ?_) h
    rintro rfl
    exact hk (by decide)
  · obtain ⟨e', he', hsame⟩ :=
      @level_beside "event" "DetectionId" (.str text) p e (by decide) he
    refine parseCrowdstrike_accepts he he' hm (subFields_beside (by decide) hm)
      (fun k hk => hsame k ?_) h
    rintro rfl
    exact hk (by decide)
  · obtain ⟨e', he', hsame⟩ := @level_beside "event" "metadata"
      (.obj (Json.putAt ["offset"] (.str text)
        (Json.fieldsOrEmpty (Json.lookup "metadata" p)))) p e (by decide) he
    have hm' : subFields (Json.putAt ["metadata", "offset"] (.str text) p)
        "metadata" = .ok (Json.putAt ["offset"] (.str text)
          (Json.fieldsOrEmpty (Json.lookup "metadata" p))) := by
      unfold subFields getOr
      show fieldsOf ((Json.lookup "metadata" (Json.upsert "metadata" _ p)).getD _) = _
      rw [Json.lookup_upsert]
      rfl
    refine parseCrowdstrike_accepts he he' hm hm' (fun k hk => hsame k ?_) h
    rintro rfl
    exact hk (by decide)

/-! ## §6  Which events are told apart -/

/-- The payload is accepted, its event named `id` by the vendor. -/
def Accepted (py : PyBuiltins) (source : AlertSource) (payload : Params)
    (id : String) (a : ParsedAlert) : Prop :=
  eventId py source payload = some id ∧
    ∃ uuid, normalizeAlert py uuid source payload = .ok a

/-- The alert of a payload is another than the alert of every other event
whose identifier is read where it is, or is in the same place as this one's. -/
def ToldApart (py : PyBuiltins) (source : AlertSource) (payload : Params)
    (id : String) (a : ParsedAlert) : Prop :=
  ∀ payload' id' a', Accepted py source payload' id' a' →
    Placed source payload' ∨ SameShape source payload payload' →
    id' ≠ id → a'.alertId ≠ a.alertId

theorem sameShape_eventId {py : PyBuiltins} {source : AlertSource}
    {payload : Params} {path : Json.Path} {text : String}
    (h : vendorPath payload (parserOf source payload) = some path)
    (ht : text ≠ "") :
    parserOf source (Json.putAt path (.str text) payload) =
        parserOf source payload ∧
      eventId py source (Json.putAt path (.str text) payload) = some text := by
  obtain ⟨hmem, -⟩ := vendorPath_mem h
  obtain ⟨hne, hclass⟩ := identifierPaths_apart path hmem
  have hparser := @parserOf_putAt payload path hclass (.str text) source
  refine ⟨hparser, ?_⟩
  unfold eventId textAt
  rw [hparser, vendorPath_putAt h ht, Option.bind_some, Json.valueAt_putAt hne,
    Option.map_some, py.str_text]

theorem placed_putAt {source : AlertSource} {payload payload' : Params}
    (h : Placed source payload) (hs : SameShape source payload payload') :
    Placed source payload' := by
  obtain ⟨path, text, hpath, ht, rfl⟩ := hs
  obtain ⟨hmem, -⟩ := vendorPath_mem hpath
  have hparser := @parserOf_putAt payload path
    (identifierPaths_apart path hmem).2 (.str text) source
  have hput := vendorPath_putAt hpath ht
  unfold Placed at h ⊢
  rw [hparser, hput]
  rw [hpath] at h
  cases hkind : parserOf source payload with
  | generic =>
      rw [hkind] at hpath
      cases hpath
  | splunk =>
      rw [hkind] at h hpath
      rw [readPath_putAt (.inl rfl) hpath, h]
  | crowdstrike =>
      rw [hkind] at h hpath
      rw [readPath_putAt (.inr rfl) hpath, h]
  | guardduty =>
      rw [hkind] at hput
      exact placed_of_located (.inl rfl) hput
  | ocsf =>
      rw [hkind] at hput
      exact placed_of_located (.inr rfl) hput

/-- A misplaced identifier can be any other without the alert's id changing. -/
theorem misplaced_merges {py : PyBuiltins} {source : AlertSource}
    {payload : Params} {id : String} {a : ParsedAlert}
    (h : Accepted py source payload id a) (hnot : ¬ Placed source payload)
    {text : String} (ht : text ≠ "") :
    ∃ payload' a', SameShape source payload payload' ∧
      Accepted py source payload' text a' ∧ a'.alertId = a.alertId := by
  obtain ⟨hid, uuid, ha⟩ := h
  obtain ⟨path, hpath, -⟩ := Option.bind_eq_some_iff.mp hid
  obtain ⟨hparser, hid'⟩ := @sameShape_eventId py _ _ _ _ hpath ht
  obtain ⟨-, old, hold⟩ := vendorPath_mem hpath
  have hread : readPath payload (parserOf source payload) ≠ some path := by
    intro hr
    exact hnot (hr.trans hpath.symm)
  have hgeneric := kind_of_eventId hid
  -- the other parsers read the id where the paths look for it
  have hkind : parserOf source payload = .splunk ∨
      parserOf source payload = .crowdstrike := by
    cases hk : parserOf source payload with
    | splunk => exact .inl rfl
    | crowdstrike => exact .inr rfl
    | generic => exact absurd hk hgeneric
    | guardduty =>
        rw [hk] at hpath hread
        exact absurd (placed_of_located (.inl rfl) hpath) hread
    | ocsf =>
        rw [hk] at hpath hread
        exact absurd (placed_of_located (.inr rfl) hpath) hread
  have haccept : ∃ b, normalizeAlert py uuid source
      (Json.putAt path (.str text) payload) = .ok b := by
    have hdispatch : ∀ p, parserOf source p = parserOf source payload →
        normalizeAlert py uuid source p =
          if parserOf source payload = .splunk then parseSplunk py p
          else parseCrowdstrike py p := by
      intro p hp
      rw [← hp] at hkind ⊢
      unfold normalizeAlert
      unfold parserOf at hkind ⊢
      by_cases hocsf : isDetectionFindingPayload p = true
      · rw [if_pos hocsf] at hkind
        exact absurd hkind (by simp)
      · rw [if_neg hocsf] at hkind ⊢
        rw [if_neg hocsf]
        cases source <;> first | rfl | exact absurd hkind (by simp)
    rw [hdispatch payload rfl] at ha
    rw [hdispatch _ hparser]
    by_cases hsplunk : parserOf source payload = .splunk
    · rw [if_pos hsplunk] at ha ⊢
      rw [hsplunk] at hpath
      exact splunk_accepts (Json.mem_of_firstPath hpath).1 hold text ha
    · rw [if_neg hsplunk] at ha ⊢
      rw [hkind.resolve_left hsplunk] at hpath
      exact crowdstrike_accepts (Json.mem_of_firstPath hpath).1 hold text ha
  obtain ⟨b, hb⟩ := haccept
  refine ⟨_, b, ⟨path, text, hpath, ht, rfl⟩, ⟨hid', uuid, hb⟩, ?_⟩
  rw [(normalize_ids hb).1, (normalize_ids ha).1, hparser, if_neg hgeneric,
    if_neg hgeneric]
  have hsame := misplaced_reads hkind hpath hread py (.str text)
  rcases hkind with hk | hk
  · rw [hk] at hsame ⊢
    rw [splunk_reads, splunk_reads, hsame]
  · rw [hk] at hsame ⊢
    rw [crowdstrike_reads, crowdstrike_reads, hsame]

/-- **Which events are told apart**, if no two texts have one digest: those
whose identifier is read where the payload carries it. -/
theorem told_apart_iff (py : PyBuiltins)
    (hinj : Function.Injective py.sha256Hex16) {source : AlertSource}
    {payload : Params} {id : String} {a : ParsedAlert}
    (h : Accepted py source payload id a) :
    ToldApart py source payload id a ↔ Placed source payload := by
  constructor
  · intro hapart
    by_contra hnot
    have hne : id ++ "'" ≠ "" := by
      intro he
      exact absurd (congrArg String.length he) (by simp)
    obtain ⟨payload', a', hshape, haccept, hsame⟩ := misplaced_merges h hnot hne
    refine hapart payload' _ a' haccept (.inr hshape) ?_ hsame
    intro he
    exact absurd (congrArg String.length he) (by simp)
  · intro hplaced payload' id' a' haccept hwhere hne hsame
    have hplaced' : Placed source payload' := by
      rcases hwhere with hp | hs
      · exact hp
      · exact placed_putAt hplaced hs
    obtain ⟨hid, uuid, ha⟩ := h
    obtain ⟨hid', uuid', ha'⟩ := haccept
    rw [alertId_of_placed ha hid hplaced, alertId_of_placed ha' hid' hplaced']
      at hsame
    exact hne (hashedSource_text_inj (kind_of_eventId hid') (kind_of_eventId hid)
      (hinj hsame))

theorem told_apart_iff_indexed :
    ∃ a, Accepted plainBuiltins .splunk indexedPayload "idx:12345" a ∧
      (ToldApart plainBuiltins .splunk indexedPayload "idx:12345" a ↔
        Placed .splunk indexedPayload) :=
  have h : Accepted plainBuiltins .splunk indexedPayload "idx:12345" _ :=
    ⟨rfl, "11111111-1111-4111-8111-111111111111", rfl⟩
  ⟨_, h, told_apart_iff plainBuiltins plainBuiltins_injective h⟩

/-- An alert action of a saved search: its name stands next to the result. -/
def savedSearch (name host : String) : Params :=
  [("search_name", .str name),
    ("result", .obj [("_time", .str "2026-04-12T04:15:00Z"),
      ("urgency", .str "high"), ("host", .str host)])]

/-- Two alerts of different searches on different hosts are one. -/
theorem searches_merged :
    Function.Injective plainBuiltins.sha256Hex16 ∧
      ∃ a b,
        Accepted plainBuiltins .splunk
          (savedSearch "DNS Tunneling Detection" "workstation-045")
          "DNS Tunneling Detection" a ∧
        Accepted plainBuiltins .splunk
          (savedSearch "Encoded PowerShell" "laptop-112")
          "Encoded PowerShell" b ∧
        a.alertId = "ca77b4ad7cc6e8e8" ∧ b.alertId = "ca77b4ad7cc6e8e8" :=
  ⟨plainBuiltins_injective, _, _, ⟨rfl, "", rfl⟩, ⟨rfl, "", rfl⟩, rfl, rfl⟩

end AlertTriage
