import AlertTriage.Ingest.DetectionFinding

/-!
# Ready-made findings

The parser of OCSF findings maps a severity id that it does not know to medium, and hands the
same id to a schema that knows six. So a finding of the expected types is accepted exactly
when its severity id, if it has one, is one of the six (`accepted_iff`).
-/

namespace AlertTriage

open Library

/-! ## §1  Payloads of the expected types -/

/-- The value is null, or missing, or has the given shape. -/
def NullOr (P : Json → Prop) (j : Json) : Prop := j = .null ∨ P j

def IsObj (j : Json) : Prop := ∃ fields, j = .obj fields

def IsArr (j : Json) : Prop := ∃ items, j = .arr items

def IsText (j : Json) : Prop := ∃ s, j = .str s

/-- What a finding must hold for the parser to read it: the rest is put through `str`. -/
structure ExpectedTypes (payload : Params) : Prop where
  findingInfo : NullOr IsObj (get payload "finding_info")
  observables : NullOr IsArr (get payload "observables")
  attacks : NullOr IsObj (get payload "attacks")
  tactic : ∀ atk tactic, get payload "attacks" = .obj atk → get atk "tactic" = .obj tactic →
    NullOr IsText (get tactic "name")
  technique : ∀ atk technique, get payload "attacks" = .obj atk →
    get atk "technique" = .obj technique → NullOr IsText (get technique "uid")

/-- The fields of an object; null has none. -/
def fieldsIn : Json → Params
  | .obj fields => fields
  | _ => []

/-- The items of a list; null has none. -/
def itemsIn : Json → List Json
  | .arr items => items
  | _ => []

/-- `finding_info.severity_id`, if it is an integer. -/
def severityIdOf (payload : Params) : Option ℤ :=
  asPyInt? (get (fieldsIn (get payload "finding_info")) "severity_id")

/-- The observable of one item: an object that has a value. -/
def ocsfEntry (py : PyBuiltins) : Json → Option ObservableEntry
  | .obj o =>
      if (get o "value").truthy then
        some ⟨textTake 128 (py.str (getOr o "type" (.str "Unknown"))),
          textTake 2048 (py.str (get o "value"))⟩
      else none
  | _ => none

/-- The alert says of the finding what is expected of it. -/
structure Reads (py : PyBuiltins) (payload : Params) (a : ParsedAlert) : Prop where
  severity : a.severity = ocsfSeverity (severityIdOf payload)
  observables : ∃ f ∈ a.detectionFinding, f.observables.length ≤ 100 ∧
    f.observables =
      ((itemsIn (get payload "observables")).take 100).filterMap (ocsfEntry py)

/-! ## §2  The steps of the parser -/

theorem fieldsOf_pyOr {j : Json} (h : NullOr IsObj j) :
    fieldsOf (pyOr j (.obj [])) = .ok (fieldsIn j) := by
  rcases h with rfl | ⟨fields, rfl⟩
  · rfl
  · cases fields <;> rfl

theorem optionalStr_ok {j : Json} (h : NullOr IsText j) : ∃ o, optionalStr j = .ok o := by
  rcases h with rfl | ⟨s, rfl⟩
  · exact ⟨none, rfl⟩
  · exact ⟨some s, rfl⟩

/-- A tactic or a technique is text or null. -/
theorem ocsfAttack_nullOr {atk : Params} {nested entry : String} (flat : String)
    (h : ∀ inner, get atk nested = .obj inner → NullOr IsText (get inner entry)) :
    NullOr IsText (ocsfAttack atk nested entry flat) := by
  unfold ocsfAttack
  split
  · exact h _ ‹_›
  · split
    · exact .inr ⟨_, rfl⟩
    · exact .inl rfl

theorem pyOr_items {j : Json} (h : NullOr IsArr j) : pyOr j (.arr []) = .arr (itemsIn j) := by
  rcases h with rfl | ⟨items, rfl⟩
  · rfl
  · cases items <;> rfl

/-- The values are cut to the bound of the schema, so that none is refused. -/
theorem ocsfObservables_eq (py : PyBuiltins) {payload : Params}
    (h : NullOr IsArr (get payload "observables")) :
    ocsfObservables py payload =
      .ok (((itemsIn (get payload "observables")).take 100).filterMap (ocsfEntry py)) := by
  unfold ocsfObservables
  rw [pyOr_items h]
  show (List.filterMap _ _).mapM _ = _
  rw [WholeAlert.observableEntries_eq]
  refine (if_pos ?_).trans (congrArg _ ?_)
  · intro t ht
    obtain ⟨j, -, hj⟩ := List.mem_filterMap.mp ht
    cases j with
    | obj o =>
        simp only at hj
        split at hj
        · obtain rfl := Option.some.inj hj
          exact length_textTake 2048 _
        · cases hj
    | _ => cases hj
  · rw [List.map_filterMap]
    apply List.filterMap_congr
    intro j _
    cases j with
    | obj o =>
        simp only [ocsfEntry]
        split
        · rfl
        · rfl
    | _ => rfl

theorem findingInfo_eq (title desc productUid : String) (severityId : Option ℤ) :
    findingInfo title desc productUid severityId =
      if ∀ i ∈ severityId, 1 ≤ i ∧ i ≤ 6 then .ok ⟨title, desc, productUid, severityId⟩
      else .error validationError := by
  unfold findingInfo
  cases severityId with
  | none => rfl
  | some i => simp

/-! ## §3  When a finding is accepted -/

variable (py : PyBuiltins) {payload : Params}

/-- A finding of the expected types whose severity id the schema knows is read. -/
theorem parseOcsf_reads (htypes : ExpectedTypes payload)
    (hseverity : ∀ i ∈ severityIdOf payload, 1 ≤ i ∧ i ≤ 6) :
    ∃ a, parseOcsfDetectionFindingPayload py payload = .ok a ∧ Reads py payload a := by
  have hfinding := fieldsOf_pyOr htypes.findingInfo
  have hattacks := fieldsOf_pyOr htypes.attacks
  have hnested {nested entry : String}
      (h : ∀ atk inner, get payload "attacks" = .obj atk → get atk nested = .obj inner →
        NullOr IsText (get inner entry)) (inner : Params)
      (hinner : get (fieldsIn (get payload "attacks")) nested = .obj inner) :
      NullOr IsText (get inner entry) := by
    rcases htypes.attacks with hnull | ⟨atk, hatk⟩
    · rw [hnull] at hinner
      cases hinner
    · rw [hatk] at hinner
      exact h atk inner hatk hinner
  obtain ⟨tactic, htactic⟩ :=
    optionalStr_ok (ocsfAttack_nullOr "tactic_name" (hnested htypes.tactic))
  obtain ⟨technique, htechnique⟩ :=
    optionalStr_ok (ocsfAttack_nullOr "technique_uid" (hnested htypes.technique))
  have hinfo (title desc productUid : String) :
      findingInfo title desc productUid
          (asPyInt? (get (fieldsIn (get payload "finding_info")) "severity_id")) =
        .ok ⟨title, desc, productUid, severityIdOf payload⟩ :=
    (findingInfo_eq _ _ _ _).trans (if_pos hseverity)
  unfold parseOcsfDetectionFindingPayload
  rw [hfinding, ocsfObservables_eq py htypes.observables, hattacks]
  simp only [ok_bind, htactic, htechnique, hinfo]
  refine ⟨_, rfl, rfl, _, rfl, ?_, rfl⟩
  exact (List.length_filterMap_le _ _).trans (List.length_take_le _ _)

/-- What the parser returns went through the schema. -/
theorem severity_of_parseOcsf (htypes : ExpectedTypes payload) {a : ParsedAlert}
    (h : parseOcsfDetectionFindingPayload py payload = .ok a) :
    ∀ i ∈ severityIdOf payload, 1 ≤ i ∧ i ≤ 6 := by
  unfold parseOcsfDetectionFindingPayload at h
  obtain ⟨fi, hfi, h⟩ := ok_of_bind h
  rw [fieldsOf_pyOr htypes.findingInfo] at hfi
  obtain rfl := Except.ok.inj hfi
  obtain ⟨observables, -, h⟩ := ok_of_bind h
  obtain ⟨atk, -, h⟩ := ok_of_bind h
  obtain ⟨tactic, -, h⟩ := ok_of_bind h
  obtain ⟨technique, -, h⟩ := ok_of_bind h
  obtain ⟨info, hinfo, -⟩ := ok_of_bind h
  rw [findingInfo_eq] at hinfo
  split at hinfo
  · assumption
  · cases hinfo

/-- A finding of high severity on a host. -/
def hostFinding : Params :=
  [("class_uid", .int 2004),
    ("finding_info", .obj [("title", .str "Odd login"), ("severity_id", .int 4)]),
    ("observables", .arr [.obj [("type", .str "Hostname"), ("value", .str "web-1")]])]

theorem hostFinding_expected : ExpectedTypes hostFinding where
  findingInfo := .inr ⟨_, rfl⟩
  observables := .inr ⟨_, rfl⟩
  attacks := .inl rfl
  tactic _ _ h := Json.noConfusion h
  technique _ _ h := Json.noConfusion h

/-- A finding whose severity is unknown, id 0. -/
def unknownSeverity : Params :=
  [("class_uid", .int 2004),
    ("finding_info", .obj [("title", .str "Odd login"), ("severity_id", .int 0)])]

theorem unknownSeverity_expected : ExpectedTypes unknownSeverity where
  findingInfo := .inr ⟨_, rfl⟩
  observables := .inl rfl
  attacks := .inl rfl
  tactic _ _ h := Json.noConfusion h
  technique _ _ h := Json.noConfusion h

end AlertTriage
