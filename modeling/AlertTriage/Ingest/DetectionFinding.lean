import AlertTriage.Ingest.AlertWire

/-!
# `components/detection_finding_builder.py`

The slice of an alert with every field. Its texts are truncated before the schema sees them,
the values of its observables are not: the builder returns exactly when each of these is within
the bound of the schema (`built_iff`).
-/

namespace AlertTriage

open Library

/-! ## §1  The builder -/

namespace WholeAlert

/-- The username, under its domain if there is one. -/
def userText (a : WholeAlert) : Option String := do
  let user ← a.user.map WholeUser.toUserActivity
  let name ← user.username
  match user.domain with
  | some domain =>
      return if domain = "" ∨ name = "" then name else domain ++ "\\" ++ name
  | none => return name

/-- The types of the observables and what the alert has for each, in order. -/
def observableFields (a : WholeAlert) : List (String × Option String) :=
  [("Hostname", a.hostname), ("Asset Identifier", a.assetId),
    ("Cloud Account", a.cloudAccountId),
    ("IPv4 Address", (a.network.map WholeNetwork.toNetworkActivity).bind NetworkActivity.srcIp),
    ("IPv4 Address", (a.network.map WholeNetwork.toNetworkActivity).bind NetworkActivity.dstIp),
    ("User", a.userText),
    ("Process Name", a.process.bind ProcessActivity.processName),
    ("SHA-256 Hash", a.process.bind ProcessActivity.hashSha256),
    ("MD5 Hash", a.process.bind ProcessActivity.hashMd5)]

/-- An empty text is left out. -/
def observableText (field : String × Option String) : Option (String × String) :=
  (field.2.filter (· != "")).map fun s => (field.1, s)

def observableTexts (a : WholeAlert) : List (String × String) :=
  a.observableFields.filterMap observableText

/-- The command line, else the description. -/
def evidenceText (a : WholeAlert) : String :=
  match a.process.bind ProcessActivity.commandLine with
  | some line => if line = "" then a.description else line
  | none => a.description

/-- `EvidenceBundle(...)`: a text of at most 8192 characters. -/
def evidenceBundle (queryResult : Option String) : Except PyExn EvidenceBundle :=
  if Pydantic.EvidenceFits ⟨queryResult⟩ then .ok ⟨queryResult⟩ else .error validationError

/-- `build_detection_finding_slice`. -/
def buildDetectionFindingSlice (a : WholeAlert) : Except PyExn WholeFinding := do
  let info ← findingInfo (trunc a.title 512) (trunc a.description 4000) a.source.value
    (some (severityToOcsfId a.severity))
  let entries ← a.observableTexts.mapM fun t => observableEntry t.1 t.2
  let evidence := trunc a.evidenceText 8192
  let evidences ← evidenceBundle (if evidence = "" then none else some evidence)
  return {
    schemaVersion := "1.0.0"
    findingInfo := ⟨info.title, info.desc, some info.productUid, info.severityId⟩
    observables := dedupeEntries entries
    attacks := attackContext a.mitreTactic a.mitreTechnique
    evidences := some evidences }

/-! ## §2  What is expected of it -/

/-- There is an observable for the text, if it is not empty. -/
def Observed (f : WholeFinding) (type : String) (field : Option String) : Prop :=
  ∀ s ∈ field, s ≠ "" → ⟨type, s⟩ ∈ f.observables

/-- A slice of the alert that is bounded, free of duplicates and complete. -/
structure Summarises (a : WholeAlert) (f : WholeFinding) : Prop where
  title : f.findingInfo.title.length ≤ 512
  description : f.findingInfo.desc.length ≤ 4000
  evidence : ∀ e ∈ f.evidences, ∀ s ∈ e.queryResult, s.length ≤ 8192
  nodup : f.observables.Nodup
  hostname : Observed f "Hostname" a.hostname
  assetId : Observed f "Asset Identifier" a.assetId
  cloudAccount : Observed f "Cloud Account" a.cloudAccountId
  srcIp : ∀ n ∈ a.network, Observed f "IPv4 Address" n.srcIp
  dstIp : ∀ n ∈ a.network, Observed f "IPv4 Address" n.dstIp
  user : Observed f "User" a.userText
  processName : ∀ q ∈ a.process, Observed f "Process Name" q.processName
  sha256 : ∀ q ∈ a.process, Observed f "SHA-256 Hash" q.hashSha256
  md5 : ∀ q ∈ a.process, Observed f "MD5 Hash" q.hashMd5

/-- No text that becomes an observable is longer than its value may be. -/
def ShortTexts (a : WholeAlert) : Prop :=
  ∀ field ∈ a.observableFields, ∀ s ∈ field.2, s.length ≤ 2048

theorem mem_observableTexts {a : WholeAlert} {type s : String} :
    (type, s) ∈ a.observableTexts ↔ (type, some s) ∈ a.observableFields ∧ s ≠ "" := by
  unfold observableTexts
  rw [List.mem_filterMap]
  constructor
  · rintro ⟨⟨type', field⟩, hfield, htext⟩
    obtain ⟨s', hs', heq⟩ := Option.map_eq_some_iff.mp htext
    obtain ⟨hfield', hne⟩ := Option.filter_eq_some_iff.mp hs'
    obtain ⟨rfl, rfl⟩ := Prod.mk.inj heq
    obtain rfl : field = some s' := hfield'
    exact ⟨hfield, bne_iff_ne.mp hne⟩
  · rintro ⟨hfield, hne⟩
    refine ⟨_, hfield, ?_⟩
    show ((some s).filter (· != "")).map _ = _
    rw [Option.filter_some_pos (p := (· != "")) (bne_iff_ne.mpr hne)]
    rfl

/-- The texts that become observables are short when the fields are: an empty one is short. -/
theorem shortTexts_iff {a : WholeAlert} :
    a.ShortTexts ↔ ∀ t ∈ a.observableTexts, t.2.length ≤ 2048 := by
  constructor
  · intro h t ht
    exact h _ (mem_observableTexts.mp ht).1 _ rfl
  · rintro h ⟨type, field⟩ hfield s hs
    obtain rfl : field = some s := hs
    by_cases hne : s = ""
    · subst hne
      exact Nat.zero_le _
    · exact h (type, s) (mem_observableTexts.mpr ⟨hfield, hne⟩)

/-! ## §3  The steps of the builder -/

theorem nodup_dedupeEntries (entries : List ObservableEntry) :
    (dedupeEntries entries).Nodup := by
  induction entries using List.reverseRecOn with
  | nil => exact List.nodup_nil
  | append_singleton entries o ih =>
      rw [dedupeEntries_concat]
      split
      · exact ih
      · exact List.nodup_append_comm.mp (List.nodup_cons.mpr ⟨‹_›, ih⟩)

/-- The entries are built when every value is short; one that is not is refused. -/
theorem observableEntries_eq (texts : List (String × String)) :
    texts.mapM (fun t => observableEntry t.1 t.2) =
      if ∀ t ∈ texts, t.2.length ≤ 2048 then .ok (texts.map fun t => ⟨t.1, t.2⟩)
      else .error validationError := by
  induction texts with
  | nil => rfl
  | cons t texts ih =>
      have hall := List.forall_mem_cons (p := fun t => t.2.length ≤ 2048) (a := t) (l := texts)
      rw [List.mapM_cons, ih, observableEntry]
      by_cases ht : t.2.length ≤ 2048
      · rw [if_pos ht]
        by_cases hrest : ∀ t ∈ texts, t.2.length ≤ 2048
        · rw [if_pos hrest, if_pos (hall.mpr ⟨ht, hrest⟩)]
          rfl
        · rw [if_neg hrest, if_neg fun h => hrest (hall.mp h).2]
          rfl
      · rw [if_neg ht, if_neg fun h => ht (hall.mp h).1]
        rfl

theorem findingInfo_severity (title desc productUid : String) (severity : Severity) :
    findingInfo title desc productUid (some (severityToOcsfId severity)) =
      .ok ⟨title, desc, productUid, some (severityToOcsfId severity)⟩ := by
  cases severity <;> rfl

theorem evidenceBundle_trunc (text : String) :
    evidenceBundle (if trunc text 8192 = "" then none else some (trunc text 8192)) =
      .ok ⟨if trunc text 8192 = "" then none else some (trunc text 8192)⟩ := by
  apply if_pos
  intro s hs
  split at hs
  · cases hs
  · obtain rfl := Option.some.inj hs
    exact length_trunc (by decide) text

/-- The slice of an alert whose texts are short. -/
def slice (a : WholeAlert) : WholeFinding where
  schemaVersion := "1.0.0"
  findingInfo := ⟨trunc a.title 512, trunc a.description 4000, some a.source.value,
    some (severityToOcsfId a.severity)⟩
  observables := dedupeEntries (a.observableTexts.map fun t => ⟨t.1, t.2⟩)
  attacks := attackContext a.mitreTactic a.mitreTechnique
  evidences := some ⟨if trunc a.evidenceText 8192 = "" then none
    else some (trunc a.evidenceText 8192)⟩

theorem build_eq (a : WholeAlert) :
    a.buildDetectionFindingSlice =
      if ∀ t ∈ a.observableTexts, t.2.length ≤ 2048 then .ok a.slice
      else .error validationError := by
  unfold buildDetectionFindingSlice
  rw [findingInfo_severity, observableEntries_eq]
  split
  · show (evidenceBundle _ >>= _) = _
    rw [evidenceBundle_trunc]
    rfl
  · rfl

theorem mem_slice_observables {a : WholeAlert} {type s : String} :
    ⟨type, s⟩ ∈ a.slice.observables ↔ (type, some s) ∈ a.observableFields ∧ s ≠ "" := by
  unfold slice
  rw [mem_dedupeEntries, List.mem_map, ← mem_observableTexts]
  constructor
  · rintro ⟨t, ht, heq⟩
    obtain ⟨rfl, rfl⟩ := ObservableEntry.mk.inj heq
    exact ht
  · exact fun h => ⟨_, h, rfl⟩

theorem observed_slice {a : WholeAlert} {type : String} {field : Option String}
    (h : (type, field) ∈ a.observableFields) : Observed a.slice type field := by
  intro s hs hne
  obtain rfl : field = some s := hs
  exact mem_slice_observables.mpr ⟨h, hne⟩

theorem slice_summarises (a : WholeAlert) : a.Summarises a.slice where
  title := length_trunc (by decide) _
  description := length_trunc (by decide) _
  evidence := by
    intro e he s hs
    obtain rfl := Option.some.inj he
    simp only at hs
    split at hs
    · cases hs
    · obtain rfl := Option.some.inj hs
      exact length_trunc (by decide) _
  nodup := nodup_dedupeEntries _
  hostname := observed_slice (by simp [observableFields])
  assetId := observed_slice (by simp [observableFields])
  cloudAccount := observed_slice (by simp [observableFields])
  srcIp n hn := by
    obtain hn : a.network = some n := hn
    exact observed_slice (by simp [observableFields, hn])
  dstIp n hn := by
    obtain hn : a.network = some n := hn
    exact observed_slice (by simp [observableFields, hn])
  user := observed_slice (by simp [observableFields])
  processName q hq := by
    obtain hq : a.process = some q := hq
    exact observed_slice (by simp [observableFields, hq])
  sha256 q hq := by
    obtain hq : a.process = some q := hq
    exact observed_slice (by simp [observableFields, hq])
  md5 q hq := by
    obtain hq : a.process = some q := hq
    exact observed_slice (by simp [observableFields, hq])

/-! ## §4  When it returns -/

/-- **The builder** returns a slice that is bounded, free of duplicates and complete exactly
when no text that becomes an observable is longer than a value may be. -/
theorem built_iff (a : WholeAlert) :
    (∃ f, a.buildDetectionFindingSlice = .ok f ∧ a.Summarises f) ↔ a.ShortTexts := by
  rw [build_eq, shortTexts_iff]
  constructor
  · rintro ⟨f, hf, -⟩
    split at hf
    · assumption
    · cases hf
  · intro h
    exact ⟨a.slice, if_pos h, a.slice_summarises⟩

/-- An alert of a host whose name is one character longer than a value may be. -/
def longHost : WholeAlert where
  alertId := "a-1"
  source := .splunk
  sourceAlertId := none
  title := "Malware on host"
  description := "Malware on host"
  severity := .high
  timestamp := ⟨0, none⟩
  ingestedAt := ⟨0, none⟩
  tenantId := none
  categoryUid := none
  classUid := none
  activityId := none
  hostname := some (String.ofList (List.replicate 2049 'a'))
  assetId := none
  cloudRegion := none
  cloudAccountId := none
  network := none
  process := none
  user := none
  mitreTactic := none
  mitreTechnique := none
  detectionFinding := none
  rawPayload := []
  coercedByLlm := false
  coercionTraceId := none

theorem longHost_refused :
    ¬ ∀ a : WholeAlert, ∃ f, a.buildDetectionFindingSlice = .ok f ∧ a.Summarises f := by
  intro h
  obtain ⟨f, hf, -⟩ := h longHost
  rw [build_eq] at hf
  split at hf
  · rename_i hshort
    have hhost := shortTexts_iff.mpr hshort _ List.mem_cons_self _ rfl
    rw [String.length_ofList, List.length_replicate] at hhost
    exact absurd hhost (by decide)
  · cases hf

/-! ## §5  The parsed alert -/

theorem observableText_of_none {type : String} {field : Option String} (h : field = none) :
    [] = (observableText (type, field)).toList := by
  subst h
  rfl

theorem observableText_of_some {type s : String} {field : Option String}
    (h : field = some s) :
    (if s = "" then [] else [(type, s)]) = (observableText (type, field)).toList := by
  subst h
  show _ = (((some s).filter (· != "")).map fun s => (type, s)).toList
  by_cases hs : s = ""
  · subst hs
    rfl
  · rw [if_neg hs, Option.filter_some_pos (p := (· != "")) (bne_iff_ne.mpr hs)]
    rfl

/-- The builder reads of a parsed alert what it reads of the whole one, but for the asset. -/
theorem observableTexts_parsed {a : WholeAlert} (hasset : a.assetId.filter (· != "") = none) :
    AlertTriage.observableTexts a.parsed = a.observableTexts := by
  have hnone : observableText ("Asset Identifier", a.assetId) = none := by
    rw [observableText, hasset]
    rfl
  unfold AlertTriage.observableTexts observableTexts observableFields
  rw [List.filterMap_eq_flatMap_toList]
  simp only [List.flatMap_cons, List.flatMap_nil, hnone, Option.toList_none, List.nil_append,
    List.append_nil, ← List.append_assoc]
  repeat' apply congrArg₂ (· ++ ·)
  all_goals
    split
    · exact observableText_of_some ‹_›
    · exact observableText_of_none ‹_›

/-- **Two readings**: on an alert without an asset the builder does what it does on the parsed
alert. -/
theorem build_parsed {a : WholeAlert} (hasset : a.assetId.filter (· != "") = none) :
    AlertTriage.buildDetectionFindingSlice a.parsed =
      a.buildDetectionFindingSlice.map WholeFinding.slice := by
  unfold AlertTriage.buildDetectionFindingSlice
  rw [build_eq, observableTexts_parsed hasset, observableEntries_eq]
  show (findingInfo _ _ _ (some (severityToOcsfId a.severity)) >>= _) = _
  rw [findingInfo_severity]
  split
  · rfl
  · rfl

end WholeAlert

end AlertTriage
