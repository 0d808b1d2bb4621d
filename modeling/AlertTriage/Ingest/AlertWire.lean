import AlertTriage.Ingest.AlertIdentity
import AlertTriage.Ingest.WholeAlert
import AlertTriage.Runtime.RuntimeGlue
import AlertTriage.Runtime.TriageWorker
import AlertTriage.Api.ApiStores

/-!
# Alerts on the wire

An alert leaves ingest three times: as the body of the inline publish, as the write-ahead entry
that the reconciler publishes again, and as the record that `put_alert` stores. The first and
the last are written by the schema library, which has no text for a number that is not finite;
the entry is written by `json`, which has.

So a payload with such a number comes back changed on two of the three (`survives_iff`), and a
timestamp whose offset is no whole number of minutes on all of them. Every other alert that a
parser builds comes back as it was.
-/

namespace AlertTriage

open Library Json

/-! ## §1  The paths -/

namespace Pydantic

variable (p : Pydantic)

/-- The body of the inline publish. -/
def inlineBody (a : WholeAlert) : Body := .utf8 (p.modelDumpJson a)

/-- The write-ahead entry: the dumped alert with its subject baked in. -/
def walText (a : WholeAlert) : String :=
  Json.dumps pythonStyle (walPayload a.parsed.toNormalizedAlert (p.modelDump a))

/-- The body that the reconciler makes of the entry. -/
def walBody (a : WholeAlert) : Option Body :=
  (Json.loads (p.walText a)).map fun payload => .utf8 (Json.dumps pythonStyle payload)

/-- The body without the fields that the worker takes out of it. -/
def stripped : Json → Json
  | .obj fields => .obj (Json.remove "__subject__" (Json.remove "tenant_id" fields))
  | j => j

/-- `_parse_alert`. -/
def parseAlert (data : Body) (auth : AuthContext) : Except PyExn WholeAlert :=
  match data with
  | .undecodable _ => .error (.other "codec can't decode byte")
  | .utf8 text =>
      match Json.loads text with
      | none => .error (.poisonPill "message body is not valid JSON")
      | some raw =>
          match p.modelValidate (stripped raw) with
          | none =>
              .error (.poisonPill "message body fails NormalizedAlert validation")
          | some alert => .ok { alert with tenantId := some auth.tenantId }

/-- `NormalizedAlert.model_validate_json(raw)`. -/
def validateJson (text : String) : Except PyExn WholeAlert :=
  match (Json.loads text).bind p.modelValidate with
  | some alert => .ok alert
  | none => .error (.other "validation error for NormalizedAlert")

/-- What `get_alert` returns after `put_alert`. -/
def storedAlert (s : AlertPersistence) (a : WholeAlert) : Except PyExn (Option WholeAlert) :=
  if s.usesRedis then readStored p.validateJson (some (.text (p.modelDumpJson a)))
  else .ok (some a)

/-- The alert comes back as it was on every path, up to the tenant. -/
structure Survives (a : WholeAlert) : Prop where
  inline : ∀ auth, p.parseAlert (p.inlineBody a) auth =
    .ok { a with tenantId := some auth.tenantId }
  wal : ∀ auth, ∃ body, p.walBody a = some body ∧
    p.parseAlert body auth = .ok { a with tenantId := some auth.tenantId }
  stored : ∀ s, p.storedAlert s a = .ok (some a)

/-! ### The runtime's codec -/

/-- The serialisation of the alerts that the runtime handles, given the rest of each. -/
def codec (whole : NormalizedAlert → WholeAlert) : AlertCodec where
  modelDump a := .ok (p.modelDump (whole a))
  modelDumpJson a := .ok (p.modelDumpJson (whole a))
  modelValidate j := (p.modelValidate j).map fun a => a.parsed.toNormalizedAlert

/-- The worker reads of a body what is read here. -/
theorem parseAlert_codec (whole : NormalizedAlert → WholeAlert) (data : Body)
    (auth : AuthContext) :
    AlertTriage.parseAlert (p.codec whole) data auth =
      (p.parseAlert data auth).map fun a => a.parsed.toNormalizedAlert := by
  cases data with
  | undecodable b => rfl
  | utf8 text =>
      simp only [AlertTriage.parseAlert, parseAlert]
      cases Json.loads text with
      | none => rfl
      | some raw =>
          cases raw with
          | obj fields =>
              simp only [codec, stripped]
              cases p.modelValidate _ with
              | none => rfl
              | some a => rfl
          | _ => rfl

/-- The store reads of a record what is read here. -/
theorem validateAlertJson_codec (whole : NormalizedAlert → WholeAlert) (text : String) :
    validateAlertJson (p.codec whole) text =
      (p.validateJson text).map fun a => a.parsed.toNormalizedAlert := by
  unfold validateAlertJson validateJson
  cases Json.loads text with
  | none => rfl
  | some raw =>
      simp only [codec, Option.bind_some]
      cases p.modelValidate raw with
      | none => rfl
      | some a => rfl

/-! ## §2  What comes back -/

variable {p} {a : WholeAlert} {payload : Params}

/-- The encoder of the schema library changes nothing but the payload. -/
theorem nulled_alertFields (hfits : AlertFits a) :
    nulledFields floatOverflows (p.alertFields a payload) =
      p.alertFields a (nulledFields floatOverflows payload) := by
  have htext (o : Option String) := (optText_plain o).nulled
  have hint (o : Option ℤ) := (p.optInt_plain o).nulled
  have hnetwork := (Shape.nullable_plain fun n (_ : n ∈ a.network) => p.network_keeps n).nulled
  have hprocess := (Shape.nullable_plain fun q (_ : q ∈ a.process) => p.process_keeps q).nulled
  have huser := (Shape.nullable_plain fun u (_ : u ∈ a.user) => p.user_keeps u).nulled
  have hfinding := (Shape.nullable_plain fun f (hf : f ∈ a.detectionFinding) =>
    p.finding_keeps (hfits f hf)).nulled
  simp only [alertFields, nulledFields, htext, hint, hnetwork, hprocess, huser, hfinding]
  rfl

theorem distinct_alertFields (hfits : AlertFits a) (hpayload : Distinct (.obj payload)) :
    Distinct (.obj (p.alertFields a payload)) := by
  have htext (o : Option String) := (optText_plain o).distinct
  have hint (o : Option ℤ) := (p.optInt_plain o).distinct
  have hnetwork := (Shape.nullable_plain fun n (_ : n ∈ a.network) => p.network_keeps n).distinct
  have hprocess := (Shape.nullable_plain fun q (_ : q ∈ a.process) => p.process_keeps q).distinct
  have huser := (Shape.nullable_plain fun u (_ : u ∈ a.user) => p.user_keeps u).distinct
  have hfinding := (Shape.nullable_plain fun f (hf : f ∈ a.detectionFinding) =>
    p.finding_keeps (hfits f hf)).distinct
  have hdict : Distinct (dict.write payload) := hpayload
  refine ⟨?_, ?_⟩
  · simp [alertFields]
  · simp only [alertFields, DistinctFields, htext, hint, hnetwork, hprocess, huser, hfinding,
      hdict, true_and]
    exact ⟨trivial, trivial, trivial, trivial, trivial, trivial, trivial, trivial, trivial⟩

variable (hfits : AlertFits a) (hdistinct : Distinct (.obj a.rawPayload))
include hfits hdistinct

theorem loads_modelDumpJson :
    Json.loads (p.modelDumpJson a) =
      some (.obj (p.alertFields a (nulledFields floatOverflows a.rawPayload))) := by
  have hnulled : nulled floatOverflows (.obj (p.modelDump a)) =
      .obj (p.alertFields a (nulledFields floatOverflows a.rawPayload)) :=
    congrArg Json.obj (nulled_alertFields hfits)
  have hread := Json.loads_dumps pydanticStyle (nulled_distinct floatOverflows
    (.obj (p.modelDump a)) (distinct_alertFields hfits hdistinct))
  exact hread.trans (congrArg some hnulled)

/-- The entry and what the reconciler makes of it are the same text. -/
theorem walBody_eq : p.walBody a = some (.utf8 (p.walText a)) := by
  have hwal : Distinct (walPayload a.parsed.toNormalizedAlert (p.modelDump a)) :=
    distinct_upsert trivial (distinct_alertFields hfits hdistinct)
  rw [walBody, walText, Json.loads_dumps pythonStyle hwal]
  rfl

theorem loads_walText :
    Json.loads (p.walText a) =
      some (walPayload a.parsed.toNormalizedAlert (p.modelDump a)) :=
  Json.loads_dumps pythonStyle (distinct_upsert trivial (distinct_alertFields hfits hdistinct))

omit hdistinct in
/-- **The worker reads** the alert that a body shows, with the payload of the body. -/
theorem parseAlert_of (htimestamp : a.timestamp.WholeMinutes)
    (hingested : a.ingestedAt.WholeMinutes) {text : String} {fields : Params}
    (hloads : Json.loads text = some (.obj fields))
    (hsame : ∀ key, key ≠ "tenant_id" → key ≠ "__subject__" →
      lookup key fields = lookup key (p.alertFields a payload)) (auth : AuthContext) :
    p.parseAlert (.utf8 text) auth =
      .ok { a with tenantId := some auth.tenantId, rawPayload := payload } := by
  have hread : p.readAlert (Json.remove "__subject__" (Json.remove "tenant_id" fields)) =
      some { a with tenantId := none, rawPayload := payload } := by
    refine readAlert_of hfits htimestamp hingested (fun key htenant => ?_) ?_
    · by_cases hsubject : key = "__subject__"
      · subst hsubject
        rw [lookup_remove]
        rfl
      · rw [lookup_remove_ne hsubject, lookup_remove_ne htenant, hsame key htenant hsubject]
    · have hnone : lookup "tenant_id"
          (Json.remove "__subject__" (Json.remove "tenant_id" fields)) = none := by
        rw [lookup_remove_ne (by decide), lookup_remove]
      rw [Shape.defaulted, hnone]
  simp only [parseAlert, hloads, stripped, modelValidate, hread]

/-- **The alerts that survive**: no number of the payload is anything but finite, and the
timestamp is one whose offset the text of a datetime can say. -/
theorem survives_iff_finite (hingested : a.ingestedAt.WholeMinutes) :
    p.Survives a ↔ Finite floatOverflows (.obj a.rawPayload) ∧ a.timestamp.WholeMinutes := by
  have hinline := loads_modelDumpJson (p := p) hfits hdistinct
  constructor
  · intro h
    have hparse := h.inline ⟨none, "", "", none, none⟩
    simp only [inlineBody, parseAlert, hinline, stripped, modelValidate] at hparse
    -- the payload read back is the dumped one, where floats that are not finite are null
    cases hread : p.readAlert (Json.remove "__subject__" (Json.remove "tenant_id"
        (p.alertFields a (nulledFields floatOverflows a.rawPayload)))) with
    | none =>
        rw [hread] at hparse
        cases hparse
    | some b =>
        rw [hread] at hparse
        have heq := Except.ok.inj hparse
        have htimestamp := congrArg WholeAlert.timestamp heq
        have hraw := congrArg WholeAlert.rawPayload heq
        simp only at htimestamp hraw
        obtain ⟨hwhole, hpayload⟩ := readAlert_inv hread
        rw [Shape.defaulted, lookup_remove_ne (by decide), lookup_remove_ne (by decide)]
          at hpayload
        have hnulled : nulledFields floatOverflows a.rawPayload = a.rawPayload :=
          (Option.some.inj hpayload).trans hraw
        refine ⟨(nulledFields_eq_iff floatOverflows a.rawPayload).mp hnulled, ?_⟩
        rw [← htimestamp]
        exact hwhole
  · rintro ⟨hfinite, htimestamp⟩
    have hsame : nulledFields floatOverflows a.rawPayload = a.rawPayload :=
      (nulledFields_eq_iff floatOverflows a.rawPayload).mpr hfinite
    rw [hsame] at hinline
    constructor
    · intro auth
      exact parseAlert_of hfits htimestamp hingested hinline (fun _ _ _ => rfl) auth
    · intro auth
      refine ⟨_, walBody_eq hfits hdistinct, ?_⟩
      refine parseAlert_of hfits htimestamp hingested (loads_walText hfits hdistinct) ?_ auth
      intro key _ hsubject
      exact lookup_upsert_ne hsubject _ _
    · intro s
      have hread : p.readAlert (p.alertFields a a.rawPayload) = some a :=
        readAlert_of hfits htimestamp hingested (fun _ _ => rfl) (optText_read a.tenantId)
      have hvalid : p.validateJson (p.modelDumpJson a) = .ok a := by
        rw [validateJson, hinline]
        simp only [Option.bind_some, modelValidate, hread]
      have hne : p.modelDumpJson a ≠ "" := by
        intro hempty
        have hnone : (Json.loads "").isSome = false := by decide +kernel
        rw [← hempty, hinline] at hnone
        cases hnone
      unfold storedAlert
      split
      · simp [readStored, RedisValue.toText, hne, hvalid, Except.map]
      · rfl

end Pydantic

/-! ## §3  The alerts that parsers build -/

/-- What the schema bounds in a finding is within its bounds. -/
structure SliceFits (f : DetectionFindingSlice) : Prop where
  severityId : ∀ n ∈ f.findingInfo.severityId, 1 ≤ n ∧ n ≤ 6
  observables : ∀ o ∈ f.observables, o.value.length ≤ 2048
  evidence : ∀ s ∈ f.evidence, s.length ≤ 8192

theorem alertFits_of_parsed {a : WholeAlert}
    (h : ∀ f ∈ a.parsed.detectionFinding, SliceFits f) : Pydantic.AlertFits a := by
  intro f hf
  obtain ⟨hseverity, hobservables, hevidence⟩ := h f.slice (Option.mem_map_of_mem _ hf)
  constructor
  · exact hseverity
  · exact hobservables
  · intro e he s hs
    have hslice : f.slice.evidence = some s := by
      have hbundle : f.evidences = some e := he
      simp only [WholeFinding.slice, hbundle, Option.bind_some]
      exact hs
    exact hevidence s hslice

theorem length_textTake (n : ℕ) (s : String) : (textTake n s).length ≤ n := by
  rw [textTake, String.length_ofList]
  exact List.length_take_le n _

theorem length_trunc {n : ℕ} (hn : 3 ≤ n) (s : String) : (trunc s n).length ≤ n := by
  unfold trunc
  split
  · assumption
  · have htake := length_textTake (n - 3) s
    rw [String.length_append]
    have hdots : "...".length = 3 := by decide
    omega

theorem findingInfo_severityId {title desc productUid : String} {severityId : Option ℤ}
    {i : FindingInfo} (h : findingInfo title desc productUid severityId = .ok i) :
    ∀ n ∈ i.severityId, 1 ≤ n ∧ n ≤ 6 := by
  unfold findingInfo at h
  split at h
  · rename_i hall
    obtain rfl := Except.ok.inj h
    intro n hn
    obtain rfl : severityId = some n := hn
    exact of_decide_eq_true hall
  · cases h

theorem observableEntries_fit {texts : List (String × String)} {entries : List ObservableEntry}
    (h : texts.mapM (fun t => observableEntry t.1 t.2) = .ok entries) :
    ∀ o ∈ entries, o.value.length ≤ 2048 := by
  induction texts generalizing entries with
  | nil =>
      obtain rfl := Except.ok.inj h
      intro o ho
      cases ho
  | cons t texts ih =>
      rw [List.mapM_cons] at h
      obtain ⟨o, ho, h⟩ := ok_of_bind h
      obtain ⟨rest, hrest, h⟩ := ok_of_bind h
      obtain rfl := Except.ok.inj h
      intro o' ho'
      rcases List.mem_cons.mp ho' with rfl | ho'
      · unfold observableEntry at ho
        split at ho
        · obtain rfl := Except.ok.inj ho
          assumption
        · cases ho
      · exact ih hrest o' ho'

theorem dedupeEntries_concat (entries : List ObservableEntry) (o : ObservableEntry) :
    dedupeEntries (entries ++ [o]) =
      if o ∈ dedupeEntries entries then dedupeEntries entries
      else dedupeEntries entries ++ [o] :=
  List.foldl_append

theorem mem_dedupeEntries {entries : List ObservableEntry} {o : ObservableEntry} :
    o ∈ dedupeEntries entries ↔ o ∈ entries := by
  induction entries using List.reverseRecOn with
  | nil => exact Iff.rfl
  | append_singleton entries x ih =>
      rw [dedupeEntries_concat, List.mem_append, List.mem_singleton, ← ih]
      split
      · constructor
        · exact Or.inl
        · rintro (h | rfl)
          · exact h
          · assumption
      · rw [List.mem_append, List.mem_singleton]

theorem attach_fits {a b : ParsedAlert} (h : attachDetectionFinding a = .ok b) :
    ∀ f ∈ b.detectionFinding, SliceFits f := by
  obtain ⟨d, hd, hb⟩ := ok_of_bind h
  obtain rfl := Except.ok.inj hb
  unfold buildDetectionFindingSlice at hd
  obtain ⟨info, hinfo, hd⟩ := ok_of_bind hd
  obtain ⟨entries, hentries, hd⟩ := ok_of_bind hd
  obtain rfl := Except.ok.inj hd
  intro f hf
  obtain rfl := Option.some.inj hf
  constructor
  · exact findingInfo_severityId hinfo
  · exact fun o ho => observableEntries_fit hentries o (mem_dedupeEntries.mp ho)
  · intro s hs
    simp only at hs
    split at hs
    · cases hs
    · obtain rfl := Option.some.inj hs
      exact length_trunc (by decide) _

theorem parseOcsf_fits {py : PyBuiltins} {payload : Params} {a : ParsedAlert}
    (h : parseOcsfDetectionFindingPayload py payload = .ok a) :
    (∀ f ∈ a.detectionFinding, SliceFits f) ∧ a.rawPayload = payload := by
  unfold parseOcsfDetectionFindingPayload at h
  obtain ⟨fi, -, h⟩ := ok_of_bind h
  obtain ⟨observables, hobservables, h⟩ := ok_of_bind h
  obtain ⟨atk, -, h⟩ := ok_of_bind h
  obtain ⟨tactic, -, h⟩ := ok_of_bind h
  obtain ⟨technique, -, h⟩ := ok_of_bind h
  obtain ⟨info, hinfo, h⟩ := ok_of_bind h
  obtain rfl := Except.ok.inj h
  refine ⟨?_, rfl⟩
  intro f hf
  obtain rfl := Option.some.inj hf
  constructor
  · exact findingInfo_severityId hinfo
  · unfold ocsfObservables at hobservables
    dsimp only at hobservables
    split at hobservables
    · exact observableEntries_fit hobservables
    · exact observableEntries_fit hobservables
    · cases hobservables
  · intro s hs
    simp only at hs
    split at hs
    · split at hs
      · obtain rfl := Option.some.inj hs
        exact length_textTake 8192 _
      · cases hs
    · cases hs

/-- What a parser builds is within the bounds of the schema, and carries the payload. -/
theorem normalizeAlert_fits {py : PyBuiltins} {uuid : String} {source : AlertSource}
    {payload : Params} {a : ParsedAlert} (h : normalizeAlert py uuid source payload = .ok a) :
    (∀ f ∈ a.detectionFinding, SliceFits f) ∧ a.rawPayload = payload := by
  rcases normalize_cases h with ⟨-, hocsf⟩ | ⟨-, a₀, hattach, -, -, hpayload⟩
  · exact parseOcsf_fits hocsf
  · refine ⟨attach_fits hattach, ?_⟩
    obtain ⟨d, rfl⟩ := attach_eq hattach
    exact hpayload

/-- The alert whose other fields no parser fills. -/
def WholeAlert.ofParsed (b : ParsedAlert) (timestamp ingestedAt : DateTime) : WholeAlert where
  alertId := b.alertId
  source := b.source
  sourceAlertId := b.sourceAlertId
  title := b.title
  description := b.description
  severity := b.severity
  timestamp := timestamp
  ingestedAt := ingestedAt
  tenantId := b.tenantId
  categoryUid := some 2
  classUid := some 2004
  activityId := none
  hostname := b.hostname
  assetId := none
  cloudRegion := b.cloudRegion
  cloudAccountId := b.cloudAccountId
  network := b.network.map fun n => ⟨n, none, none, none, none, none⟩
  process := b.process
  user := b.user.map fun u => ⟨u, none, false, none⟩
  mitreTactic := b.mitreTactic
  mitreTechnique := b.mitreTechnique
  detectionFinding := b.detectionFinding.map fun f =>
    ⟨f.schemaVersion, ⟨f.findingInfo.title, f.findingInfo.desc, some f.findingInfo.productUid,
      f.findingInfo.severityId⟩, f.observables, f.attacks, some ⟨f.evidence⟩⟩
  rawPayload := b.rawPayload
  coercedByLlm := false
  coercionTraceId := none

theorem WholeAlert.parsed_ofParsed (b : ParsedAlert) (timestamp ingestedAt : DateTime) :
    (ofParsed b timestamp ingestedAt).parsed = b := by
  obtain ⟨⟨_, _, _, _, _, _, _, network, _⟩, _, _, _, _, user, _, finding, _⟩ := b
  cases network <;> cases user <;> cases finding <;> rfl

/-- The first of January 2025 on a clock without a zone. -/
def newYear : DateTime := ⟨1735689600 * second, none⟩

/-- A datetime as JSON. -/
def datetimeJson (t : DateTime) : Json :=
  .arr [.int t.clock, (t.offset.map Json.int).getD .null]

def jsonDatetime : Json → Option DateTime
  | .arr [.int clock, .null] => some ⟨clock, none⟩
  | .arr [.int clock, .int o] => if minute ∣ o then some ⟨clock, some o⟩ else none
  | _ => none

/-- The one datetime of the examples has its text. -/
def newYearText : Equiv.Perm String :=
  Equiv.swap (Json.dumps pythonStyle (datetimeJson newYear)) "2025-01-01T00:00:00"

theorem jsonDatetime_datetimeJson {t : DateTime} (h : t.WholeMinutes) :
    jsonDatetime (datetimeJson t) = some t := by
  obtain ⟨clock, offset⟩ := t
  cases offset with
  | none => rfl
  | some o => exact if_pos (h o rfl)

theorem wholeMinutes_of_jsonDatetime {j : Json} {t : DateTime} (h : jsonDatetime j = some t) :
    t.WholeMinutes := by
  unfold jsonDatetime at h
  split at h
  · obtain rfl := Option.some.inj h
    intro o ho
    cases ho
  · split at h
    · obtain rfl := Option.some.inj h
      intro o ho
      obtain rfl := Option.some.inj ho
      assumption
    · cases h
  · cases h

theorem distinct_datetimeJson (t : DateTime) : Distinct (datetimeJson t) := by
  obtain ⟨clock, offset⟩ := t
  cases offset with
  | none => exact ⟨trivial, trivial, trivial⟩
  | some o => exact ⟨trivial, trivial, trivial⟩

def plainPydantic : Pydantic where
  intOf := asPyInt?
  boolOf
    | .bool b => some b
    | _ => none
  datetimeText t := newYearText (Json.dumps pythonStyle (datetimeJson t))
  datetimeOf j := (j.asStr?.bind fun s => Json.loads (newYearText.symm s)).bind jsonDatetime
  uuid4 := "0b0e7a52-7f8e-4cf4-9c0e-1f0f6f0d3a11"
  utcnow := newYear
  intOf_int _ := rfl
  boolOf_bool _ := rfl
  datetimeOf_text t ht := by
    simp [asStr?, Json.loads_dumps pythonStyle (distinct_datetimeJson t),
      jsonDatetime_datetimeJson ht]
  datetimeOf_wholeMinutes j t h := by
    obtain ⟨v, -, hv⟩ := Option.bind_eq_some_iff.mp h
    exact wholeMinutes_of_jsonDatetime hv

/-- The schema library writes and reads the datetime of the examples as it does. -/
example : plainPydantic.datetimeText newYear = "2025-01-01T00:00:00" :=
  Equiv.swap_apply_left _ _

def datedPayload : Params :=
  [("title", .str "Suspicious login"), ("timestamp", .str "2025-01-01T00:00:00")]

/-- A score beyond every number, as Python writes it. -/
def infinitePayload : Params :=
  [("title", .str "Suspicious login"), ("timestamp", .str "2025-01-01T00:00:00"),
    ("score", .infinity false)]

end AlertTriage
