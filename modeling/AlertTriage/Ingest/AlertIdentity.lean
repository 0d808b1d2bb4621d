import AlertTriage.Ingest.AutoIngest
import AlertTriage.Library.JsonPath

/-!
# The identity of an alert

The id of an alert names it everywhere: in the stores, in the stream's
de-duplication, as the thread of its checkpoints. A parser derives it from what
the vendor calls the event, so that a webhook delivered again is the same alert;
a payload without a parser of its own gets a new id each time (`stable_iff`).
-/

namespace AlertTriage

open Library

/-! ## §1  What an accepted payload is hashed by -/

theorem ok_bind {ε α β : Type} (a : α) (f : α → Except ε β) :
    (Except.ok a >>= f) = f a := rfl

theorem ok_of_bind {ε α β : Type} {x : Except ε α} {f : α → Except ε β} {b : β}
    (h : (x >>= f) = .ok b) : ∃ a, x = .ok a ∧ f a = .ok b := by
  cases x with
  | error e => cases h
  | ok a => exact ⟨a, rfl, h⟩

theorem attach_eq {a b : ParsedAlert} (h : attachDetectionFinding a = .ok b) :
    ∃ d, b = { a with detectionFinding := some d } := by
  obtain ⟨d, -, hb⟩ := ok_of_bind h
  exact ⟨d, (Except.ok.inj hb).symm⟩

/-- The parser that `normalize_alert` dispatches to. -/
inductive ParserKind where
  | ocsf | splunk | crowdstrike | guardduty | generic
deriving DecidableEq, Repr

def parserOf (source : AlertSource) (payload : Params) : ParserKind :=
  if isDetectionFindingPayload payload then .ocsf
  else
    match source with
    | .splunk => .splunk
    | .crowdstrike => .crowdstrike
    | .awsGuardduty => .guardduty
    | .generic => .generic
    | .sentinel => .generic

/-- The source that a parser hashes with. -/
def ParserKind.hashedSource : ParserKind → String
  | .ocsf => "ocsf2004"
  | .splunk => "splunk"
  | .crowdstrike => "crowdstrike"
  | .guardduty => "guardduty"
  | .generic => "generic"

/-- The object under a key, or the payload itself where there is no key. -/
def level (key : String) (payload : Params) : Params :=
  Json.fieldsOrEmpty (some (getOr payload key (.obj payload)))

/-- The text that a parser hashes. -/
def hashedText (py : PyBuiltins) (payload : Params) : ParserKind → String
  | .ocsf =>
      if ocsfAid py payload = "" then textTake 200 (jsonDumpsSorted payload)
      else ocsfAid py payload
  | .splunk => splunkSourceId py (level "result" payload)
  | .crowdstrike =>
      crowdstrikeDetectionId py (level "event" payload)
        (Json.fieldsOrEmpty (Json.lookup "metadata" payload))
  | .guardduty => py.str (getOr (level "detail" payload) "id" (.str ""))
  | .generic => ""

theorem level_of_fieldsOf {key : String} {payload fields : Params}
    (h : fieldsOf (getOr payload key (.obj payload)) = .ok fields) :
    level key payload = fields := by
  unfold level
  cases hv : getOr payload key (.obj payload) with
  | obj inner =>
      rw [hv] at h
      exact Except.ok.inj h
  | _ =>
      rw [hv] at h
      cases h

theorem subFields_eq {fields inner : Params} {key : String}
    (h : subFields fields key = .ok inner) :
    Json.fieldsOrEmpty (Json.lookup key fields) = inner := by
  unfold subFields getOr at h
  cases hv : Json.lookup key fields with
  | none =>
      rw [hv] at h
      exact Except.ok.inj h
  | some v =>
      rw [hv] at h
      cases v with
      | obj g => exact Except.ok.inj h
      | _ => cases h

/-- The alert with its finding attached, as every parser but one returns it. -/
def Builds (a : ParsedAlert) (alertId : String) (payload : Params) : Prop :=
  ∃ a₀, attachDetectionFinding a₀ = .ok a ∧ a₀.alertId = alertId ∧ a₀.tenantId = none ∧
    a₀.rawPayload = payload

theorem Builds.ids {a : ParsedAlert} {alertId : String} {payload : Params}
    (h : Builds a alertId payload) : a.alertId = alertId ∧ a.tenantId = none := by
  obtain ⟨a₀, hattach, hid, htenant, -⟩ := h
  obtain ⟨d, rfl⟩ := attach_eq hattach
  exact ⟨hid, htenant⟩

section Parsers

variable {py : PyBuiltins} {uuid : String} {payload : Params} {a : ParsedAlert}

theorem parseOcsf_ids
    (h : parseOcsfDetectionFindingPayload py payload = .ok a) :
    a.alertId = stableAlertId py "ocsf2004" (hashedText py payload .ocsf) ∧
      a.tenantId = none := by
  unfold parseOcsfDetectionFindingPayload at h
  obtain ⟨fi, -, h⟩ := ok_of_bind h
  obtain ⟨observables, -, h⟩ := ok_of_bind h
  obtain ⟨atk, -, h⟩ := ok_of_bind h
  obtain ⟨tactic, -, h⟩ := ok_of_bind h
  obtain ⟨technique, -, h⟩ := ok_of_bind h
  obtain ⟨info, -, h⟩ := ok_of_bind h
  obtain rfl := Except.ok.inj h
  exact ⟨rfl, rfl⟩

theorem parseSplunk_builds (h : parseSplunk py payload = .ok a) :
    Builds a (stableAlertId py "splunk" (hashedText py payload .splunk)) payload := by
  unfold parseSplunk at h
  obtain ⟨result, hresult, h⟩ := ok_of_bind h
  obtain ⟨severity, -, h⟩ := ok_of_bind h
  obtain ⟨network, -, h⟩ := ok_of_bind h
  obtain ⟨process, -, h⟩ := ok_of_bind h
  obtain ⟨user, -, h⟩ := ok_of_bind h
  obtain ⟨title, -, h⟩ := ok_of_bind h
  obtain ⟨description, -, h⟩ := ok_of_bind h
  obtain ⟨hostname, -, h⟩ := ok_of_bind h
  obtain ⟨tactic, -, h⟩ := ok_of_bind h
  obtain ⟨technique, -, h⟩ := ok_of_bind h
  rw [hashedText, level_of_fieldsOf hresult]
  exact ⟨_, h, rfl, rfl, rfl⟩

theorem parseCrowdstrike_builds (h : parseCrowdstrike py payload = .ok a) :
    Builds a (stableAlertId py "crowdstrike" (hashedText py payload .crowdstrike))
      payload := by
  unfold parseCrowdstrike at h
  obtain ⟨event, hevent, h⟩ := ok_of_bind h
  obtain ⟨metadata, hmetadata, h⟩ := ok_of_bind h
  obtain ⟨severity, -, h⟩ := ok_of_bind h
  obtain ⟨processId, -, h⟩ := ok_of_bind h
  obtain ⟨process, -, h⟩ := ok_of_bind h
  obtain ⟨user, -, h⟩ := ok_of_bind h
  obtain ⟨network, -, h⟩ := ok_of_bind h
  obtain ⟨title, -, h⟩ := ok_of_bind h
  obtain ⟨description, -, h⟩ := ok_of_bind h
  obtain ⟨hostname, -, h⟩ := ok_of_bind h
  obtain ⟨tactic, -, h⟩ := ok_of_bind h
  obtain ⟨technique, -, h⟩ := ok_of_bind h
  rw [hashedText, level_of_fieldsOf hevent, subFields_eq hmetadata]
  exact ⟨_, h, rfl, rfl, rfl⟩

theorem parseGuardduty_builds (h : parseGuardduty py payload = .ok a) :
    Builds a (stableAlertId py "guardduty" (hashedText py payload .guardduty)) payload := by
  unfold parseGuardduty at h
  obtain ⟨detail, hdetail, h⟩ := ok_of_bind h
  obtain ⟨score, -, h⟩ := ok_of_bind h
  obtain ⟨service, -, h⟩ := ok_of_bind h
  obtain ⟨resource, -, h⟩ := ok_of_bind h
  obtain ⟨instance', -, h⟩ := ok_of_bind h
  obtain ⟨network, -, h⟩ := ok_of_bind h
  obtain ⟨sourceAlertId, -, h⟩ := ok_of_bind h
  obtain ⟨title, -, h⟩ := ok_of_bind h
  obtain ⟨description, -, h⟩ := ok_of_bind h
  obtain ⟨hostname, -, h⟩ := ok_of_bind h
  obtain ⟨region, -, h⟩ := ok_of_bind h
  obtain ⟨account, -, h⟩ := ok_of_bind h
  obtain ⟨technique, -, h⟩ := ok_of_bind h
  rw [hashedText, level_of_fieldsOf hdetail]
  exact ⟨_, h, rfl, rfl, rfl⟩

theorem parseGeneric_builds (h : parseGeneric py uuid payload = .ok a) :
    Builds a uuid payload := by
  unfold parseGeneric at h
  obtain ⟨title, -, h⟩ := ok_of_bind h
  obtain ⟨description, -, h⟩ := ok_of_bind h
  obtain ⟨hostname, -, h⟩ := ok_of_bind h
  obtain ⟨tactic, -, h⟩ := ok_of_bind h
  obtain ⟨technique, -, h⟩ := ok_of_bind h
  exact ⟨_, h, rfl, rfl, rfl⟩

/-- A payload that is a finding already is parsed as one; any other gets its finding
attached. -/
theorem normalize_cases {source : AlertSource}
    (h : normalizeAlert py uuid source payload = .ok a) :
    parserOf source payload = .ocsf ∧ parseOcsfDetectionFindingPayload py payload = .ok a ∨
      parserOf source payload ≠ .ocsf ∧
        Builds a
          (if parserOf source payload = .generic then uuid
          else
            stableAlertId py (parserOf source payload).hashedSource
              (hashedText py payload (parserOf source payload)))
          payload := by
  unfold normalizeAlert at h
  unfold parserOf
  by_cases hocsf : isDetectionFindingPayload payload = true
  · rw [if_pos hocsf] at h ⊢
    exact .inl ⟨rfl, h⟩
  rw [if_neg hocsf] at h ⊢
  refine .inr ?_
  cases source with
  | splunk => exact ⟨by decide, parseSplunk_builds h⟩
  | crowdstrike => exact ⟨by decide, parseCrowdstrike_builds h⟩
  | awsGuardduty => exact ⟨by decide, parseGuardduty_builds h⟩
  | sentinel => exact ⟨by decide, parseGeneric_builds h⟩
  | generic => exact ⟨by decide, parseGeneric_builds h⟩

/-- **Where an alert's id comes from**, and that no parser gives it a tenant. -/
theorem normalize_ids {source : AlertSource}
    (h : normalizeAlert py uuid source payload = .ok a) :
    (a.alertId =
        if parserOf source payload = .generic then uuid
        else
          stableAlertId py (parserOf source payload).hashedSource
            (hashedText py payload (parserOf source payload))) ∧
      a.tenantId = none := by
  rcases normalize_cases h with ⟨hocsf, h⟩ | ⟨-, hbuilds⟩
  · rw [hocsf]
    exact parseOcsf_ids h
  · exact hbuilds.ids

theorem attach_alertId (a : ParsedAlert) (alertId : String) :
    attachDetectionFinding { a with alertId } =
      (attachDetectionFinding a).map fun b => { b with alertId } := by
  unfold attachDetectionFinding
  have hbuild : buildDetectionFindingSlice { a with alertId } =
      buildDetectionFindingSlice a := rfl
  rw [hbuild]
  cases buildDetectionFindingSlice a with
  | error e => rfl
  | ok d => rfl

/-- The generic parser looks at everything but the id that it gives. -/
theorem parseGeneric_uuid (uuid' : String) :
    parseGeneric py uuid' payload =
      (parseGeneric py uuid payload).map fun a => { a with alertId := uuid' } := by
  -- the field checks come first and do not see the id
  unfold parseGeneric
  cases requiredStr (getOr payload "title"
      (getOr payload "name" (.str "Generic Alert"))) with
  | error e => rfl
  | ok title =>
  cases requiredStr (getOr payload "description" (getOr payload "message"
      (.str (textTake 500 (jsonDumps payload))))) with
  | error e => rfl
  | ok description =>
  cases optionalStr (getOr payload "host" (get payload "hostname")) with
  | error e => rfl
  | ok hostname =>
  cases optionalStr (get payload "mitre_tactic") with
  | error e => rfl
  | ok tactic =>
  cases optionalStr (get payload "mitre_technique") with
  | error e => rfl
  | ok technique =>
      exact attach_alertId
        { alertId := uuid
          source := .generic
          title, description
          severity := nameSeverity (py.str
            (getOr payload "severity" (getOr payload "urgency" (.str "medium"))))
          tenantId := none
          hostname
          network := none
          mitreTechnique := technique
          sourceAlertId := some (py.str
            (getOr payload "id" (getOr payload "alert_id" (.str ""))))
          cloudRegion := none
          cloudAccountId := none
          process := none
          user := none
          mitreTactic := tactic
          detectionFinding := none
          rawPayload := payload } uuid'

theorem normalizeAlert_uuid {source : AlertSource}
    (h : parserOf source payload = .generic) (uuid' : String) :
    normalizeAlert py uuid' source payload =
      (normalizeAlert py uuid source payload).map
        fun a => { a with alertId := uuid' } := by
  unfold parserOf at h
  unfold normalizeAlert
  by_cases hocsf : isDetectionFindingPayload payload = true
  · rw [if_pos hocsf] at h
    exact absurd h (by decide)
  rw [if_neg hocsf] at h ⊢
  rw [if_neg hocsf]
  cases source with
  | splunk => exact absurd h (by decide)
  | crowdstrike => exact absurd h (by decide)
  | awsGuardduty => exact absurd h (by decide)
  | sentinel => exact parseGeneric_uuid uuid'
  | generic => exact parseGeneric_uuid uuid'

end Parsers

/-! ## §2  The same webhook again -/

/-- How a payload comes in: with its source, or to be inferred. -/
inductive IngestRoute where
  | direct (source : AlertSource)
  | auto
deriving DecidableEq, Repr

/-- Normalise a payload, directly or by `resolve_alert_for_auto_ingest` without
the model; `uuid` is what `uuid4()` answers this time. -/
def normalizeVia (py : PyBuiltins) (uuid : String) :
    IngestRoute → Params → Except PyExn ParsedAlert
  | .direct source, payload => normalizeAlert py uuid source payload
  | .auto, payload => resolveAlertForAutoIngest py uuid none payload

/-- Every time the payload is normalised, its alert has the same id. -/
def Stable (py : PyBuiltins) (route : IngestRoute) (payload : Params) : Prop :=
  ∃ alertId, ∀ uuid a,
    normalizeVia py uuid route payload = .ok a → a.alertId = alertId

/-- The payload is a finding, or its source has a parser of its own. -/
def derivesId (source : AlertSource) (payload : Params) : Bool :=
  isDetectionFindingPayload payload || source == .splunk ||
    source == .crowdstrike || source == .awsGuardduty

/-- The same of a payload that comes in by a route: of the one that is left
when its envelopes are off, with the source that is detected. -/
def DerivesId (payload : Params) : IngestRoute → Prop
  | .direct source => derivesId source payload = true
  | .auto => ∃ expanded source,
      expandAutoIngestPayload payload = .ok expanded ∧
      detectSource expanded = .ok source ∧ derivesId source expanded = true

theorem parserOf_generic_iff (source : AlertSource) (payload : Params) :
    parserOf source payload = .generic ↔ derivesId source payload = false := by
  unfold parserOf derivesId
  cases isDetectionFindingPayload payload <;> cases source <;> simp

/-- Auto-ingest normalises what is left by the source that is detected. -/
theorem resolve_eq {py : PyBuiltins} {payload expanded : Params}
    {source : AlertSource} (h : expandAutoIngestPayload payload = .ok expanded)
    (hs : detectSource expanded = .ok source) (uuid : String) :
    resolveAlertForAutoIngest py uuid none payload =
      (normalizeAlert py uuid source expanded).map
        fun a => { a with rawPayload := payload } := by
  unfold resolveAlertForAutoIngest
  rw [h]
  show (detectSource expanded >>= _) = _
  rw [hs]
  cases source with
  | generic => rfl
  | splunk => rfl
  | crowdstrike => rfl
  | awsGuardduty => rfl
  | sentinel => rfl

theorem stable_direct {py : PyBuiltins} {source : AlertSource}
    {payload : Params} {uuid : String} {a : ParsedAlert}
    (h : normalizeAlert py uuid source payload = .ok a) :
    Stable py (.direct source) payload ↔ derivesId source payload = true := by
  constructor
  · rintro ⟨alertId, hall⟩
    by_contra hnot
    have hgeneric : parserOf source payload = .generic :=
      (parserOf_generic_iff source payload).mpr (by simpa using hnot)
    -- whatever `uuid4()` answers becomes the id
    have hid : ∀ uuid', uuid' = alertId := by
      intro uuid'
      have hagain : normalizeAlert py uuid' source payload = _ :=
        (normalizeAlert_uuid hgeneric uuid').trans (congrArg _ h)
      exact hall uuid' _ hagain
    exact absurd ((hid "0").trans (hid "1").symm) (by decide)
  · intro hderives
    have hparser : parserOf source payload ≠ .generic := by
      intro hgeneric
      rw [(parserOf_generic_iff source payload).mp hgeneric] at hderives
      exact absurd hderives (by decide)
    refine ⟨stableAlertId py (parserOf source payload).hashedSource
      (hashedText py payload (parserOf source payload)), fun uuid' b hb => ?_⟩
    rw [(normalize_ids hb).1, if_neg hparser]

/-- **Which payloads keep their id under retry**, of those that are accepted:
findings, and payloads of a source with a parser of its own. -/
theorem stable_iff (py : PyBuiltins) (route : IngestRoute) (payload : Params)
    {uuid : String} {a : ParsedAlert}
    (h : normalizeVia py uuid route payload = .ok a) :
    Stable py route payload ↔ DerivesId payload route := by
  cases route with
  | direct source => exact stable_direct h
  | auto =>
  have hresolve := h
  unfold normalizeVia resolveAlertForAutoIngest at h
  obtain ⟨expanded, hexpand, h⟩ := ok_of_bind h
  obtain ⟨source, hsource, -⟩ := ok_of_bind h
  have heq : ∀ uuid', normalizeVia py uuid' .auto payload =
      (normalizeAlert py uuid' source expanded).map
        fun a => { a with rawPayload := payload } :=
    resolve_eq hexpand hsource
  have hbase : ∃ b, normalizeAlert py uuid source expanded = .ok b := by
    cases hb : normalizeAlert py uuid source expanded with
    | error e =>
        rw [heq, hb] at hresolve
        cases hresolve
    | ok b => exact ⟨b, rfl⟩
  obtain ⟨b, hb⟩ := hbase
  -- an upload is as stable as what it expands to, under the source it resolves to
  have hstable : Stable py .auto payload ↔ Stable py (.direct source) expanded := by
    constructor
    · rintro ⟨alertId, hall⟩
      refine ⟨alertId, fun uuid' c hc => ?_⟩
      have hvia := heq uuid'
      rw [show normalizeAlert py uuid' source expanded = .ok c from hc] at hvia
      exact hall uuid' { c with rawPayload := payload } hvia
    · rintro ⟨alertId, hall⟩
      refine ⟨alertId, fun uuid' c hc => ?_⟩
      rw [heq] at hc
      cases hn : normalizeAlert py uuid' source expanded with
      | error e =>
          rw [hn] at hc
          cases hc
      | ok d =>
          rw [hn] at hc
          obtain rfl := Except.ok.inj hc
          exact hall uuid' d hn
  rw [hstable, stable_direct hb]
  constructor
  · intro hderives
    exact ⟨expanded, source, hexpand, hsource, hderives⟩
  · rintro ⟨expanded', source', hexpand', hsource', hderives⟩
    obtain rfl := Except.ok.inj (hexpand.symm.trans hexpand')
    obtain rfl := Except.ok.inj (hsource.symm.trans hsource')
    exact hderives

/-- A Splunk alert with its event's address. -/
def indexedPayload : Params :=
  [("search_name", .str "Test"),
    ("result", .obj [("_time", .str "2026-04-12T04:00:00Z"),
      ("urgency", .str "medium"), ("_cd", .str "idx:12345"),
      ("message", .str "test")])]

theorem stable_iff_indexed :
    Stable plainBuiltins .auto indexedPayload ↔ DerivesId indexedPayload .auto :=
  @stable_iff plainBuiltins .auto indexedPayload "u" _ rfl

/-- An incident as Sentinel exports it. -/
def incidentPayload : Params :=
  [("title", .str "Suspicious login"),
    ("properties", .obj [("incidentNumber", .int 17)])]

/-- The same incident delivered twice is two alerts, by every route. -/
theorem retry_is_new_alert :
    ¬ Stable plainBuiltins (.direct .sentinel) incidentPayload ∧
      ¬ Stable plainBuiltins (.direct .generic) incidentPayload ∧
      ¬ Stable plainBuiltins .auto incidentPayload := by
  have hnot : ∀ route,
      (∃ a, normalizeVia plainBuiltins "11111111-1111-4111-8111-111111111111"
        route incidentPayload = .ok a ∧
          a.alertId = "11111111-1111-4111-8111-111111111111") →
      (∃ a, normalizeVia plainBuiltins "22222222-2222-4222-8222-222222222222"
        route incidentPayload = .ok a ∧
          a.alertId = "22222222-2222-4222-8222-222222222222") →
      ¬ Stable plainBuiltins route incidentPayload := by
    rintro route ⟨a, ha, hida⟩ ⟨b, hb, hidb⟩ ⟨alertId, hall⟩
    have hsame := (hall _ a ha).trans (hall _ b hb).symm
    rw [hida, hidb] at hsame
    exact absurd hsame (by decide)
  exact ⟨hnot _ ⟨_, rfl, rfl⟩ ⟨_, rfl, rfl⟩, hnot _ ⟨_, rfl, rfl⟩ ⟨_, rfl, rfl⟩,
    hnot _ ⟨_, rfl, rfl⟩ ⟨_, rfl, rfl⟩⟩

end AlertTriage
