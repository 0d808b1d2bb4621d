import AlertTriage.Runtime.World

/-!
# Alerts as JSON

Serialisation is the schema library's, so the runtime takes it as a parameter:
`AlertCodec`. `plainCodec` is the instance for alerts whose remaining fields
have their defaults; it writes every field in the order of the schema and
reads back what it writes (`plainCodec_validate`).
-/

namespace AlertTriage

open Library

/-- The serialisation of `NormalizedAlert`: `model_dump(mode="json")` and
`model_dump_json()`, which raise on values they cannot write, and
`model_validate`. -/
structure AlertCodec where
  modelDump : NormalizedAlert → Except PyExn Params
  modelDumpJson : NormalizedAlert → Except PyExn String
  modelValidate : Json → Option NormalizedAlert

/-! ## §1  Writing -/

def AlertSource.ofValue? (text : String) : Option AlertSource :=
  [AlertSource.splunk, .crowdstrike, .awsGuardduty, .sentinel, .generic].find?
    fun s => s.value == text

theorem AlertSource.ofValue?_value (s : AlertSource) :
    AlertSource.ofValue? s.value = some s := by
  cases s <;> decide

def NetworkActivity.modelDump (n : NetworkActivity) : Json :=
  .obj [("src_ip", optionalText n.srcIp), ("dst_ip", optionalText n.dstIp),
    ("src_port", .null), ("dst_port", .null), ("protocol", .null),
    ("bytes_in", .null), ("bytes_out", .null)]

def optionalNetwork : Option NetworkActivity → Json
  | some n => n.modelDump
  | none => .null

/-- Every field in the order of the schema. -/
def NormalizedAlert.plainDump (a : NormalizedAlert) : Params :=
  [("alert_id", .str a.alertId), ("source", .str a.source.value),
    ("source_alert_id", .null), ("title", .str a.title),
    ("description", .str a.description), ("severity", .str a.severity.value),
    ("timestamp", .str "2025-01-01T00:00:00"),
    ("ingested_at", .str "2025-01-01T00:00:00"),
    ("tenant_id", optionalText a.tenantId), ("category_uid", .null),
    ("class_uid", .null), ("activity_id", .null),
    ("hostname", optionalText a.hostname), ("asset_id", .null),
    ("cloud_region", .null), ("cloud_account_id", .null),
    ("network", optionalNetwork a.network), ("process", .null),
    ("user", .null), ("mitre_tactic", .null),
    ("mitre_technique", optionalText a.mitreTechnique),
    ("detection_finding", .null), ("raw_payload", .obj []),
    ("coerced_by_llm", .bool false), ("coercion_trace_id", .null)]

/-! ## §2  Reading -/

/-- A required string. -/
def requiredText (key : String) (fields : Params) : Option String :=
  (Json.lookup key fields).bind Json.asStr?

/-- A string or null; absent counts as null. -/
def nullableText (key : String) (fields : Params) : Option (Option String) :=
  match Json.lookup key fields with
  | none => some none
  | some .null => some none
  | some (.str s) => some (some s)
  | some _ => none

def nullableNetwork (fields : Params) : Option (Option NetworkActivity) :=
  match Json.lookup "network" fields with
  | none => some none
  | some .null => some none
  | some (.obj inner) => do
      let srcIp ← nullableText "src_ip" inner
      let dstIp ← nullableText "dst_ip" inner
      return some ⟨srcIp, dstIp⟩
  | some _ => none

def plainValidate : Json → Option NormalizedAlert
  | .obj fields => do
      let alertId ← requiredText "alert_id" fields
      let source ← (requiredText "source" fields).bind AlertSource.ofValue?
      let title ← requiredText "title" fields
      let description ← requiredText "description" fields
      let severity ← (requiredText "severity" fields).bind Severity.ofValue?
      let tenantId ← nullableText "tenant_id" fields
      let hostname ← nullableText "hostname" fields
      let network ← nullableNetwork fields
      let mitreTechnique ← nullableText "mitre_technique" fields
      return { alertId, source, title, description, severity, tenantId,
               hostname, network, mitreTechnique }
  | _ => none

def plainCodec : AlertCodec where
  modelDump a := .ok a.plainDump
  modelDumpJson a := .ok (Json.dumps pydanticStyle (.obj a.plainDump))
  modelValidate := plainValidate

/-- An alert of tenant `acme` for examples. -/
def sampleAlert : NormalizedAlert where
  alertId := "a1"
  source := .generic
  title := "Shadow copies deleted"
  description := "vssadmin delete shadows"
  severity := .high
  tenantId := some "acme"
  hostname := some "db-01"
  network := none
  mitreTechnique := some "T1490"

theorem requiredText_of {key : String} {fields : Params} {s : String}
    (h : Json.lookup key fields = some (.str s)) :
    requiredText key fields = some s := by
  simp [requiredText, h, Json.asStr?]

theorem nullableText_of {key : String} {fields : Params} {o : Option String}
    (h : Json.lookup key fields = some (optionalText o)) :
    nullableText key fields = some o := by
  cases o <;> simp [nullableText, h, optionalText]

theorem nullableNetwork_of {fields : Params} {n : Option NetworkActivity}
    (h : Json.lookup "network" fields = some (optionalNetwork n)) :
    nullableNetwork fields = some n := by
  cases n with
  | none => simp [nullableNetwork, h, optionalNetwork]
  | some n =>
      have hsrc : nullableText "src_ip" [("src_ip", optionalText n.srcIp),
          ("dst_ip", optionalText n.dstIp), ("src_port", .null),
          ("dst_port", .null), ("protocol", .null), ("bytes_in", .null),
          ("bytes_out", .null)] = some n.srcIp := nullableText_of rfl
      have hdst : nullableText "dst_ip" [("src_ip", optionalText n.srcIp),
          ("dst_ip", optionalText n.dstIp), ("src_port", .null),
          ("dst_port", .null), ("protocol", .null), ("bytes_in", .null),
          ("bytes_out", .null)] = some n.dstIp := nullableText_of rfl
      simp [nullableNetwork, h, optionalNetwork, NetworkActivity.modelDump,
        hsrc, hdst]

/-- What validation reads of an alert, the tenant apart. -/
structure Carries (fields : Params) (a : NormalizedAlert) : Prop where
  alertId : Json.lookup "alert_id" fields = some (.str a.alertId)
  source : Json.lookup "source" fields = some (.str a.source.value)
  title : Json.lookup "title" fields = some (.str a.title)
  description : Json.lookup "description" fields = some (.str a.description)
  severity : Json.lookup "severity" fields = some (.str a.severity.value)
  hostname : Json.lookup "hostname" fields = some (optionalText a.hostname)
  network : Json.lookup "network" fields = some (optionalNetwork a.network)
  mitreTechnique :
    Json.lookup "mitre_technique" fields = some (optionalText a.mitreTechnique)

theorem plainValidate_of_carries {fields : Params} {a : NormalizedAlert}
    {tenantId : Option String} (h : Carries fields a)
    (ht : nullableText "tenant_id" fields = some tenantId) :
    plainValidate (.obj fields) = some { a with tenantId } := by
  simp [plainValidate, requiredText_of h.alertId, requiredText_of h.source,
    requiredText_of h.title, requiredText_of h.description,
    requiredText_of h.severity, nullableText_of h.hostname,
    nullableNetwork_of h.network, nullableText_of h.mitreTechnique, ht,
    Severity.ofValue?_value, AlertSource.ofValue?_value]

/-- The plain codec reads back what it writes. -/
theorem plainCodec_validate (a : NormalizedAlert) :
    plainCodec.modelValidate (.obj a.plainDump) = some a :=
  plainValidate_of_carries ⟨rfl, rfl, rfl, rfl, rfl, rfl, rfl, rfl⟩
    (nullableText_of rfl)

/-- Without the tenant it reads back all the rest. -/
theorem plainCodec_validate_stripped (a : NormalizedAlert) :
    plainCodec.modelValidate (.obj
      (Json.remove "__subject__" (Json.remove "tenant_id" a.plainDump))) =
        some { a with tenantId := none } :=
  plainValidate_of_carries ⟨rfl, rfl, rfl, rfl, rfl, rfl, rfl, rfl⟩ rfl

theorem distinct_optionalText (o : Option String) :
    Json.Distinct (optionalText o) := by
  cases o <;> simp [optionalText, Json.Distinct]

theorem distinct_optionalNetwork (n : Option NetworkActivity) :
    Json.Distinct (optionalNetwork n) := by
  cases n with
  | none => simp [optionalNetwork, Json.Distinct]
  | some n =>
      simp [optionalNetwork, NetworkActivity.modelDump, Json.Distinct,
        Json.DistinctFields, distinct_optionalText]

theorem plainDump_distinct (a : NormalizedAlert) :
    Json.Distinct (.obj a.plainDump) := by
  refine ⟨?_, ?_⟩
  · have hkeys : a.plainDump.map Prod.fst =
        sampleAlert.plainDump.map Prod.fst := rfl
    rw [hkeys]
    decide
  · simp [NormalizedAlert.plainDump, Json.Distinct, Json.DistinctFields,
      distinct_optionalText, distinct_optionalNetwork]

end AlertTriage
