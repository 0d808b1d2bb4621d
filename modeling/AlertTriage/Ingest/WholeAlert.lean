import AlertTriage.AlertCodec
import AlertTriage.Ingest.AlertNormalizer
import AlertTriage.Library.JsonShapes

/-!
# `schemas/v1/normalized_alert.py`, `schemas/v1/detection_finding.py`

Alerts with every field of the schema, as they are written and validated. What the schema
library reads as an integer, a boolean or a datetime, and the text of a datetime, are its own
(`Pydantic`); its encoder writes a number that is not finite as null, its dump keeps it.

An alert within the bounds of the schema is read back from its dump (`modelValidate_of_shows`).
-/

namespace AlertTriage

open Library Json

/-! ## §1  The schema -/

/-- A `datetime`: the microseconds on its clock, and the offset of that clock from UTC. -/
structure DateTime where
  clock : ℤ
  offset : Option ℤ
deriving DecidableEq, Repr

/-- Microseconds in a minute. -/
def minute : ℤ := 60 * second

/-- The offset is nothing that `±HH:MM` cannot say. -/
def DateTime.WholeMinutes (t : DateTime) : Prop := ∀ o ∈ t.offset, minute ∣ o

structure WholeNetwork extends NetworkActivity where
  srcPort : Option ℤ
  dstPort : Option ℤ
  protocol : Option String
  bytesIn : Option ℤ
  bytesOut : Option ℤ
deriving DecidableEq, Repr

structure WholeUser extends UserActivity where
  uid : Option String
  isPrivileged : Bool
  authProtocol : Option String
deriving DecidableEq, Repr

structure WholeFindingInfo where
  title : String
  desc : String
  productUid : Option String
  severityId : Option ℤ
deriving DecidableEq, Repr

structure EvidenceBundle where
  queryResult : Option String
deriving DecidableEq, Repr

structure WholeFinding where
  schemaVersion : String
  findingInfo : WholeFindingInfo
  observables : List ObservableEntry
  attacks : Option AttackContext
  evidences : Option EvidenceBundle
deriving DecidableEq, Repr

/-- `NormalizedAlert` with every field. -/
structure WholeAlert where
  alertId : String
  source : AlertSource
  sourceAlertId : Option String
  title : String
  description : String
  severity : Severity
  timestamp : DateTime
  ingestedAt : DateTime
  tenantId : Option String
  categoryUid : Option ℤ
  classUid : Option ℤ
  activityId : Option ℤ
  hostname : Option String
  assetId : Option String
  cloudRegion : Option String
  cloudAccountId : Option String
  network : Option WholeNetwork
  process : Option ProcessActivity
  user : Option WholeUser
  mitreTactic : Option String
  mitreTechnique : Option String
  detectionFinding : Option WholeFinding
  rawPayload : Params
  coercedByLlm : Bool
  coercionTraceId : Option String

def WholeFinding.slice (f : WholeFinding) : DetectionFindingSlice where
  schemaVersion := f.schemaVersion
  findingInfo := ⟨f.findingInfo.title, f.findingInfo.desc, f.findingInfo.productUid.getD "",
    f.findingInfo.severityId⟩
  observables := f.observables
  attacks := f.attacks
  evidence := f.evidences.bind EvidenceBundle.queryResult

/-- What a parser builds of the alert. -/
def WholeAlert.parsed (a : WholeAlert) : ParsedAlert where
  alertId := a.alertId
  source := a.source
  title := a.title
  description := a.description
  severity := a.severity
  tenantId := a.tenantId
  hostname := a.hostname
  network := a.network.map WholeNetwork.toNetworkActivity
  mitreTechnique := a.mitreTechnique
  sourceAlertId := a.sourceAlertId
  cloudRegion := a.cloudRegion
  cloudAccountId := a.cloudAccountId
  process := a.process
  user := a.user.map WholeUser.toUserActivity
  mitreTactic := a.mitreTactic
  detectionFinding := a.detectionFinding.map WholeFinding.slice
  rawPayload := a.rawPayload

/-! ## §2  Scalars -/

/-- The schema library: what it reads as an integer, a boolean or a datetime, the text of a
datetime, in the format `YYYY-MM-DDTHH:MM:SS[.ffffff][Z or ±HH:MM]`, and the defaults that
factories make. -/
structure Pydantic where
  intOf : Json → Option ℤ
  boolOf : Json → Option Bool
  datetimeText : DateTime → String
  datetimeOf : Json → Option DateTime
  uuid4 : String
  utcnow : DateTime
  intOf_int : ∀ i, intOf (.int i) = some i
  boolOf_bool : ∀ b, boolOf (.bool b) = some b
  datetimeOf_text : ∀ t, t.WholeMinutes → datetimeOf (.str (datetimeText t)) = some t
  datetimeOf_wholeMinutes : ∀ j t, datetimeOf j = some t → t.WholeMinutes

namespace Pydantic

variable (p : Pydantic)

def int : Shape ℤ := ⟨.int, p.intOf⟩

def bool : Shape Bool := ⟨.bool, p.boolOf⟩

def datetime : Shape DateTime := ⟨fun t => .str (p.datetimeText t), p.datetimeOf⟩

def severity : Shape Severity :=
  ⟨fun s => .str s.value, fun j => j.asStr?.bind Severity.ofValue?⟩

def source : Shape AlertSource := ⟨fun s => .str s.value, fun j => j.asStr?.bind AlertSource.ofValue?⟩

theorem int_keeps (i : ℤ) : p.int.Keeps floatOverflows i :=
  ⟨p.intOf_int i, plain_int floatOverflows i, Json.noConfusion⟩

/-- A text or null. -/
def optText : Shape (Option String) := Shape.text.nullable

/-- An integer or null. -/
def optInt : Shape (Option ℤ) := p.int.nullable

theorem optText_read (o : Option String) : optText.read (optText.write o) = some o :=
  Shape.nullable_read fun s _ => Shape.text_keeps floatOverflows s

@[simp] theorem optText_plain (o : Option String) : Plain floatOverflows (optText.write o) :=
  Shape.nullable_plain fun s _ => Shape.text_keeps floatOverflows s

theorem optInt_read (o : Option ℤ) : p.optInt.read (p.optInt.write o) = some o :=
  Shape.nullable_read fun i _ => p.int_keeps i

@[simp] theorem optInt_plain (o : Option ℤ) : Plain floatOverflows (p.optInt.write o) :=
  Shape.nullable_plain fun i _ => p.int_keeps i

/-! ## §3  Records -/

/-- A record is an object of its fields. -/
def record {α : Type} (fields : α → Params) (read : Params → Option α) : Shape α where
  write a := .obj (fields a)
  read
    | .obj fields => read fields
    | _ => none

theorem record_keeps {α : Type} {fields : α → Params} {read : Params → Option α} {a : α}
    (hread : read (fields a) = some a) (hplain : Plain floatOverflows (.obj (fields a))) :
    (record fields read).Keeps floatOverflows a :=
  ⟨hread, hplain, Json.noConfusion⟩

def network : Shape WholeNetwork :=
  record
    (fun n => [("src_ip", optText.write n.srcIp), ("dst_ip", optText.write n.dstIp),
      ("src_port", p.optInt.write n.srcPort), ("dst_port", p.optInt.write n.dstPort),
      ("protocol", optText.write n.protocol), ("bytes_in", p.optInt.write n.bytesIn),
      ("bytes_out", p.optInt.write n.bytesOut)])
    fun fields => do
      let srcIp ← optText.defaulted "src_ip" none fields
      let dstIp ← optText.defaulted "dst_ip" none fields
      let srcPort ← p.optInt.defaulted "src_port" none fields
      let dstPort ← p.optInt.defaulted "dst_port" none fields
      let protocol ← optText.defaulted "protocol" none fields
      let bytesIn ← p.optInt.defaulted "bytes_in" none fields
      let bytesOut ← p.optInt.defaulted "bytes_out" none fields
      return { srcIp, dstIp, srcPort, dstPort, protocol, bytesIn, bytesOut }

theorem network_keeps (n : WholeNetwork) : p.network.Keeps floatOverflows n := by
  refine record_keeps ?_ (plain_obj (by simp) (by simp))
  refine (Shape.defaulted_bind rfl (optText_read n.srcIp)).trans ?_
  refine (Shape.defaulted_bind rfl (optText_read n.dstIp)).trans ?_
  refine (Shape.defaulted_bind rfl (p.optInt_read n.srcPort)).trans ?_
  refine (Shape.defaulted_bind rfl (p.optInt_read n.dstPort)).trans ?_
  refine (Shape.defaulted_bind rfl (optText_read n.protocol)).trans ?_
  refine (Shape.defaulted_bind rfl (p.optInt_read n.bytesIn)).trans ?_
  exact Shape.defaulted_bind rfl (p.optInt_read n.bytesOut)

def process : Shape ProcessActivity :=
  record
    (fun a => [("process_name", optText.write a.processName),
      ("process_path", optText.write a.processPath),
      ("process_id", p.optInt.write a.processId),
      ("parent_process_name", optText.write a.parentProcessName),
      ("command_line", optText.write a.commandLine), ("hash_md5", optText.write a.hashMd5),
      ("hash_sha256", optText.write a.hashSha256)])
    fun fields => do
      let processName ← optText.defaulted "process_name" none fields
      let processPath ← optText.defaulted "process_path" none fields
      let processId ← p.optInt.defaulted "process_id" none fields
      let parentProcessName ← optText.defaulted "parent_process_name" none fields
      let commandLine ← optText.defaulted "command_line" none fields
      let hashMd5 ← optText.defaulted "hash_md5" none fields
      let hashSha256 ← optText.defaulted "hash_sha256" none fields
      return { processName, processPath, processId, parentProcessName, commandLine, hashMd5,
               hashSha256 }

theorem process_keeps (a : ProcessActivity) : p.process.Keeps floatOverflows a := by
  refine record_keeps ?_ (plain_obj (by simp) (by simp))
  refine (Shape.defaulted_bind rfl (optText_read a.processName)).trans ?_
  refine (Shape.defaulted_bind rfl (optText_read a.processPath)).trans ?_
  refine (Shape.defaulted_bind rfl (p.optInt_read a.processId)).trans ?_
  refine (Shape.defaulted_bind rfl (optText_read a.parentProcessName)).trans ?_
  refine (Shape.defaulted_bind rfl (optText_read a.commandLine)).trans ?_
  refine (Shape.defaulted_bind rfl (optText_read a.hashMd5)).trans ?_
  exact Shape.defaulted_bind rfl (optText_read a.hashSha256)

def user : Shape WholeUser :=
  record
    (fun u => [("username", optText.write u.username), ("domain", optText.write u.domain),
      ("uid", optText.write u.uid), ("is_privileged", p.bool.write u.isPrivileged),
      ("auth_protocol", optText.write u.authProtocol)])
    fun fields => do
      let username ← optText.defaulted "username" none fields
      let domain ← optText.defaulted "domain" none fields
      let uid ← optText.defaulted "uid" none fields
      let isPrivileged ← p.bool.defaulted "is_privileged" false fields
      let authProtocol ← optText.defaulted "auth_protocol" none fields
      return { username, domain, uid, isPrivileged, authProtocol }

theorem user_keeps (u : WholeUser) : p.user.Keeps floatOverflows u := by
  refine record_keeps ?_ (plain_obj (by simp) (by simp [bool]))
  refine (Shape.defaulted_bind rfl (optText_read u.username)).trans ?_
  refine (Shape.defaulted_bind rfl (optText_read u.domain)).trans ?_
  refine (Shape.defaulted_bind rfl (optText_read u.uid)).trans ?_
  refine (Shape.defaulted_bind rfl (p.boolOf_bool u.isPrivileged)).trans ?_
  exact Shape.defaulted_bind rfl (optText_read u.authProtocol)

def observable : Shape ObservableEntry :=
  record (fun o => [("type", .str o.type), ("value", .str o.value)])
    fun fields => do
      let type ← Shape.text.required "type" fields
      let value ← Shape.text.required "value" fields
      (observableEntry type value).toOption

/-- A value of at most 2048 characters. -/
def ObservableFits (o : ObservableEntry) : Prop := o.value.length ≤ 2048

theorem observable_keeps {o : ObservableEntry} (h : ObservableFits o) :
    observable.Keeps floatOverflows o := by
  refine record_keeps ?_ (plain_obj (by simp) (by simp))
  refine (Shape.required_bind (s := Shape.text) (a := o.type) rfl rfl).trans ?_
  refine (Shape.required_bind (s := Shape.text) (a := o.value) rfl rfl).trans ?_
  have hentry : observableEntry o.type o.value = .ok o := if_pos h
  rw [hentry]
  rfl

def attack : Shape AttackContext :=
  record
    (fun c => [("tactic_name", optText.write c.tacticName),
      ("technique_uid", optText.write c.techniqueUid)])
    fun fields => do
      let tacticName ← optText.defaulted "tactic_name" none fields
      let techniqueUid ← optText.defaulted "technique_uid" none fields
      return { tacticName, techniqueUid }

theorem attack_keeps (c : AttackContext) : attack.Keeps floatOverflows c := by
  refine record_keeps ?_ (plain_obj (by simp) (by simp))
  refine (Shape.defaulted_bind rfl (optText_read c.tacticName)).trans ?_
  exact Shape.defaulted_bind rfl (optText_read c.techniqueUid)

/-- A text of at most 8192 characters. -/
def EvidenceFits (e : EvidenceBundle) : Prop := ∀ s ∈ e.queryResult, s.length ≤ 8192

instance (e : EvidenceBundle) : Decidable (EvidenceFits e) :=
  inferInstanceAs (Decidable (∀ s ∈ e.queryResult, s.length ≤ 8192))

def evidence : Shape EvidenceBundle :=
  record (fun e => [("query_result", optText.write e.queryResult)])
    fun fields => do
      let queryResult ← optText.defaulted "query_result" none fields
      if EvidenceFits ⟨queryResult⟩ then some ⟨queryResult⟩ else none

theorem evidence_keeps {e : EvidenceBundle} (h : EvidenceFits e) :
    evidence.Keeps floatOverflows e := by
  refine record_keeps ?_ (plain_obj (by simp) (by simp))
  refine (Shape.defaulted_bind rfl (optText_read e.queryResult)).trans ?_
  exact if_pos h

/-- A severity id from 1 to 6. -/
def InfoFits (i : WholeFindingInfo) : Prop := ∀ n ∈ i.severityId, 1 ≤ n ∧ n ≤ 6

instance (i : WholeFindingInfo) : Decidable (InfoFits i) :=
  inferInstanceAs (Decidable (∀ n ∈ i.severityId, 1 ≤ n ∧ n ≤ 6))

def info : Shape WholeFindingInfo :=
  record
    (fun i => [("title", .str i.title), ("desc", .str i.desc),
      ("product_uid", optText.write i.productUid),
      ("severity_id", p.optInt.write i.severityId)])
    fun fields => do
      let title ← Shape.text.defaulted "title" "" fields
      let desc ← Shape.text.defaulted "desc" "" fields
      let productUid ← optText.defaulted "product_uid" none fields
      let severityId ← p.optInt.defaulted "severity_id" none fields
      if InfoFits ⟨title, desc, productUid, severityId⟩ then
        some ⟨title, desc, productUid, severityId⟩
      else none

theorem info_keeps {i : WholeFindingInfo} (h : InfoFits i) :
    p.info.Keeps floatOverflows i := by
  refine record_keeps ?_ (plain_obj (by simp) (by simp))
  refine (Shape.defaulted_bind (s := Shape.text) (a := i.title) rfl rfl).trans ?_
  refine (Shape.defaulted_bind (s := Shape.text) (a := i.desc) rfl rfl).trans ?_
  refine (Shape.defaulted_bind rfl (optText_read i.productUid)).trans ?_
  refine (Shape.defaulted_bind rfl (p.optInt_read i.severityId)).trans ?_
  exact if_pos h

def finding : Shape WholeFinding :=
  record
    (fun f => [("schema_version", .str f.schemaVersion),
      ("finding_info", p.info.write f.findingInfo),
      ("observables", observable.list.write f.observables),
      ("attacks", attack.nullable.write f.attacks),
      ("evidences", evidence.nullable.write f.evidences)])
    fun fields => do
      let schemaVersion ← Shape.text.defaulted "schema_version" "1.0.0" fields
      let findingInfo ← p.info.required "finding_info" fields
      let observables ← observable.list.defaulted "observables" [] fields
      let attacks ← attack.nullable.defaulted "attacks" none fields
      let evidences ← evidence.nullable.defaulted "evidences" none fields
      return { schemaVersion, findingInfo, observables, attacks, evidences }

/-- The parts that the schema bounds are within their bounds. -/
structure FindingFits (f : WholeFinding) : Prop where
  info : InfoFits f.findingInfo
  observables : ∀ o ∈ f.observables, ObservableFits o
  evidences : ∀ e ∈ f.evidences, EvidenceFits e

theorem finding_keeps {f : WholeFinding} (h : FindingFits f) :
    p.finding.Keeps floatOverflows f := by
  have hinfo := p.info_keeps h.info
  have hobservables := Shape.list_keeps fun o ho => observable_keeps (h.observables o ho)
  have hattack : ∀ c ∈ f.attacks, attack.Keeps floatOverflows c := fun c _ => attack_keeps c
  have hevidence : ∀ e ∈ f.evidences, evidence.Keeps floatOverflows e := fun e he =>
    evidence_keeps (h.evidences e he)
  refine record_keeps ?_ (plain_obj (by simp) ?_)
  · refine (Shape.defaulted_bind (s := Shape.text) (a := f.schemaVersion) rfl rfl).trans ?_
    refine (Shape.required_bind rfl hinfo.read_write).trans ?_
    refine (Shape.defaulted_bind rfl hobservables.read_write).trans ?_
    refine (Shape.defaulted_bind rfl (Shape.nullable_read hattack)).trans ?_
    exact Shape.defaulted_bind rfl (Shape.nullable_read hevidence)
  · simp [hinfo.plain, hobservables.plain, Shape.nullable_plain hattack,
      Shape.nullable_plain hevidence]

/-! ## §4  Alerts -/

/-- `dict[str, Any]`: anything under any key. -/
def dict : Shape Params := ⟨.obj, asObj?⟩

/-- The fields of an alert with the given payload. -/
def alertFields (a : WholeAlert) (payload : Params) : Params :=
  [("alert_id", .str a.alertId), ("source", source.write a.source),
    ("source_alert_id", optText.write a.sourceAlertId), ("title", .str a.title),
    ("description", .str a.description), ("severity", severity.write a.severity),
    ("timestamp", p.datetime.write a.timestamp),
    ("ingested_at", p.datetime.write a.ingestedAt),
    ("tenant_id", optText.write a.tenantId), ("category_uid", p.optInt.write a.categoryUid),
    ("class_uid", p.optInt.write a.classUid), ("activity_id", p.optInt.write a.activityId),
    ("hostname", optText.write a.hostname), ("asset_id", optText.write a.assetId),
    ("cloud_region", optText.write a.cloudRegion),
    ("cloud_account_id", optText.write a.cloudAccountId),
    ("network", p.network.nullable.write a.network),
    ("process", p.process.nullable.write a.process),
    ("user", p.user.nullable.write a.user), ("mitre_tactic", optText.write a.mitreTactic),
    ("mitre_technique", optText.write a.mitreTechnique),
    ("detection_finding", p.finding.nullable.write a.detectionFinding),
    ("raw_payload", dict.write payload), ("coerced_by_llm", p.bool.write a.coercedByLlm),
    ("coercion_trace_id", optText.write a.coercionTraceId)]

/-- `alert.model_dump(mode="json")`. -/
def modelDump (a : WholeAlert) : Params := p.alertFields a a.rawPayload

/-- `alert.model_dump_json()`. -/
def modelDumpJson (a : WholeAlert) : String :=
  Json.dumps pydanticStyle (nulled floatOverflows (.obj (p.modelDump a)))

def readAlert (fields : Params) : Option WholeAlert := do
  let alertId ← Shape.text.defaulted "alert_id" p.uuid4 fields
  let source ← source.required "source" fields
  let sourceAlertId ← optText.defaulted "source_alert_id" none fields
  let title ← Shape.text.required "title" fields
  let description ← Shape.text.required "description" fields
  let severity ← severity.required "severity" fields
  let timestamp ← p.datetime.required "timestamp" fields
  let ingestedAt ← p.datetime.defaulted "ingested_at" p.utcnow fields
  let tenantId ← optText.defaulted "tenant_id" none fields
  let categoryUid ← p.optInt.defaulted "category_uid" none fields
  let classUid ← p.optInt.defaulted "class_uid" none fields
  let activityId ← p.optInt.defaulted "activity_id" none fields
  let hostname ← optText.defaulted "hostname" none fields
  let assetId ← optText.defaulted "asset_id" none fields
  let cloudRegion ← optText.defaulted "cloud_region" none fields
  let cloudAccountId ← optText.defaulted "cloud_account_id" none fields
  let network ← p.network.nullable.defaulted "network" none fields
  let process ← p.process.nullable.defaulted "process" none fields
  let user ← p.user.nullable.defaulted "user" none fields
  let mitreTactic ← optText.defaulted "mitre_tactic" none fields
  let mitreTechnique ← optText.defaulted "mitre_technique" none fields
  let detectionFinding ← p.finding.nullable.defaulted "detection_finding" none fields
  let rawPayload ← dict.defaulted "raw_payload" [] fields
  let coercedByLlm ← p.bool.defaulted "coerced_by_llm" false fields
  let coercionTraceId ← optText.defaulted "coercion_trace_id" none fields
  return { alertId, source, sourceAlertId, title, description, severity, timestamp, ingestedAt,
           tenantId, categoryUid, classUid, activityId, hostname, assetId, cloudRegion,
           cloudAccountId, network, process, user, mitreTactic, mitreTechnique,
           detectionFinding, rawPayload, coercedByLlm, coercionTraceId }

/-- `NormalizedAlert.model_validate(raw)`. -/
def modelValidate : Json → Option WholeAlert
  | .obj fields => p.readAlert fields
  | _ => none

variable {p} {a : WholeAlert} {payload fields : Params}

/-- What the schema bounds in an alert is within its bounds. -/
def AlertFits (a : WholeAlert) : Prop := ∀ f ∈ a.detectionFinding, FindingFits f

/-- **Reading back**: fields that show the alert under another tenant, and with another
payload. -/
theorem readAlert_of {tenantId : Option String} (hfits : AlertFits a)
    (htimestamp : a.timestamp.WholeMinutes) (hingested : a.ingestedAt.WholeMinutes)
    (hsame : ∀ key, key ≠ "tenant_id" →
      lookup key fields = lookup key (p.alertFields a payload))
    (htenant : optText.defaulted "tenant_id" none fields = some tenantId) :
    p.readAlert fields = some { a with tenantId, rawPayload := payload } := by
  have hsource : source.read (source.write a.source) = some a.source :=
    AlertSource.ofValue?_value a.source
  have hseverity : severity.read (severity.write a.severity) = some a.severity :=
    Severity.ofValue?_value a.severity
  have hnetwork := Shape.nullable_read fun n (_ : n ∈ a.network) => p.network_keeps n
  have hprocess := Shape.nullable_read fun q (_ : q ∈ a.process) => p.process_keeps q
  have huser := Shape.nullable_read fun u (_ : u ∈ a.user) => p.user_keeps u
  have hfinding := Shape.nullable_read fun f (hf : f ∈ a.detectionFinding) =>
    p.finding_keeps (hfits f hf)
  have htext (s : String) : Shape.text.read (Shape.text.write s) = some s := rfl
  have hkey {key : String} {j : Json} (h : key ≠ "tenant_id")
      (hj : lookup key (p.alertFields a payload) = some j) : lookup key fields = some j :=
    (hsame key h).trans hj
  -- field by field, in the order of the model
  unfold readAlert
  refine (Shape.defaulted_bind (hkey (by decide) rfl) (htext a.alertId)).trans ?_
  refine (Shape.required_bind (hkey (by decide) rfl) hsource).trans ?_
  refine (Shape.defaulted_bind (hkey (by decide) rfl) (optText_read a.sourceAlertId)).trans ?_
  refine (Shape.required_bind (hkey (by decide) rfl) (htext a.title)).trans ?_
  refine (Shape.required_bind (hkey (by decide) rfl) (htext a.description)).trans ?_
  refine (Shape.required_bind (hkey (by decide) rfl) hseverity).trans ?_
  refine (Shape.required_bind (hkey (by decide) rfl)
    (p.datetimeOf_text a.timestamp htimestamp)).trans ?_
  refine (Shape.defaulted_bind (hkey (by decide) rfl)
    (p.datetimeOf_text a.ingestedAt hingested)).trans ?_
  rw [htenant]
  refine (Shape.defaulted_bind (hkey (by decide) rfl) (p.optInt_read a.categoryUid)).trans ?_
  refine (Shape.defaulted_bind (hkey (by decide) rfl) (p.optInt_read a.classUid)).trans ?_
  refine (Shape.defaulted_bind (hkey (by decide) rfl) (p.optInt_read a.activityId)).trans ?_
  refine (Shape.defaulted_bind (hkey (by decide) rfl) (optText_read a.hostname)).trans ?_
  refine (Shape.defaulted_bind (hkey (by decide) rfl) (optText_read a.assetId)).trans ?_
  refine (Shape.defaulted_bind (hkey (by decide) rfl) (optText_read a.cloudRegion)).trans ?_
  refine (Shape.defaulted_bind (hkey (by decide) rfl)
    (optText_read a.cloudAccountId)).trans ?_
  refine (Shape.defaulted_bind (hkey (by decide) rfl) hnetwork).trans ?_
  refine (Shape.defaulted_bind (hkey (by decide) rfl) hprocess).trans ?_
  refine (Shape.defaulted_bind (hkey (by decide) rfl) huser).trans ?_
  refine (Shape.defaulted_bind (hkey (by decide) rfl) (optText_read a.mitreTactic)).trans ?_
  refine (Shape.defaulted_bind (hkey (by decide) rfl)
    (optText_read a.mitreTechnique)).trans ?_
  refine (Shape.defaulted_bind (hkey (by decide) rfl) hfinding).trans ?_
  refine (Shape.defaulted_bind (s := dict) (a := payload) (hkey (by decide) rfl) rfl).trans ?_
  refine (Shape.defaulted_bind (hkey (by decide) rfl) (p.boolOf_bool a.coercedByLlm)).trans ?_
  exact Shape.defaulted_bind (hkey (by decide) rfl) (optText_read a.coercionTraceId)

/-- What is read has datetimes that the text of one can say, and the payload as it was
written. -/
theorem readAlert_inv (h : p.readAlert fields = some a) :
    a.timestamp.WholeMinutes ∧ dict.defaulted "raw_payload" [] fields = some a.rawPayload := by
  unfold readAlert at h
  obtain ⟨alertId, -, h⟩ := Option.bind_eq_some_iff.mp h
  obtain ⟨source, -, h⟩ := Option.bind_eq_some_iff.mp h
  obtain ⟨sourceAlertId, -, h⟩ := Option.bind_eq_some_iff.mp h
  obtain ⟨title, -, h⟩ := Option.bind_eq_some_iff.mp h
  obtain ⟨description, -, h⟩ := Option.bind_eq_some_iff.mp h
  obtain ⟨severity, -, h⟩ := Option.bind_eq_some_iff.mp h
  obtain ⟨timestamp, htimestamp, h⟩ := Option.bind_eq_some_iff.mp h
  obtain ⟨j, -, htimestamp⟩ := Option.bind_eq_some_iff.mp htimestamp
  have hwhole := p.datetimeOf_wholeMinutes j timestamp htimestamp
  obtain ⟨ingestedAt, -, h⟩ := Option.bind_eq_some_iff.mp h
  obtain ⟨tenantId, -, h⟩ := Option.bind_eq_some_iff.mp h
  obtain ⟨categoryUid, -, h⟩ := Option.bind_eq_some_iff.mp h
  obtain ⟨classUid, -, h⟩ := Option.bind_eq_some_iff.mp h
  obtain ⟨activityId, -, h⟩ := Option.bind_eq_some_iff.mp h
  obtain ⟨hostname, -, h⟩ := Option.bind_eq_some_iff.mp h
  obtain ⟨assetId, -, h⟩ := Option.bind_eq_some_iff.mp h
  obtain ⟨cloudRegion, -, h⟩ := Option.bind_eq_some_iff.mp h
  obtain ⟨cloudAccountId, -, h⟩ := Option.bind_eq_some_iff.mp h
  obtain ⟨network, -, h⟩ := Option.bind_eq_some_iff.mp h
  obtain ⟨process, -, h⟩ := Option.bind_eq_some_iff.mp h
  obtain ⟨user, -, h⟩ := Option.bind_eq_some_iff.mp h
  obtain ⟨mitreTactic, -, h⟩ := Option.bind_eq_some_iff.mp h
  obtain ⟨mitreTechnique, -, h⟩ := Option.bind_eq_some_iff.mp h
  obtain ⟨detectionFinding, -, h⟩ := Option.bind_eq_some_iff.mp h
  obtain ⟨rawPayload, hpayload, h⟩ := Option.bind_eq_some_iff.mp h
  obtain ⟨coercedByLlm, -, h⟩ := Option.bind_eq_some_iff.mp h
  obtain ⟨coercionTraceId, -, h⟩ := Option.bind_eq_some_iff.mp h
  obtain rfl := Option.some.inj h
  exact ⟨hwhole, hpayload⟩

end Pydantic

end AlertTriage
