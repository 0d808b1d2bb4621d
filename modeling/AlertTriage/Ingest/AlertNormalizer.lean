import AlertTriage.Ingest.PayloadValues

/-!
# `components/alert_normalizer.py`

One parser for each vendor, one for everything else, and one for payloads that
are OCSF detection findings already; `normalizeAlert` dispatches. A parser
raises where an access does or where the schema refuses a field. Timestamps are
left out: every failure to read one is caught.
-/

namespace AlertTriage

open Library

/-! ## §1  What only ingest reads of an alert -/

structure ProcessActivity where
  processName : Option String
  processPath : Option String
  processId : Option ℤ
  parentProcessName : Option String
  commandLine : Option String
  hashMd5 : Option String
  hashSha256 : Option String
deriving DecidableEq, Repr

structure UserActivity where
  username : Option String
  domain : Option String
deriving DecidableEq, Repr

structure FindingInfo where
  title : String
  desc : String
  productUid : String
  severityId : Option ℤ
deriving DecidableEq, Repr

structure ObservableEntry where
  type : String
  value : String
deriving DecidableEq, Repr

structure AttackContext where
  tacticName : Option String
  techniqueUid : Option String
deriving DecidableEq, Repr

structure DetectionFindingSlice where
  schemaVersion : String
  findingInfo : FindingInfo
  observables : List ObservableEntry
  attacks : Option AttackContext
  evidence : Option String
deriving DecidableEq, Repr

/-- An alert as a parser builds it. -/
structure ParsedAlert extends NormalizedAlert where
  sourceAlertId : Option String
  cloudRegion : Option String
  cloudAccountId : Option String
  process : Option ProcessActivity
  user : Option UserActivity
  mitreTactic : Option String
  detectionFinding : Option DetectionFindingSlice
  rawPayload : Params

/-- `ObservableEntry(...)`: a value of at most 2048 characters. -/
def observableEntry (type value : String) : Except PyExn ObservableEntry :=
  if value.length ≤ 2048 then .ok ⟨type, value⟩ else .error validationError

/-- `FindingInfo(...)`: a severity id from 1 to 6, if there is one. -/
def findingInfo (title desc productUid : String) (severityId : Option ℤ) :
    Except PyExn FindingInfo :=
  if severityId.all fun i => decide (1 ≤ i ∧ i ≤ 6) then
    .ok ⟨title, desc, productUid, severityId⟩
  else .error validationError

/-! ## §2  Severities -/

/-- The texts of `_SPLUNK_SEV_MAP` and `_CS_SEV_MAP`. -/
def severityNames : List (String × Severity) :=
  [("informational", .low), ("low", .low), ("medium", .medium),
    ("high", .high), ("critical", .critical)]

/-- The numbers of `_SPLUNK_SEV_MAP`. -/
def severityNumbers : List (ℤ × Severity) :=
  [(1, .low), (2, .low), (3, .medium), (4, .high), (5, .critical)]

/-- `_SPLUNK_SEV_MAP.get(raw, Severity.MEDIUM)` of a number or null. -/
def numberSeverity (raw : Json) : Severity :=
  ((severityNumbers.find? fun p => isNumber p.1 raw).map Prod.snd).getD .medium

def nameSeverity (name : String) : Severity :=
  (Json.lookup (lowered name) severityNames).getD .medium

/-- A list or an object is no key to look up. -/
def splunkSeverity : Json → Except PyExn Severity
  | .str s => .ok (nameSeverity s)
  | .arr _ => .error (.other "unhashable type")
  | .obj _ => .error (.other "unhashable type")
  | raw => .ok (numberSeverity raw)

def crowdstrikeSeverity (py : PyBuiltins) : Json → Except PyExn Severity
  | .str s => .ok (nameSeverity s)
  | raw => do return numberSeverity (.int (← pyIntOf py raw))

/-- `_guardduty_severity`. -/
def guarddutySeverity (score : Json) : Severity :=
  if atLeast 9 score then .critical
  else if atLeast 7 score then .high
  else if atLeast 4 score then .medium
  else .low

/-- `_OCSF_SEVERITY_TO_ENUM.get(sev_id, Severity.MEDIUM)`. -/
def ocsfSeverity : Option ℤ → Severity
  | some 1 => .low
  | some 2 => .low
  | some 3 => .medium
  | some 4 => .high
  | some 5 => .critical
  | some 6 => .critical
  | _ => .medium

/-! ## §3  `detection_finding_builder.py` -/

def severityToOcsfId : Severity → ℤ
  | .low => 2
  | .medium => 3
  | .high => 4
  | .critical => 5

/-- `_trunc`. -/
def trunc (s : String) (n : ℕ) : String :=
  if s.length ≤ n then s else textTake (n - 3) s ++ "..."

/-- The texts of an alert that become observables, in order; an empty text is
left out. -/
def observableTexts (a : ParsedAlert) : List (String × String) :=
  let text (type : String) (s : Option String) : List (String × String) :=
    match s with
    | some s => if s = "" then [] else [(type, s)]
    | none => []
  let userText : Option String := do
    let user ← a.user
    let name ← user.username
    match user.domain with
    | some domain =>
        return if domain = "" ∨ name = "" then name else domain ++ "\\" ++ name
    | none => return name
  text "Hostname" a.hostname ++
    text "Cloud Account" a.cloudAccountId ++
    text "IPv4 Address" (a.network.bind NetworkActivity.srcIp) ++
    text "IPv4 Address" (a.network.bind NetworkActivity.dstIp) ++
    text "User" userText ++
    text "Process Name" (a.process.bind ProcessActivity.processName) ++
    text "SHA-256 Hash" (a.process.bind ProcessActivity.hashSha256) ++
    text "MD5 Hash" (a.process.bind ProcessActivity.hashMd5)

/-- Each entry once, in order of first appearance. -/
def dedupeEntries (entries : List ObservableEntry) : List ObservableEntry :=
  entries.foldl (fun seen o => if o ∈ seen then seen else seen ++ [o]) []

/-- `AttackContext(...)`, where there is a tactic or a technique. -/
def attackContext (tactic technique : Option String) : Option AttackContext :=
  if tactic.any (· != "") || technique.any (· != "") then
    some ⟨tactic, technique⟩
  else none

/-- The command line, else the description. -/
def evidenceText (a : ParsedAlert) : String :=
  match a.process.bind ProcessActivity.commandLine with
  | some line => if line = "" then a.description else line
  | none => a.description

/-- `build_detection_finding_slice`. -/
def buildDetectionFindingSlice (a : ParsedAlert) :
    Except PyExn DetectionFindingSlice := do
  let info ← findingInfo (trunc a.title 512) (trunc a.description 4000)
    a.source.value (some (severityToOcsfId a.severity))
  let entries ← (observableTexts a).mapM fun t => observableEntry t.1 t.2
  let evidence := trunc (evidenceText a) 8192
  return {
    schemaVersion := "1.0.0"
    findingInfo := info
    observables := dedupeEntries entries
    attacks := attackContext a.mitreTactic a.mitreTechnique
    evidence := if evidence = "" then none else some evidence }

/-- `attach_detection_finding`. -/
def attachDetectionFinding (a : ParsedAlert) : Except PyExn ParsedAlert := do
  return { a with detectionFinding := some (← buildDetectionFindingSlice a) }

/-! ## §4  Parts of a payload -/

/-- `fields.get(key, {})`, to be read with `.get` again. -/
def subFields (fields : Params) (key : String) : Except PyExn Params :=
  fieldsOf (getOr fields key (.obj []))

/-- `ProcessActivity(...)`. -/
def processActivity (name path : Json) (processId : Option ℤ)
    (parent line md5 sha256 : Json) : Except PyExn ProcessActivity := do
  return {
    processName := ← optionalStr name
    processPath := ← optionalStr path
    processId
    parentProcessName := ← optionalStr parent
    commandLine := ← optionalStr line
    hashMd5 := ← optionalStr md5
    hashSha256 := ← optionalStr sha256 }

/-- The network of a Splunk result. -/
def splunkNetwork (py : PyBuiltins) (result : Params) :
    Except PyExn (Option NetworkActivity) := do
  if (get result "src_ip").truthy || (get result "dest_ip").truthy then
    let srcIp ← optionalStr (pyOr (get result "src_ip") (get result "src"))
    let dstIp ← optionalStr (pyOr (get result "dest_ip") (get result "dest"))
    let _ ← intOrNone py (get result "src_port")
    let _ ← intOrNone py (get result "dest_port")
    let _ ← optionalStr
      (pyOr (get result "transport") (get result "protocol"))
    return some ⟨srcIp, dstIp⟩
  else return none

def splunkProcess (py : PyBuiltins) (result : Params) :
    Except PyExn (Option ProcessActivity) := do
  if (get result "process_name").truthy || (get result "process").truthy then
    let processId ← intOrNone py
      (pyOr (get result "process_id") (get result "pid"))
    let process ← processActivity
      (pyOr (get result "process_name") (get result "process"))
      (get result "process_path") processId
      (get result "parent_process_name")
      (pyOr (get result "cmdline") (get result "command_line"))
      (pyOr (get result "md5") (get result "file_hash"))
      (get result "sha256")
    return some process
  else return none

/-- The pieces of `DOMAIN\\user`; anything but text fails on the way to the
schema. -/
def splunkUser (result : Params) : Except PyExn (Option UserActivity) :=
  if (get result "user").truthy || (get result "src_user").truthy then
    match pyOr (get result "user") (getOr result "src_user" (.str "")) with
    | .str raw =>
        let parts := (raw.toList.splitOn '\\').map String.ofList
        if parts.length ≤ 1 then .ok (some ⟨some raw, none⟩)
        else
          .ok (some ⟨parts.getLast?, parts.head?.filter (· != "")⟩)
    | _ => .error attributeError
  else .ok none

/-- The user of a Falcon event. -/
def crowdstrikeUser (event : Params) : Except PyExn (Option UserActivity) := do
  if (get event "UserName").truthy then
    let principal := getOr event "UserPrincipalName" (.str "")
    let domain ←
      if ← pyContains "@" principal then
        match principal with
        | .str s => pure (((s.toList.splitOn '@').map String.ofList)[1]?)
        | _ => throw attributeError
      else pure none
    return some ⟨← optionalStr (get event "UserName"), domain⟩
  else return none

def crowdstrikeNetwork (py : PyBuiltins) (event : Params) :
    Except PyExn (Option NetworkActivity) := do
  if (get event "RemoteAddress").truthy then
    let dstIp ← optionalStr (get event "RemoteAddress")
    let _ ← intOrNone py (get event "RemotePort")
    return some ⟨none, dstIp⟩
  else return none

def guarddutyNetwork (py : PyBuiltins) (service : Params) :
    Except PyExn (Option NetworkActivity) := do
  let action ← subFields service "action"
  let connection ← subFields action "networkConnectionAction"
  let remote ← subFields connection "remoteIpDetails"
  if (get remote "ipAddressV4").truthy then
    let srcIp ← optionalStr (get remote "ipAddressV4")
    let localPort ← subFields connection "localPortDetails"
    let _ ← intOrNone py (get localPort "port")
    let _ ← optionalStr (get connection "protocol")
    return some ⟨srcIp, none⟩
  else return none

/-- `(payload.get("observables") or [])[:100]`, its objects that have a value;
a text is sliced too, and holds none. -/
def ocsfObservables (py : PyBuiltins) (payload : Params) :
    Except PyExn (List ObservableEntry) := do
  let items ← match pyOr (get payload "observables") (.arr []) with
    | .arr items => pure (items.take 100)
    | .str _ => pure []
    | _ => throw (.other "unhashable type: 'slice'")
  let entries := items.filterMap fun
    | .obj o =>
        if (get o "value").truthy then
          some (textTake 128 (py.str (getOr o "type" (.str "Unknown"))),
            textTake 2048 (py.str (get o "value")))
        else none
    | _ => none
  entries.mapM fun t => observableEntry t.1 t.2

/-- The tactic and the technique of an OCSF finding: an object's entry, else
the text next to it. -/
def ocsfAttack (attacks : Params) (nested entry flat : String) : Json :=
  match get attacks nested with
  | .obj inner => get inner entry
  | _ =>
      match get attacks flat with
      | .str s => .str s
      | _ => .null

/-- The product that a finding names decides its source. -/
def ocsfSource (productUid : String) : AlertSource :=
  let named (name : String) : Bool :=
    decide (name.toList <:+: (lowered productUid).toList)
  if named "splunk" then .splunk
  else if named "crowd" || named "falcon" then .crowdstrike
  else if named "guardduty" || named "aws" then .awsGuardduty
  else .generic

/-! ## §5  Identity -/

/-- `_stable_alert_id`. -/
def stableAlertId (py : PyBuiltins) (source sourceId : String) : String :=
  py.sha256Hex16 (source ++ ":" ++ sourceId)

/-- `_is_detection_finding_payload`. -/
def isDetectionFindingPayload (payload : Params) : Bool :=
  isNumber 2004 (get payload "class_uid") ||
    match get payload "metadata" with
    | .obj metadata => isNumber 2004 (get metadata "class_uid")
    | _ => false

/-- The `source_id` of a Splunk result. -/
def splunkSourceId (py : PyBuiltins) (result : Params) : String :=
  py.str (getOr result "_cd"
    (getOr result "sid" (getOr result "search_name" (.str ""))))

/-- The `detection_id` of a Falcon event and its metadata. -/
def crowdstrikeDetectionId (py : PyBuiltins) (event metadata : Params) :
    String :=
  py.str (getOr event "DetectionId" (getOr metadata "offset" (.str "")))

/-- `aid` of an OCSF finding. -/
def ocsfAid (py : PyBuiltins) (payload : Params) : String :=
  py.str (pyOr (get payload "finding_uid")
    (pyOr (get payload "activity_uid") (getOr payload "id" (.str ""))))

/-! ## §6  The parsers -/

/-- `_parse_ocsf_detection_finding_payload`. -/
def parseOcsfDetectionFindingPayload (py : PyBuiltins) (payload : Params) :
    Except PyExn ParsedAlert := do
  let fi ← fieldsOf (pyOr (get payload "finding_info") (.obj []))
  let title := py.str (pyOr (get fi "title")
    (pyOr (get payload "title") (.str "Detection Finding")))
  let desc := textTake 4000 (py.str (pyOr (get fi "desc")
    (pyOr (get fi "description") (getOr payload "description" (.str "")))))
  let productUid := py.str (pyOr (get fi "product_uid")
    (pyOr (get payload "product_uid") (.str "generic")))
  let sevId := asPyInt? (get fi "severity_id")
  let observables ← ocsfObservables py payload
  let atk ← fieldsOf (pyOr (get payload "attacks") (.obj []))
  let tactic ← optionalStr (ocsfAttack atk "tactic" "name" "tactic_name")
  let technique ←
    optionalStr (ocsfAttack atk "technique" "uid" "technique_uid")
  let evidence := match pyOr (get payload "evidences") (.obj []) with
    | .obj ev =>
        let qr := get ev "query_result"
        if qr.truthy then some (textTake 8192 (py.str qr)) else none
    | _ => none
  let info ← findingInfo (textTake 512 title) desc (textTake 128 productUid)
    sevId
  let finding : DetectionFindingSlice :=
    { schemaVersion := textTake 32
        (py.str (getOr payload "schema_version" (.str "1.0.0")))
      findingInfo := info
      observables
      attacks := attackContext tactic technique
      evidence }
  let aid := ocsfAid py payload
  return {
    alertId := stableAlertId py "ocsf2004"
      (if aid = "" then textTake 200 (jsonDumpsSorted payload) else aid)
    source := ocsfSource productUid
    title := textTake 512 title
    description := desc
    severity := ocsfSeverity sevId
    tenantId := none
    hostname := (observables.find? fun o =>
      decide ("host".toList <:+: (lowered o.type).toList)).map
        ObservableEntry.value
    network := none
    mitreTechnique := technique
    sourceAlertId := if aid = "" then none else some aid
    cloudRegion := none
    cloudAccountId := none
    process := none
    user := none
    mitreTactic := tactic
    detectionFinding := some finding
    rawPayload := payload }

/-- `_parse_splunk`: an alert action carries the event as its `result`. -/
def parseSplunk (py : PyBuiltins) (payload : Params) :
    Except PyExn ParsedAlert := do
  let result ← fieldsOf (getOr payload "result" (.obj payload))
  let severity ← splunkSeverity
    (getOr result "urgency" (getOr result "severity" (.str "medium")))
  let network ← splunkNetwork py result
  let process ← splunkProcess py result
  let user ← splunkUser result
  let sourceId := splunkSourceId py result
  let title ← requiredStr (getOr payload "search_name"
    (getOr result "source" (.str "Splunk Alert")))
  let description ← requiredStr (getOr result "message"
    (getOr result "_raw" (.str (textTake 500 (jsonDumps result)))))
  let hostname ← optionalStr (pyOr (get result "host")
    (pyOr (get result "dest_host") (get result "ComputerName")))
  let mitreTactic ← optionalStr (get result "mitre_tactic")
  let mitreTechnique ← optionalStr
    (pyOr (get result "mitre_technique") (get result "technique_id"))
  attachDetectionFinding {
    alertId := stableAlertId py "splunk" sourceId
    source := .splunk
    title, description, severity
    tenantId := none
    hostname, network, mitreTechnique
    sourceAlertId := some sourceId
    cloudRegion := none
    cloudAccountId := none
    process, user, mitreTactic
    detectionFinding := none
    rawPayload := payload }

/-- `_parse_crowdstrike`. -/
def parseCrowdstrike (py : PyBuiltins) (payload : Params) :
    Except PyExn ParsedAlert := do
  let event ← fieldsOf (getOr payload "event" (.obj payload))
  let metadata ← subFields payload "metadata"
  let severity ← crowdstrikeSeverity py
    (getOr event "SeverityName" (getOr event "Severity" (.str "medium")))
  let processId ← intOrNone py (get event "TargetProcessId")
  let process ← processActivity (get event "FileName") (get event "FilePath")
    processId (get event "ParentImageFileName") (get event "CommandLine")
    (get event "MD5HashData") (get event "SHA256HashData")
  let user ← crowdstrikeUser event
  let network ← crowdstrikeNetwork py event
  let detectionId := crowdstrikeDetectionId py event metadata
  let title ← requiredStr (pyOr (get event "DetectDescription")
    (getOr event "Technique" (.str "CrowdStrike Detection")))
  let description ← requiredStr
    (getOr event "DetectDescription" (.str "CrowdStrike Falcon detection"))
  let hostname ← optionalStr
    (pyOr (get event "ComputerName") (get event "Hostname"))
  let mitreTactic ← optionalStr (get event "Tactic")
  let mitreTechnique ← optionalStr (get event "Technique")
  attachDetectionFinding {
    alertId := stableAlertId py "crowdstrike" detectionId
    source := .crowdstrike
    title, description, severity
    tenantId := none
    hostname, network, mitreTechnique
    sourceAlertId := some detectionId
    cloudRegion := none
    cloudAccountId := none
    process := some process
    user, mitreTactic
    detectionFinding := none
    rawPayload := payload }

/-- `_parse_guardduty`. -/
def parseGuardduty (py : PyBuiltins) (payload : Params) :
    Except PyExn ParsedAlert := do
  let detail ← fieldsOf (getOr payload "detail" (.obj payload))
  let score ← pyFloatOf py
    (getOr detail "severity" (.float 50 (-1)))
  let service ← subFields detail "service"
  let resource ← subFields detail "resource"
  let instance' ← subFields resource "instanceDetails"
  let network ← guarddutyNetwork py service
  let sourceAlertId ← optionalStr (get detail "id")
  let title ← requiredStr (getOr detail "title" (.str "GuardDuty Finding"))
  let description ← requiredStr (getOr detail "description" (.str ""))
  let hostname ← optionalStr (get instance' "instanceId")
  let cloudRegion ← optionalStr
    (pyOr (get detail "region") (get payload "region"))
  let cloudAccountId ← optionalStr (get detail "accountId")
  let mitreTechnique ← optionalStr (get detail "type")
  attachDetectionFinding {
    alertId := stableAlertId py "guardduty"
      (py.str (getOr detail "id" (.str "")))
    source := .awsGuardduty
    title, description
    severity := guarddutySeverity score
    tenantId := none
    hostname, network, mitreTechnique, sourceAlertId, cloudRegion
    cloudAccountId
    process := none
    user := none
    mitreTactic := none
    detectionFinding := none
    rawPayload := payload }

/-- `_parse_generic`: the id is the schema's default, `uuid4()`. -/
def parseGeneric (py : PyBuiltins) (uuid : String) (payload : Params) :
    Except PyExn ParsedAlert := do
  let severity := nameSeverity (py.str
    (getOr payload "severity" (getOr payload "urgency" (.str "medium"))))
  let title ← requiredStr
    (getOr payload "title" (getOr payload "name" (.str "Generic Alert")))
  let description ← requiredStr (getOr payload "description"
    (getOr payload "message" (.str (textTake 500 (jsonDumps payload)))))
  let hostname ← optionalStr (getOr payload "host" (get payload "hostname"))
  let mitreTactic ← optionalStr (get payload "mitre_tactic")
  let mitreTechnique ← optionalStr (get payload "mitre_technique")
  attachDetectionFinding {
    alertId := uuid
    source := .generic
    title, description, severity
    tenantId := none
    hostname
    network := none
    mitreTechnique
    sourceAlertId := some (py.str
      (getOr payload "id" (getOr payload "alert_id" (.str ""))))
    cloudRegion := none
    cloudAccountId := none
    process := none
    user := none
    mitreTactic
    detectionFinding := none
    rawPayload := payload }

/-- `normalize_alert`: a source without a parser of its own gets the generic
one. -/
def normalizeAlert (py : PyBuiltins) (uuid : String) (source : AlertSource)
    (payload : Params) : Except PyExn ParsedAlert :=
  if isDetectionFindingPayload payload then
    parseOcsfDetectionFindingPayload py payload
  else
    match source with
    | .splunk => parseSplunk py payload
    | .crowdstrike => parseCrowdstrike py payload
    | .awsGuardduty => parseGuardduty py payload
    | .generic => parseGeneric py uuid payload
    | .sentinel => parseGeneric py uuid payload

end AlertTriage
