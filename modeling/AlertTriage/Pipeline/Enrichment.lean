import AlertTriage.Pipeline.MitreRouter
import AlertTriage.Runtime.JwtService

/-!
# `agents/enrichment_node.py`

The parameters that are built for a routed tool, the execution of one tool
(cache, registry, call under a timeout, record) and the burst that fires all
routed tools at once. What the cache and the tools answer is the environment's;
the per-tool wording of a result is a parameter (`summarise`), since nothing
but the model reads it.
-/

namespace AlertTriage

open Library

/-! ## §1  Parameter builders -/

/-- `technique_id.startswith(code)`. -/
def hasPrefix (code techniqueId : String) : Bool :=
  decide (code.toList <+: techniqueId.toList)

/-- The hostname of the first host, else the alert's. -/
def primaryHostname (alert : NormalizedAlert) (entities : ExtractedEntities) :
    Json :=
  match entities.hosts with
  | host :: _ => .str host.hostname
  | [] => optionalText alert.hostname

def primaryUsername (entities : ExtractedEntities) : Json :=
  optionalText (entities.users.head?.map UserEntity.username)

def hoursBack (techniqueId : String) : String × Json :=
  ("hours_back", .int (getTimeWindow techniqueId).hours)

def networkText (field : NetworkActivity → Option String)
    (alert : NormalizedAlert) : Option String :=
  alert.network.bind field

/-- A builder: parameters, or none where the tool does not apply. -/
abbrev ParamBuilder :=
  NormalizedAlert → ExtractedEntities → String → Option Params

/-- `_build_splunk_params`. -/
def buildSplunkParams : ParamBuilder := fun alert entities techniqueId =>
  let hostname := ("hostname", primaryHostname alert entities)
  let hours := hoursBack techniqueId
  if hasPrefix "T1110" techniqueId then
    some [("query_type", .str "auth_events_by_user"),
      ("username", primaryUsername entities), hours]
  else if hasPrefix "T1486" techniqueId || hasPrefix "T1490" techniqueId then
    some [("query_type", .str "shadow_copy_deletion"), hours]
  else if hasPrefix "T1053" techniqueId then
    some [("query_type", .str "scheduled_tasks"), hostname, hours]
  else if hasPrefix "T1071" techniqueId then
    some [("query_type", .str "dns_tunneling"), hostname, hours]
  else some [("query_type", .str "process_by_host"), hostname, hours]

/-- `_build_crowdstrike_params`. -/
def buildCrowdstrikeParams : ParamBuilder := fun alert entities techniqueId =>
  some [("query_type", .str "detections_by_host"),
    ("hostname", primaryHostname alert entities), hoursBack techniqueId]

/-- The destination address of an alert, unless it is missing or empty. -/
def destination? (alert : NormalizedAlert) : Option String :=
  (networkText NetworkActivity.dstIp alert).filter fun ip => ip != ""

/-- `_build_threat_intel_params`: the first hash or address. -/
def buildThreatIntelParams : ParamBuilder := fun alert entities _ =>
  match entities.iocs.find? fun ioc =>
      ioc.type == "hash_sha256" || ioc.type == "ip" with
  | some ioc => some [("ioc_type", .str ioc.type), ("ioc_value", .str ioc.value)]
  | none =>
      (destination? alert).map fun ip =>
        [("ioc_type", .str "ip"), ("ioc_value", .str ip)]

/-- `_build_netflow_params`. -/
def buildNetflowParams : ParamBuilder := fun alert entities techniqueId =>
  let srcIp :=
    ("src_ip", optionalText (networkText NetworkActivity.srcIp alert))
  let hours := hoursBack techniqueId
  if hasPrefix "T1071.004" techniqueId then
    some [("query_type", .str "dns_entropy_analysis"), srcIp,
      ("hostname", primaryHostname alert entities), hours]
  else if hasPrefix "T1573" techniqueId || hasPrefix "T1095" techniqueId then
    some [("query_type", .str "beacon_detection"), srcIp, hours]
  else some [("query_type", .str "top_talkers"), srcIp, hours]

/-- `_build_aws_params`. -/
def buildAwsParams : ParamBuilder := fun _ entities techniqueId =>
  some [("query_type", .str "cloudtrail_by_user"),
    ("username", primaryUsername entities), hoursBack techniqueId]

/-- `_build_cmdb_params`. -/
def buildCmdbParams : ParamBuilder := fun alert entities _ =>
  let hostname := primaryHostname alert entities
  if hostname.truthy then
    some [("lookup_type", .str "by_hostname"), ("hostname", hostname)]
  else
    match destination? alert with
    | some ip => some [("lookup_type", .str "by_ip"), ("ip_address", .str ip)]
    | none =>
        some [("lookup_type", .str "by_hostname"), ("hostname", .str "unknown")]

/-- `_build_backup_params`. -/
def buildBackupParams : ParamBuilder := fun alert entities _ =>
  some [("query_type", .str "shadow_copy_status"),
    ("hostname", primaryHostname alert entities)]

/-- `\d`; which characters outside ASCII are digits is Unicode's to say. -/
def isDecimal (isDecimalUnicode : Char → Bool) (c : Char) : Bool :=
  c.isDigit || (decide (128 ≤ c.toNat) && isDecimalUnicode c)

/-- The match of `CVE-\d{4}-\d{4,}` at the front of a text, in upper case. -/
def cveAt (isDecimalUnicode : Char → Bool) (cs : List Char) : Option String :=
  let number := (cs.drop 9).takeWhile (isDecimal isDecimalUnicode)
  if (cs.take 4).map Char.toUpper = "CVE-".toList ∧
      ((cs.drop 4).take 4).length = 4 ∧
      ((cs.drop 4).take 4).all (isDecimal isDecimalUnicode) = true ∧
      (cs.drop 8).head? = some '-' ∧ 4 ≤ number.length then
    some (String.ofList ((cs.take 9 ++ number).map Char.toUpper))
  else none

/-- `cve_pattern.search(text)`. -/
def findCve (isDecimalUnicode : Char → Bool) : List Char → Option String
  | [] => none
  | c :: cs =>
      match cveAt isDecimalUnicode (c :: cs) with
      | some cve => some cve
      | none => findCve isDecimalUnicode cs

/-- The CVE that an indicator names. -/
def cveOf (isDecimalUnicode : Char → Bool) (ioc : IOCEntity) : Option String :=
  if ioc.type = "cve" then some ioc.value
  else findCve isDecimalUnicode ioc.value.toList

/-- `_build_vulncheck_params`. -/
def buildVulncheckParams (isDecimalUnicode : Char → Bool) : ParamBuilder :=
  fun alert entities _ =>
    let texts := [alert.title, alert.description]
    ((entities.iocs.findSome? (cveOf isDecimalUnicode)).or
      (texts.findSome? fun text => findCve isDecimalUnicode text.toList)).map
        fun cve => [("cve_id", .str cve)]

/-- `_PARAM_BUILDERS`. -/
def paramBuilders (isDecimalUnicode : Char → Bool) :
    List (String × ParamBuilder) :=
  [("query_splunk", buildSplunkParams),
    ("query_crowdstrike", buildCrowdstrikeParams),
    ("lookup_threat_intel", buildThreatIntelParams),
    ("query_aws", buildAwsParams),
    ("query_cmdb", buildCmdbParams),
    ("query_netflow", buildNetflowParams),
    ("query_dns_logs", buildNetflowParams),
    ("query_backup_systems", buildBackupParams),
    ("lookup_vulncheck", buildVulncheckParams isDecimalUnicode)]

/-! ## §2  One tool -/

/-- The names in `_TOOL_REGISTRY`. -/
def toolRegistry : List String :=
  ["query_splunk", "query_crowdstrike", "lookup_threat_intel", "query_aws",
    "query_cmdb", "query_netflow", "query_dns_logs", "query_backup_systems",
    "lookup_vulncheck"]

/-- How a registered tool ends, its parameters' validation included. -/
inductive ToolOutcome where
  | result (fields : Params)
  | timeout
  | raised (text : String)

/-- What the cache and the tool answer to one execution. -/
structure ToolAnswer where
  cached : Option Json
  outcome : ToolOutcome

/-- `compress_tool_result`, which raises on anything but an object. -/
def compressToolResult (summarise : String → Params → Option String)
    (toolName : String) : Json → Option String
  | .obj fields =>
      let error := Json.lookup "error" fields
      if error.any Json.truthy then
        some ("[" ++ toolName ++ "] ERROR: " ++ pyStr (error.getD .null))
      else
        match Json.lookup "source_available" fields with
        | some (.bool false) =>
            some ("[" ++ toolName ++ "] ERROR: " ++
              pyStr (error.getD (.str "source unavailable")))
        | _ => summarise toolName fields
  | _ => none

/-- A value for a `bool` field of the schema, which raises on other values. -/
def schemaBool? : Json → Option Bool
  | .bool b => some b
  | .int 0 => some false
  | .int 1 => some true
  | .float m e =>
      if m = 0 then some false
      else if 0 ≤ -e ∧ m = (Nat.pow 10 (-e).toNat : ℕ) then some true
      else none
  | .str s =>
      if s.toLower ∈ ["0", "off", "f", "false", "n", "no"] then some false
      else if s.toLower ∈ ["1", "on", "t", "true", "y", "yes"] then some true
      else none
  | _ => none

/-- A value for a `str | None` field of the schema. -/
def schemaText? : Json → Option (Option String)
  | .null => some none
  | .str s => some (some s)
  | _ => none

/-- The result of a registered tool. -/
def ToolOutcome.toResult : ToolOutcome → Params
  | .result fields => fields
  | .timeout =>
      [("source_available", .bool false), ("error", .str "Timeout after 30s")]
  | .raised text => [("source_available", .bool false), ("error", .str text)]

/-- The record of a tool that was called. -/
def liveRecord (summarise : String → Params → Option String) (toolName : String)
    (params result : Params) : Option ToolCallRecord := do
  let compressed ← compressToolResult summarise toolName (.obj result)
  let sourceAvailable ←
    schemaBool? ((Json.lookup "source_available" result).getD (.bool true))
  let error ← schemaText? ((Json.lookup "error" result).getD .null)
  return ⟨toolName, params, compressed, sourceAvailable, error⟩

/-- `_execute_single_tool`: the raw result and its record; none when it
raises. -/
def executeSingleTool (summarise : String → Params → Option String)
    (toolName : String) (params : Params) (answer : ToolAnswer) :
    Option (Json × ToolCallRecord) :=
  match answer.cached.filter Json.truthy with
  | some cached =>
      (compressToolResult summarise toolName cached).map fun compressed =>
        (cached, ⟨toolName, params, compressed ++ " [CACHED]", true, none⟩)
  | none =>
      if toolName ∈ toolRegistry then
        let result := answer.outcome.toResult
        (liveRecord summarise toolName params result).map fun record =>
          (.obj result, record)
      else
        let error := "Tool '" ++ toolName ++ "' not registered"
        some (.obj [("error", .str error), ("source_available", .bool false)],
          ⟨toolName, params, "[" ++ toolName ++ "] NOT REGISTERED", true,
            some error⟩)

/-- A result that was handed out can be compressed again. -/
theorem compress_of_executed {summarise : String → Params → Option String}
    {toolName : String} {params : Params} {answer : ToolAnswer} {raw : Json}
    {record : ToolCallRecord}
    (h : executeSingleTool summarise toolName params answer =
      some (raw, record)) :
    ∃ text, compressToolResult summarise toolName raw = some text := by
  unfold executeSingleTool at h
  split at h
  · obtain ⟨text, ht, heq⟩ := Option.map_eq_some_iff.mp h
    obtain ⟨rfl, -⟩ := Prod.mk.inj heq
    exact ⟨text, ht⟩
  · split at h
    · obtain ⟨rec, hr, heq⟩ := Option.map_eq_some_iff.mp h
      obtain ⟨rfl, -⟩ := Prod.mk.inj heq
      unfold liveRecord at hr
      cases hc : compressToolResult summarise toolName
          (.obj answer.outcome.toResult) with
      | none => simp [hc] at hr
      | some text => exact ⟨text, rfl⟩
    · obtain ⟨rfl, -⟩ := Prod.mk.inj (Option.some.inj h)
      exact ⟨"[" ++ toolName ++ "] ERROR: " ++
        pyStr (.str ("Tool '" ++ toolName ++ "' not registered")), by
          simp [compressToolResult, Json.lookup, Json.truthy]⟩

/-- A record names the tool that was executed. -/
theorem toolName_of_executed {summarise : String → Params → Option String}
    {toolName : String} {params : Params} {answer : ToolAnswer} {raw : Json}
    {record : ToolCallRecord}
    (h : executeSingleTool summarise toolName params answer =
      some (raw, record)) : record.toolName = toolName := by
  unfold executeSingleTool at h
  split at h
  · obtain ⟨text, -, heq⟩ := Option.map_eq_some_iff.mp h
    obtain ⟨-, rfl⟩ := Prod.mk.inj heq
    rfl
  · split at h
    · obtain ⟨rec, hr, heq⟩ := Option.map_eq_some_iff.mp h
      obtain ⟨-, rfl⟩ := Prod.mk.inj heq
      unfold liveRecord at hr
      simp only [Option.bind_eq_bind, Option.bind_eq_some_iff] at hr
      obtain ⟨text, -, available, -, error, -, hrec⟩ := hr
      obtain rfl := Option.some.inj hrec
      rfl
    · obtain ⟨-, rfl⟩ := Prod.mk.inj (Option.some.inj h)
      rfl

/-! ## §3  The burst -/

/-- The parameters for a routed tool. A builder that raises, as all of them do
without entities, leaves none to set. -/
def burstParams (isDecimalUnicode : Char → Bool) (alert : NormalizedAlert)
    (entities : Option ExtractedEntities) (techniqueId toolName : String) :
    Option Params :=
  match (paramBuilders isDecimalUnicode).lookup toolName with
  | none => none
  | some builder =>
      match entities with
      | none => some []
      | some entities => builder alert entities techniqueId

/-- The executions that the burst starts, with their parameters. -/
def burstCalls (isDecimalUnicode : Char → Bool) (alert : NormalizedAlert)
    (entities : Option ExtractedEntities) (techniqueIds : List String) :
    List (String × Params) :=
  let primary := techniqueIds.headD "T1082"
  (getToolsForTechniques techniqueIds).filterMap fun toolName =>
    (burstParams isDecimalUnicode alert entities primary toolName).map
      fun params => (toolName, params)

/-- The results of tools executed side by side, each with its own answer. -/
def executeAll (summarise : String → Params → Option String)
    (answers : ℕ → ToolAnswer) (calls : List (String × Params)) :
    List (Option (Json × ToolCallRecord)) :=
  calls.zipIdx.map fun (call, i) =>
    executeSingleTool summarise call.1 call.2 (answers i)

/-- `run_burst_enrichment`, from the executions on: the results by tool, and
the records. An execution that raised leaves neither. -/
def collectBurst (results : List (Option (Json × ToolCallRecord))) :
    List (String × Json) × List ToolCallRecord :=
  let answered := results.filterMap id
  (answered.foldl (fun data r => Json.upsert r.2.toolName r.1 data) [],
    answered.map Prod.snd)

end AlertTriage
