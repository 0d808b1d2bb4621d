import AlertTriage.Library.StateGraph
import AlertTriage.Pipeline.Enrichment

/-!
# `services/triage_pipeline.py`: the graph

The state that the nodes share, the seven nodes, the two conditional edges and
the graph they make. A node gets the answers of the outside systems it calls
(`NodeAnswers`) and reports the calls in order (`Effect`): reads of the cancel
flag, calls of a model, executions of a tool. Prompts and message texts, which
only models read, are left out.
-/

namespace AlertTriage

open Library

/-! ## §1  State, answers, effects -/

structure ToolCall where
  name : String
  args : Params
  id : String

/-- A message of the conversation, as far as the graph reads it. -/
inductive Message where
  | human
  | ai (toolCalls : List ToolCall)
  | tool (callId name : String)

inductive GraphPhase where
  | normalise | extract | route | burst | react | verdict | done
deriving DecidableEq, Repr

/-- `TriageState`. The last two keys are not part of the initial state. -/
structure TriageState where
  alert : NormalizedAlert
  entities : Option ExtractedEntities
  techniqueIds : List String
  severity : String
  toolBudget : ℤ
  toolsCalled : List String
  toolRecords : List ToolCallRecord
  enrichmentData : List (String × String)
  messages : List Message
  verdict : Option TriageVerdict
  phase : GraphPhase
  error : Option String
  tocontinue : Option Bool
  cancelled : Option Bool

/-- How one call of a model with structured output ends: it raises, answers
without the structure, or answers. -/
inductive ModelReply (α : Type) where
  | raised
  | empty
  | answer (a : α)

inductive Provider where
  | ollama | openai
deriving DecidableEq, Repr

/-- What the outside systems answer to one node. -/
structure NodeAnswers where
  flagSet : Bool
  extractOllama : ModelReply ExtractedEntities
  extractOpenai : ModelReply ExtractedEntities
  thinkOllama : ModelReply AgentThinkResponse
  thinkOpenai : ModelReply AgentThinkResponse
  verdictOllama : ModelReply TriageVerdict
  verdictOpenai : ModelReply TriageVerdict
  tools : ℕ → ToolAnswer
  callIds : ℕ → String

/-- The calls a node makes. -/
inductive Effect where
  | flagRead (set : Bool)
  | modelCall (provider : Provider)
  | toolCall (name : String) (params : Params)

/-- The settings that nodes read, and what they use of the libraries: the
heuristic extraction, which may raise, the wording of tool results, and the
order in which `list(set(...))` comes out. -/
structure PipelineDeps where
  hasOllama : Bool
  hasOpenai : Bool
  isDecimalUnicode : Char → Bool
  heuristicExtract : NormalizedAlert → Option ExtractedEntities
  summarise : String → Params → Option String
  listOfSet : List String → List String
  listOfSet_perm : ∀ names, (listOfSet names).Perm names.dedup

/-- The local model, then the other one if that did not answer: the calls made
and the answer. -/
def askModels {α : Type} (deps : PipelineDeps) (ollama openai : ModelReply α) :
    List Effect × Option α :=
  let second : List Effect × Option α :=
    if deps.hasOpenai then
      ([.modelCall .openai], match openai with | .answer a => some a | _ => none)
    else ([], none)
  if deps.hasOllama then
    match ollama with
    | .answer a => ([.modelCall .ollama], some a)
    | _ => (.modelCall .ollama :: second.1, second.2)
  else second

/-! ## §2  The deterministic nodes -/

/-- `normalise_alert_node`. -/
def normaliseAlertNode (s : TriageState) : TriageState :=
  { s with severity := s.alert.severity.value, phase := .extract, error := none }

/-- `extract_entities_llm`: the entities, or none when it raises or a model
answers without them. -/
def extractEntitiesLlm (deps : PipelineDeps) (a : NodeAnswers)
    (alert : NormalizedAlert) : List Effect × Option ExtractedEntities :=
  let second : List Effect × Option ExtractedEntities :=
    if deps.hasOpenai then
      ([.modelCall .openai],
        match a.extractOpenai with
        | .answer entities => some entities
        | .empty => none
        | .raised => deps.heuristicExtract alert)
    else ([], deps.heuristicExtract alert)
  match a.extractOllama with
  | .answer entities => ([.modelCall .ollama], some entities)
  | .empty => ([.modelCall .ollama], none)
  | .raised => (.modelCall .ollama :: second.1, second.2)

/-- `extract_entities`, only asked to use a model when Ollama is configured. -/
def extractEntities (deps : PipelineDeps) (a : NodeAnswers)
    (alert : NormalizedAlert) : List Effect × Option ExtractedEntities :=
  if deps.hasOllama then extractEntitiesLlm deps a alert
  else ([], deps.heuristicExtract alert)

/-- The techniques to route: the alert's own in front, and never none. -/
def routedTechniques (alert : NormalizedAlert) (entities : ExtractedEntities) :
    List String :=
  let extracted := entities.techniques.map TechniqueEntity.techniqueId
  let merged :=
    match alert.mitreTechnique with
    | some tid =>
        if tid = "" ∨ tid ∈ extracted then extracted else tid :: extracted
    | none => extracted
  if merged = [] then ["T1082"] else merged

/-- `extract_entities_node`. It raises where there are no entities in the end:
its handler falls back to the heuristics once more, which do what they did. -/
def extractEntitiesNode (deps : PipelineDeps) (a : NodeAnswers)
    (s : TriageState) : List Effect × Option TriageState :=
  let (effects, extracted) := extractEntities deps a s.alert
  (effects, extracted.map fun entities =>
    { s with
      entities := some entities
      techniqueIds := routedTechniques s.alert entities
      phase := .route })

/-- `route_tools_node`. -/
def routeToolsNode (s : TriageState) : TriageState :=
  { s with toolBudget := getBudget s.severity, phase := .burst }

/-! ## §3  The burst -/

/-- The compressed summaries, by tool; none when one raises. -/
def compressAll (summarise : String → Params → Option String)
    (data : List (String × Json)) : Option (List (String × String)) :=
  data.mapM fun (name, raw) =>
    (compressToolResult summarise name raw).map fun text => (name, text)

/-- `burst_enrichment_node`. -/
def burstEnrichmentNode (deps : PipelineDeps) (a : NodeAnswers)
    (s : TriageState) : List Effect × Option TriageState :=
  let calls :=
    burstCalls deps.isDecimalUnicode s.alert s.entities s.techniqueIds
  let (data, records) := collectBurst (executeAll deps.summarise a.tools calls)
  (calls.map fun c => .toolCall c.1 c.2,
    (compressAll deps.summarise data).map fun compressed =>
      { s with
        enrichmentData := compressed
        toolRecords := s.toolRecords ++ records
        toolsCalled := s.toolsCalled ++ records.map ToolCallRecord.toolName
        toolBudget := max 0 (s.toolBudget - records.length)
        messages := [.human]
        phase := .react })

/-! ## §4  Think and execute -/

/-- `_REACT_TOOL_NAMES`. -/
def reactToolNames : List String :=
  ["query_splunk", "query_crowdstrike", "lookup_threat_intel", "query_aws",
    "query_cmdb", "query_netflow", "query_dns_logs", "query_backup_systems"]

/-- `_parse_agent_think_arguments`: text that is no JSON object, blank text
among it, is no arguments. -/
def parseAgentThinkArguments (raw : String) : Params :=
  match Json.loads raw with
  | some (.obj fields) => fields
  | _ => []

/-- The plans that the node keeps: known tools, as many as the budget has. -/
def validPlans (budget : ℤ) (response : AgentThinkResponse) :
    List AgentThinkToolPlan :=
  (response.plannedTools.filter fun plan => plan.name ∈ reactToolNames).take
    budget.toNat

/-- The tool calls of the message that the node appends. -/
def thinkToolCalls (budget : ℤ) (callIds : ℕ → String)
    (response : AgentThinkResponse) : List ToolCall :=
  if response.tocontinue = true ∧ 0 < budget then
    (validPlans budget response).zipIdx.map fun (plan, i) =>
      ⟨plan.name, parseAgentThinkArguments plan.arguments, callIds i⟩
  else []

/-- The state after `agent_think_node` got an answer, or none from any model. -/
def afterThink (a : NodeAnswers) (s : TriageState) :
    Option AgentThinkResponse → TriageState
  | none =>
      { s with
        messages := s.messages ++ [.ai []]
        toolBudget := 0
        tocontinue := some false }
  | some response =>
      { s with
        messages :=
          s.messages ++ [.ai (thinkToolCalls s.toolBudget a.callIds response)]
        tocontinue := some response.tocontinue }

/-- `agent_think_node`. The prompt is built for `Severity(state["severity"])`,
which raises on other texts. -/
def agentThinkNode (deps : PipelineDeps) (a : NodeAnswers) (s : TriageState) :
    List Effect × Option TriageState :=
  if a.flagSet then
    ([.flagRead true],
      some { s with
        cancelled := some true
        tocontinue := some false
        toolBudget := 0 })
  else
    match Severity.ofValue? s.severity with
    | none => ([.flagRead false], none)
    | some _ =>
        let (calls, response) := askModels deps a.thinkOllama a.thinkOpenai
        (.flagRead false :: calls, some (afterThink a s response))

/-- One round of the loop over the results: the call is answered, and recorded
unless its execution raised. -/
def observeCall (summarise : String → Params → Option String)
    (s : TriageState) (call : ToolCall) :
    Option (Json × ToolCallRecord) → Option TriageState
  | none =>
      some { s with
        messages := s.messages ++ [.tool call.id call.name]
        toolsCalled := s.toolsCalled ++ [call.name] }
  | some (raw, record) =>
      (compressToolResult summarise call.name raw).map fun compressed =>
        { s with
          messages := s.messages ++ [.tool call.id call.name]
          enrichmentData := Json.upsert call.name compressed s.enrichmentData
          toolRecords := s.toolRecords ++ [record]
          toolsCalled := s.toolsCalled ++ [call.name] }

/-- The loop over calls and results. -/
def observeCalls (summarise : String → Params → Option String) :
    TriageState → List (ToolCall × Option (Json × ToolCallRecord)) →
      Option TriageState
  | s, [] => some s
  | s, (call, result) :: rest =>
      match observeCall summarise s call result with
      | none => none
      | some s' => observeCalls summarise s' rest

/-- The tool calls of the last message. -/
def lastToolCalls (s : TriageState) : List ToolCall :=
  match s.messages.getLast? with
  | some (.ai calls) => calls
  | _ => []

/-- The calls with their results. -/
def executeCalls (deps : PipelineDeps) (a : NodeAnswers)
    (calls : List ToolCall) : List (ToolCall × Option (Json × ToolCallRecord)) :=
  calls.zip (executeAll deps.summarise a.tools
    (calls.map fun call => (call.name, call.args)))

/-- `execute_tool_node`. -/
def executeToolNode (deps : PipelineDeps) (a : NodeAnswers) (s : TriageState) :
    List Effect × Option TriageState :=
  if a.flagSet then
    ([.flagRead true], some { s with cancelled := some true, toolBudget := 0 })
  else
    match lastToolCalls s with
    | [] => ([.flagRead false], some { s with toolBudget := 0 })
    | calls =>
        (.flagRead false :: calls.map fun call => .toolCall call.name call.args,
          (observeCalls deps.summarise s (executeCalls deps a calls)).map
            fun s' => { s' with toolBudget := s.toolBudget - calls.length })

/-! ## §5  The verdict -/

/-- The verdict of a cancelled run. -/
def cancelledVerdict (s : TriageState) : TriageVerdict where
  alertId := s.alert.alertId
  tenantId := s.alert.tenantId
  status := some "cancelled"
  severity := s.alert.severity
  severityJustification := "Triage cancelled before completion. The analyst closed the live view and a cancel signal arrived during the grace window."
  mitreAssessments := []
  triageSummary := "Triage was cancelled before a verdict could be generated."
  confirmedIocs := []
  immediateActions := []
  escalation := .monitor
  escalationRationale := "Synthesized cancelled-verdict; no LLM analysis was performed."
  totalToolCalls := s.toolsCalled.length
  toolsCalled := s.toolsCalled
  analystConfidence := 8 / 10
  falsePositiveProbability := 1 / 10

/-- `_fallback_verdict`, which names no tenant; it raises on a severity that
is none. -/
def fallbackVerdict (deps : PipelineDeps) (s : TriageState)
    (alert : NormalizedAlert) (reason : String) : Option TriageVerdict :=
  (Severity.ofValue? s.severity).map fun severity =>
    { alertId := alert.alertId
      tenantId := none
      status := none
      severity
      severityJustification := "Fallback verdict — " ++ reason
      mitreAssessments := (s.techniqueIds.take 3).map fun tid =>
        ⟨tid, "Unknown", "Unknown", 5 / 10⟩
      triageSummary := "Automated triage for alert: " ++ alert.title ++
        ". Enrichment collected from " ++ toString s.toolsCalled.length ++
        " sources. Manual analyst review required."
      confirmedIocs := []
      immediateActions :=
        [⟨1, "Review alert manually", alert.hostname⟩,
          ⟨2, "Check enrichment data in pipeline logs", none⟩,
          ⟨3, "Escalate to senior analyst if uncertain", none⟩]
      escalation := .monitor
      escalationRationale :=
        "Automated verdict generation failed. Manual review required."
      totalToolCalls := s.toolsCalled.length
      toolsCalled := deps.listOfSet s.toolsCalled
      analystConfidence := 3 / 10
      falsePositiveProbability := 5 / 10 }

/-- What the node writes over a model's verdict. -/
def stampVerdict (deps : PipelineDeps) (s : TriageState)
    (verdict : TriageVerdict) : TriageVerdict :=
  { verdict with
    alertId := s.alert.alertId
    totalToolCalls := s.toolsCalled.length
    toolsCalled := deps.listOfSet s.toolsCalled }

/-- `generate_verdict_node`. -/
def generateVerdictNode (deps : PipelineDeps) (a : NodeAnswers)
    (s : TriageState) : List Effect × Option TriageState :=
  if s.cancelled = some true then
    ([], some { s with verdict := some (cancelledVerdict s), phase := .done })
  else
    let (calls, reply) := askModels deps a.verdictOllama a.verdictOpenai
    let verdict? :=
      match reply with
      | some verdict => some (stampVerdict deps s verdict)
      | none => fallbackVerdict deps s s.alert "All LLM providers unavailable"
    (calls, verdict?.map fun verdict =>
      { s with verdict := some verdict, phase := .done })

/-! ## §6  Edges and graph -/

inductive Node where
  | normalise | extractEntities | routeTools | burstEnrichment | agentThink
  | executeTool | generateVerdict
deriving DecidableEq, Repr

/-- `should_continue_react`, as the node it leads to. -/
def shouldContinueReact (s : TriageState) : Node :=
  if s.toolBudget ≤ 0 then .generateVerdict
  else if s.tocontinue ≠ some true then .generateVerdict
  else if lastToolCalls s = [] then .generateVerdict
  else .executeTool

/-- `after_execute_tool`, as the node it leads to. -/
def afterExecuteTool (s : TriageState) : Node :=
  if s.toolBudget ≤ 0 then .generateVerdict else .agentThink

def runNode (deps : PipelineDeps) (n : Node) (a : NodeAnswers)
    (s : TriageState) : List Effect × Option TriageState :=
  match n with
  | .normalise => ([], some (normaliseAlertNode s))
  | .extractEntities => extractEntitiesNode deps a s
  | .routeTools => ([], some (routeToolsNode s))
  | .burstEnrichment => burstEnrichmentNode deps a s
  | .agentThink => agentThinkNode deps a s
  | .executeTool => executeToolNode deps a s
  | .generateVerdict => generateVerdictNode deps a s

def nextNode : Node → TriageState → Option Node
  | .normalise, _ => some .extractEntities
  | .extractEntities, _ => some .routeTools
  | .routeTools, _ => some .burstEnrichment
  | .burstEnrichment, _ => some .agentThink
  | .agentThink, s => some (shouldContinueReact s)
  | .executeTool, s => some (afterExecuteTool s)
  | .generateVerdict, _ => none

/-- `build_triage_graph`. -/
def triageGraph (deps : PipelineDeps) :
    StateGraph Node TriageState NodeAnswers Effect where
  entry := .normalise
  exec := runNode deps
  route := nextNode

end AlertTriage
