import AlertTriage.Library.JsonRoundTrip
import Mathlib.Data.Rat.Init

/-!
# The shared schemas

The records that cross module boundaries: alerts, verdicts, the model's
structured answers and the phase events. Fields that no modelled function
reads are left out; a datetime is the text it is written as.
-/

namespace AlertTriage

open Library

/-! ## §1  Enumerations -/

inductive Severity where
  | low | medium | high | critical
deriving DecidableEq, Repr

def Severity.value : Severity → String
  | .low => "LOW"
  | .medium => "MEDIUM"
  | .high => "HIGH"
  | .critical => "CRITICAL"

/-- `Severity(text)`, which raises on any other text. -/
def Severity.ofValue? (text : String) : Option Severity :=
  [Severity.low, .medium, .high, .critical].find? fun s => s.value == text

theorem Severity.ofValue?_value (s : Severity) :
    Severity.ofValue? s.value = some s := by
  cases s <;> decide

inductive AlertSource where
  | splunk | crowdstrike | awsGuardduty | sentinel | generic
deriving DecidableEq, Repr

def AlertSource.value : AlertSource → String
  | .splunk => "splunk"
  | .crowdstrike => "crowdstrike"
  | .awsGuardduty => "aws_guardduty"
  | .sentinel => "sentinel"
  | .generic => "generic"

inductive EscalationDecision where
  | escalateIr | falsePositive | monitor | close
deriving DecidableEq, Repr

inductive TriagePhase where
  | queued | extract | route | burst | react | executeTool | verdict | done
  | failed | cancelled
deriving DecidableEq, Repr

def TriagePhase.value : TriagePhase → String
  | .queued => "queued"
  | .extract => "extract"
  | .route => "route"
  | .burst => "burst"
  | .react => "react"
  | .executeTool => "execute_tool"
  | .verdict => "verdict"
  | .done => "done"
  | .failed => "failed"
  | .cancelled => "cancelled"

theorem TriagePhase.value_injective : Function.Injective TriagePhase.value := by
  intro p q h
  cases p <;> cases q <;> first | rfl | exact absurd h (by decide)

/-! ## §2  Alerts -/

structure NetworkActivity where
  srcIp : Option String
  dstIp : Option String
deriving DecidableEq, Repr

structure NormalizedAlert where
  alertId : String
  source : AlertSource
  title : String
  description : String
  severity : Severity
  tenantId : Option String
  hostname : Option String
  network : Option NetworkActivity
  mitreTechnique : Option String
deriving DecidableEq, Repr

/-! ## §3  Extracted entities -/

structure HostEntity where
  hostname : String
deriving DecidableEq, Repr

structure UserEntity where
  username : String
deriving DecidableEq, Repr

structure ProcessEntity where
  name : String
deriving DecidableEq, Repr

structure TechniqueEntity where
  techniqueId : String
deriving DecidableEq, Repr

structure IOCEntity where
  type : String
  value : String
deriving DecidableEq, Repr

structure ExtractedEntities where
  hosts : List HostEntity
  users : List UserEntity
  processes : List ProcessEntity
  techniques : List TechniqueEntity
  iocs : List IOCEntity
deriving DecidableEq, Repr

/-! ## §4  Tool calls and the model's THINK answer -/

/-- The arguments of a tool call: a decoded JSON object. -/
abbrev Params := List (String × Json)

structure ToolCallRecord where
  toolName : String
  inputParams : Params
  resultSummary : String
  sourceAvailable : Bool
  error : Option String
deriving Repr

structure AgentThinkToolPlan where
  name : String
  arguments : String
deriving DecidableEq, Repr

structure AgentThinkResponse where
  tocontinue : Bool
  plannedTools : List AgentThinkToolPlan
  reasoning : String
deriving DecidableEq, Repr

/-! ## §5  Verdicts -/

structure MITREAssessment where
  techniqueId : String
  techniqueName : String
  tactic : String
  confidence : ℚ
deriving DecidableEq, Repr

structure ImmediateAction where
  priority : ℕ
  action : String
  target : Option String
deriving DecidableEq, Repr

structure TriageVerdict where
  alertId : String
  tenantId : Option String
  status : Option String
  severity : Severity
  severityJustification : String
  mitreAssessments : List MITREAssessment
  triageSummary : String
  confirmedIocs : List IOCEntity
  immediateActions : List ImmediateAction
  escalation : EscalationDecision
  escalationRationale : String
  totalToolCalls : ℕ
  toolsCalled : List String
  analystConfidence : ℚ
  falsePositiveProbability : ℚ
deriving DecidableEq, Repr

/-! ## §6  Phase events -/

structure PhaseEvent where
  alertId : String
  tenantId : String
  eventSeq : ℕ
  emittedAt : String
  traceId : Option String
  phase : TriagePhase
deriving DecidableEq, Repr

/-- The writer behind `model_dump_json`: no blanks, text left as it is. -/
def pydanticStyle : Json.Style := ⟨false, false⟩

/-- The writer behind `json.dumps`. -/
def pythonStyle : Json.Style := ⟨true, true⟩

def optionalText : Option String → Json
  | some s => .str s
  | none => .null

def PhaseEvent.modelDump (e : PhaseEvent) : Json :=
  .obj [("alert_id", .str e.alertId), ("tenant_id", .str e.tenantId),
    ("event_seq", .int e.eventSeq), ("emitted_at", .str e.emittedAt),
    ("trace_id", optionalText e.traceId), ("kind", .str "phase"),
    ("phase", .str e.phase.value), ("detail", .null)]

def PhaseEvent.modelDumpJson (e : PhaseEvent) : String :=
  Json.dumps pydanticStyle e.modelDump

theorem PhaseEvent.modelDump_distinct (e : PhaseEvent) :
    Json.Distinct e.modelDump := by
  cases h : e.traceId <;>
    simp [modelDump, optionalText, h, Json.Distinct, Json.DistinctFields]

/-- An event is read back from its text: two events with one text agree on
alert and phase. -/
theorem PhaseEvent.eq_of_modelDumpJson_eq {e e' : PhaseEvent}
    (h : e.modelDumpJson = e'.modelDumpJson) :
    e.alertId = e'.alertId ∧ e.phase = e'.phase := by
  have he := Json.loads_dumps pydanticStyle e.modelDump_distinct
  have he' := Json.loads_dumps pydanticStyle e'.modelDump_distinct
  have hd : e.modelDump = e'.modelDump := by
    rw [modelDumpJson, modelDumpJson] at h
    rw [h, he'] at he
    exact (Option.some.inj he).symm
  simp only [modelDump, Json.obj.injEq, List.cons.injEq, Prod.mk.injEq,
    Json.str.injEq, true_and, and_true] at hd
  exact ⟨hd.1, TriagePhase.value_injective hd.2.2.2.2.2⟩

end AlertTriage
