import AlertTriage.Pipeline.NodeSpecs
import AlertTriage.Runtime.TriageWorker

/-!
# `services/triage_pipeline.py`: `run_triage`

One call of `run_triage` invokes the graph with the initial state of the alert,
in a fresh thread or, with a checkpointer, in the thread of the alert id. Keys
that the initial state does not have keep what the thread holds. A call is cut
short by the death of the worker when its answers stop before the graph ends.

`Sound` is the invariant of every run.
-/

namespace AlertTriage

open Library

variable (deps : PipelineDeps) {alert : NormalizedAlert}

/-! ## §1  A call -/

/-- `initial_state`. -/
def initialState (alert : NormalizedAlert) : TriageState where
  alert := alert
  entities := none
  techniqueIds := []
  severity := alert.severity.value
  toolBudget := 5
  toolsCalled := []
  toolRecords := []
  enrichmentData := []
  messages := []
  verdict := none
  phase := .normalise
  error := none
  tocontinue := none
  cancelled := none

/-- The initial state written over what a thread holds. -/
def writeInput (alert : NormalizedAlert) : Option TriageState → TriageState
  | none => initialState alert
  | some s =>
      { initialState alert with
        tocontinue := s.tocontinue
        cancelled := s.cancelled }

abbrev NodeVisit := Visit Node TriageState NodeAnswers Effect

abbrev TriageThread := Option (StateGraph.Checkpoint Node TriageState)

/-- One call of `run_triage`: whether it is given a checkpointer, what its
nodes are answered, and how many node results the checkpointer has kept by the
end, none if not even the input was. -/
structure TriageCall where
  hasCheckpointer : Bool
  answers : List NodeAnswers
  saved : Option ℕ

/-- The thread that the call reads. -/
def TriageCall.visible (call : TriageCall) (thread : TriageThread) :
    TriageThread :=
  if call.hasCheckpointer then thread else none

/-- `graph.ainvoke(initial_state, …)`: where the call starts. -/
def TriageCall.start (deps : PipelineDeps) (alert : NormalizedAlert)
    (thread : TriageThread) (call : TriageCall) :
    ℕ × Position Node TriageState :=
  (triageGraph deps).restart (writeInput alert) (call.visible thread)

/-- Where the call ends. -/
def TriageCall.finish (deps : PipelineDeps) (alert : NormalizedAlert)
    (thread : TriageThread) (call : TriageCall) : Position Node TriageState :=
  (triageGraph deps).drive (call.start deps alert thread).2 call.answers

/-- The nodes that the call runs. -/
def TriageCall.trace (deps : PipelineDeps) (alert : NormalizedAlert)
    (thread : TriageThread) (call : TriageCall) :
    List NodeVisit :=
  (triageGraph deps).visits (call.start deps alert thread).2 call.answers

/-- How many node results the checkpointer keeps: a node that raises has
none. -/
def TriageCall.kept (deps : PipelineDeps) (alert : NormalizedAlert)
    (thread : TriageThread) (call : TriageCall) : ℕ :=
  min (call.saved.getD 0)
    ((call.trace deps alert thread).countP fun v => v.after.isSome)

/-- The thread after the call. -/
def TriageCall.leaves (deps : PipelineDeps) (alert : NormalizedAlert)
    (thread : TriageThread) (call : TriageCall) : TriageThread :=
  if call.hasCheckpointer && call.saved.isSome then
    let start := call.start deps alert thread
    some ((triageGraph deps).checkpoint start.1 start.2 call.answers
      (call.kept deps alert thread))
  else thread

/-- How `run_triage` ends. -/
def triageOutcome (deps : PipelineDeps) (alert : NormalizedAlert) :
    Position Node TriageState → TriageOutcome
  | .ready _ _ => .killed
  | .raised _ _ => .raised
  | .ended s =>
      match s.verdict with
      | some verdict => .verdict verdict
      | none =>
          match fallbackVerdict deps s alert "Graph completed without verdict" with
          | some verdict => .verdict verdict
          | none => .raised

/-- `run_triage`. -/
def runTriage (deps : PipelineDeps) (alert : NormalizedAlert)
    (thread : TriageThread) (call : TriageCall) : TriageOutcome :=
  triageOutcome deps alert (call.finish deps alert thread)

/-! ## §2  The invariant of a run -/

/-- The state is of a run on the alert. -/
structure OfAlert (alert : NormalizedAlert) (s : TriageState) : Prop where
  same : s.alert = alert
  severity : s.severity = alert.severity.value

theorem OfAlert.validSeverity {s : TriageState} (h : OfAlert alert s) :
    Severity.ofValue? s.severity = some alert.severity := by
  rw [h.severity]
  exact Severity.ofValue?_value alert.severity

/-- What a node may count on when it starts. -/
def Expects : Node → TriageState → Prop
  | .burstEnrichment, s => s.toolBudget = getBudget s.severity
  | .agentThink, s => 0 ≤ s.toolBudget
  | .executeTool, s =>
      lastToolCalls s ≠ [] ∧ ((lastToolCalls s).length : ℤ) ≤ s.toolBudget
  | .generateVerdict, s => 0 ≤ s.toolBudget
  | _, _ => True

/-- The invariant of every run on an alert. -/
def Sound (alert : NormalizedAlert) : Position Node TriageState → Prop
  | .ready n s => OfAlert alert s ∧ Expects n s
  | .ended s => OfAlert alert s ∧ 0 ≤ s.toolBudget ∧ s.verdict.isSome = true
  | .raised n _ => n = .extractEntities

theorem sound_start (alert : NormalizedAlert) (thread : TriageThread)
    (call : TriageCall) :
    Sound alert (call.start deps alert thread).2 := by
  refine ⟨?_, trivial⟩
  cases call.visible thread with
  | none => exact ⟨rfl, rfl⟩
  | some c => exact ⟨rfl, rfl⟩

theorem lastToolCalls_append {s : TriageState} {ms : List Message}
    {calls : List ToolCall} (h : s.messages = ms ++ [.ai calls]) :
    lastToolCalls s = calls := by
  simp [lastToolCalls, h]

theorem length_thinkToolCalls {budget : ℤ} (h : 0 ≤ budget)
    (callIds : ℕ → String) (response : AgentThinkResponse) :
    ((thinkToolCalls budget callIds response).length : ℤ) ≤ budget := by
  unfold thinkToolCalls validPlans
  split
  · rw [List.length_map, List.length_zipIdx, List.length_take]
    omega
  · simpa using h

/-- `should_continue_react` leads to a batch that fits the budget, or to the
verdict. -/
theorem expects_shouldContinue {s : TriageState} (h0 : 0 ≤ s.toolBudget)
    (hfits : ((lastToolCalls s).length : ℤ) ≤ s.toolBudget ∨
      s.toolBudget = 0) : Expects (shouldContinueReact s) s := by
  unfold shouldContinueReact
  split
  · exact h0
  · split
    · exact h0
    · split
      · exact h0
      · rename_i hpos _ hne
        exact ⟨hne, hfits.resolve_right (by omega)⟩

theorem expects_afterExecute {s : TriageState} (h0 : 0 ≤ s.toolBudget) :
    Expects (afterExecuteTool s) s := by
  unfold afterExecuteTool
  split
  · exact h0
  · exact h0

/-- **A step keeps the invariant.** -/
theorem sound_step {n : Node} {s : TriageState} (a : NodeAnswers)
    (h : Sound alert (.ready n s)) :
    Sound alert ((triageGraph deps).step (.ready n s) a) := by
  obtain ⟨hs, he⟩ := h
  unfold StateGraph.step triageGraph
  cases n with
  | normalise => exact ⟨⟨hs.same, by rw [← hs.same]; rfl⟩, trivial⟩
  | extractEntities =>
      rcases extractEntitiesNode_cases deps a s with h | ⟨entities, h⟩
      · simp only [runNode, h]
        rfl
      · simp only [runNode, h]
        exact ⟨⟨hs.same, hs.severity⟩, trivial⟩
  | routeTools => exact ⟨⟨hs.same, hs.severity⟩, rfl⟩
  | burstEnrichment =>
      obtain ⟨compressed, h⟩ := burstEnrichmentNode_spec deps a s
      simp only [runNode, h]
      exact ⟨⟨hs.same, hs.severity⟩, le_max_left _ _⟩
  | agentThink =>
      -- a reply plans no more calls than the budget has left
      rcases agentThinkNode_cases hs.validSeverity deps a with ⟨-, h⟩ | ⟨-, h⟩
      · simp only [runNode, h]
        exact ⟨⟨hs.same, hs.severity⟩,
          expects_shouldContinue le_rfl (.inr rfl)⟩
      · simp only [runNode, h]
        cases (askModels deps a.thinkOllama a.thinkOpenai).2 with
        | none =>
            exact ⟨⟨hs.same, hs.severity⟩,
              expects_shouldContinue le_rfl (.inr rfl)⟩
        | some response =>
            refine ⟨⟨hs.same, hs.severity⟩,
              expects_shouldContinue he (.inl ?_)⟩
            rw [lastToolCalls_append rfl]
            exact length_thinkToolCalls he _ _
  | executeTool =>
      rcases executeToolNode_cases deps a s with
        ⟨-, h⟩ | ⟨-, -, h⟩ | ⟨-, -, data, records, h⟩
      · simp only [runNode, h]
        exact ⟨⟨hs.same, hs.severity⟩, expects_afterExecute le_rfl⟩
      · simp only [runNode, h]
        exact ⟨⟨hs.same, hs.severity⟩, expects_afterExecute le_rfl⟩
      · simp only [runNode, h]
        refine ⟨⟨hs.same, hs.severity⟩, expects_afterExecute ?_⟩
        exact sub_nonneg.mpr he.2
  | generateVerdict =>
      rcases generateVerdictNode_cases deps a s with
        ⟨-, h⟩ | ⟨-, verdict, -, h⟩ | ⟨-, -, h⟩
      · simp only [runNode, h]
        exact ⟨⟨hs.same, hs.severity⟩, he, rfl⟩
      · simp only [runNode, h]
        exact ⟨⟨hs.same, hs.severity⟩, he, rfl⟩
      · simp only [runNode, h, fallbackVerdict, hs.validSeverity]
        exact ⟨⟨hs.same, hs.severity⟩, he, rfl⟩

/-- Wherever a run stands, the invariant holds. -/
theorem sound_drive {p : Position Node TriageState} (h : Sound alert p)
    (answers : List NodeAnswers) :
    Sound alert ((triageGraph deps).drive p answers) :=
  StateGraph.drive_invariant (fun _ _ a hp => sound_step deps a hp) h answers

theorem sound_finish (alert : NormalizedAlert) (thread : TriageThread)
    (call : TriageCall) : Sound alert (call.finish deps alert thread) :=
  sound_drive deps (sound_start deps alert thread call) call.answers

/-! ## §3  A pipeline for examples -/

/-- The heuristics on an alert whose text names no indicator. -/
def plainHeuristic (alert : NormalizedAlert) : ExtractedEntities where
  hosts := (alert.hostname.toList.filter (· != "")).map HostEntity.mk
  users := []
  processes := []
  techniques :=
    (alert.mitreTechnique.toList.filter (· != "")).map TechniqueEntity.mk
  iocs := []

/-- Only the local model is configured. -/
def plainPipeline : PipelineDeps where
  hasOllama := true
  hasOpenai := false
  isDecimalUnicode _ := false
  heuristicExtract alert := some (plainHeuristic alert)
  summarise name _ := some ("[" ++ name ++ "]")
  listOfSet := List.dedup
  listOfSet_perm _ := .refl _

/-- No cancel flag, no model, no tool answers. -/
def silentAnswers : NodeAnswers where
  flagSet := false
  extractOllama := .raised
  extractOpenai := .raised
  thinkOllama := .raised
  thinkOpenai := .raised
  verdictOllama := .raised
  verdictOpenai := .raised
  tools _ := ⟨none, .timeout⟩
  callIds i := "call_" ++ toString i

/-- A run in a fresh thread. -/
def freshCall (answers : List NodeAnswers) : TriageCall :=
  ⟨false, answers, none⟩

end AlertTriage
