import AlertTriage.Pipeline.ContentFilter
import AlertTriage.Pipeline.RunTriage

/-!
# Tool calls and the content filter

No node calls `validate_tool_params`: what the model plans is executed as it
stands. A run executes only calls that pass the filter when the plans that its
think steps keep do (`kept_plans_guard_calls`), and a kept plan that the filter
refuses is executed by the very next node unless the cancel flag stops it
(`refused_plan_executed`).
-/

namespace AlertTriage

open Library

variable {deps : PipelineDeps} {alert : NormalizedAlert}
  {isWordUnicode : Char → Bool}

/-! ## §1  Executed calls and kept plans -/

def Effect.toolCall? : Effect → Option (String × Params)
  | .toolCall name params => some (name, params)
  | _ => none

/-- What a visit hands to `_execute_single_tool`. -/
def executedCalls (v : NodeVisit) : List (String × Params) :=
  v.effects.filterMap Effect.toolCall?

/-- Everything that `execute_tool_node` executes passes the filter. -/
def CallsPass (isWordUnicode : Char → Bool) (v : NodeVisit) : Prop :=
  v.node = .executeTool → ∀ call ∈ executedCalls v,
    passesFilter isWordUnicode call.1 call.2 = true

instance (v : NodeVisit) : Decidable (CallsPass isWordUnicode v) :=
  inferInstanceAs (Decidable (_ → _))

/-- The plans that a think step keeps: those for known tools, as many as the
budget has, of a model that wants to go on. -/
def keptPlans (deps : PipelineDeps) (v : NodeVisit) :
    List AgentThinkToolPlan :=
  if v.node = .agentThink ∧ v.answers.flagSet = false then
    match (askModels deps v.answers.thinkOllama v.answers.thinkOpenai).2 with
    | some response =>
        if response.tocontinue then validPlans v.before.toolBudget response
        else []
    | none => []
  else []

def KeptPlansPass (deps : PipelineDeps) (isWordUnicode : Char → Bool)
    (v : NodeVisit) : Prop :=
  ∀ plan ∈ keptPlans deps v, passesFilter isWordUnicode plan.name
    (parseAgentThinkArguments plan.arguments) = true

instance (v : NodeVisit) : Decidable (KeptPlansPass deps isWordUnicode v) :=
  inferInstanceAs (Decidable (∀ _ ∈ _, _))

/-- The requested calls are the kept plans, their arguments decoded. -/
theorem mem_thinkToolCalls {budget : ℤ} {callIds : ℕ → String}
    {response : AgentThinkResponse} {call : ToolCall}
    (h : call ∈ thinkToolCalls budget callIds response) :
    response.tocontinue = true ∧ ∃ plan ∈ validPlans budget response,
      call.name = plan.name ∧
        call.args = parseAgentThinkArguments plan.arguments := by
  unfold thinkToolCalls at h
  split at h
  · rename_i hgo
    obtain ⟨⟨plan, i⟩, hmem, rfl⟩ := List.mem_map.mp h
    exact ⟨hgo.1, plan, List.fst_mem_of_mem_zipIdx hmem, rfl, rfl⟩
  · exact absurd h List.not_mem_nil

/-- Every kept plan is requested. -/
theorem exists_thinkToolCall {budget : ℤ} (hb : 0 < budget)
    (callIds : ℕ → String) {response : AgentThinkResponse}
    (hgo : response.tocontinue = true) {plan : AgentThinkToolPlan}
    (h : plan ∈ validPlans budget response) :
    ∃ call ∈ thinkToolCalls budget callIds response,
      call.name = plan.name ∧
        call.args = parseAgentThinkArguments plan.arguments := by
  obtain ⟨i, hi, hget⟩ := List.mem_iff_getElem.mp h
  unfold thinkToolCalls
  rw [if_pos ⟨hgo, hb⟩]
  refine ⟨⟨plan.name, parseAgentThinkArguments plan.arguments, callIds i⟩,
    List.mem_map.mpr ⟨(plan, i), ?_, rfl⟩, rfl, rfl⟩
  rw [List.mk_mem_zipIdx_iff_getElem?, List.getElem?_eq_getElem hi, hget]

/-! ## §2  Whole runs -/

/-- A requested batch that is about to be executed passes the filter. -/
def BatchPasses (isWordUnicode : Char → Bool) :
    Position Node TriageState → Prop
  | .ready .executeTool s => ∀ call ∈ lastToolCalls s,
      passesFilter isWordUnicode call.name call.args = true
  | _ => True

theorem batchPasses_afterExecute (s : TriageState) :
    BatchPasses isWordUnicode (.ready (afterExecuteTool s) s) := by
  unfold afterExecuteTool
  split <;> trivial

/-- A batch is only ever requested by the think step before it. -/
theorem batchPasses_step {n : Node} {s : TriageState} {a : NodeAnswers}
    (h : Sound alert (.ready n s))
    (hplans : KeptPlansPass deps isWordUnicode
      ((triageGraph deps).visit n s a)) :
    BatchPasses isWordUnicode ((triageGraph deps).step (.ready n s) a) := by
  unfold StateGraph.step triageGraph
  cases n with
  | normalise => trivial
  | extractEntities =>
      rcases extractEntitiesNode_cases deps a s with hn | ⟨entities, hn⟩
      · simp only [runNode, hn]
        trivial
      · simp only [runNode, hn]
        trivial
  | routeTools => trivial
  | burstEnrichment =>
      obtain ⟨compressed, hn⟩ := burstEnrichmentNode_spec deps a s
      simp only [runNode, hn]
      trivial
  | agentThink =>
      rcases agentThinkNode_cases h.1.validSeverity deps a with
        ⟨-, hn⟩ | ⟨hflag, hn⟩
      · simp only [runNode, hn]
        trivial
      · simp only [runNode, hn]
        cases hasked : (askModels deps a.thinkOllama a.thinkOpenai).2 with
        | none => trivial
        | some response =>
            show BatchPasses isWordUnicode
              (.ready (shouldContinueReact (afterThink a s (some response)))
                (afterThink a s (some response)))
            cases shouldContinueReact (afterThink a s (some response)) with
            | executeTool =>
                -- the calls of the batch are the plans that were kept
                intro call hcall
                rw [lastToolCalls_append rfl] at hcall
                obtain ⟨hgo, plan, hplan, hname, hargs⟩ :=
                  mem_thinkToolCalls hcall
                rw [hname, hargs]
                apply hplans plan
                have hkept : keptPlans deps
                    ((triageGraph deps).visit .agentThink s a) =
                    validPlans s.toolBudget response := by
                  simp [keptPlans, StateGraph.visit, hflag, hasked, hgo]
                rw [hkept]
                exact hplan
            | _ => trivial
  | executeTool =>
      rcases executeToolNode_cases deps a s with
        ⟨-, hn⟩ | ⟨-, -, hn⟩ | ⟨-, -, data, records, hn⟩
      · simp only [runNode, hn]
        exact batchPasses_afterExecute _
      · simp only [runNode, hn]
        exact batchPasses_afterExecute _
      · simp only [runNode, hn]
        exact batchPasses_afterExecute _
  | generateVerdict =>
      rcases generateVerdictNode_cases deps a s with
        ⟨-, hn⟩ | ⟨-, verdict, -, hn⟩ | ⟨-, -, hn⟩
      · simp only [runNode, hn]
        trivial
      · simp only [runNode, hn]
        trivial
      · simp only [runNode, hn, fallbackVerdict, h.1.validSeverity]
        trivial

theorem executedCalls_execute (s : TriageState) (a : NodeAnswers) :
    executedCalls ((triageGraph deps).visit .executeTool s a) =
      if a.flagSet then []
      else (lastToolCalls s).map fun call => (call.name, call.args) := by
  have hmap : ∀ calls : List ToolCall,
      (calls.map fun call => Effect.toolCall call.name call.args).filterMap
        Effect.toolCall? = calls.map fun call => (call.name, call.args) := by
    intro calls
    induction calls with
    | nil => rfl
    | cons call calls ih => rw [List.map_cons, List.map_cons, ← ih]; rfl
  unfold executedCalls StateGraph.visit triageGraph
  rcases executeToolNode_cases deps a s with
    ⟨hf, hn⟩ | ⟨hf, hnil, hn⟩ | ⟨hf, -, data, records, hn⟩
  · simp only [runNode, hn, hf]
    rfl
  · simp only [runNode, hn, hf, hnil]
    rfl
  · simp only [runNode, hn, hf]
    exact hmap (lastToolCalls s)

/-- **Guarded runs.** A run whose think steps keep only plans that pass the
filter executes only calls that pass it. -/
theorem kept_plans_guard_calls (deps : PipelineDeps) (alert : NormalizedAlert)
    (isWordUnicode : Char → Bool) (thread : TriageThread) (call : TriageCall)
    (h : ∀ v ∈ call.trace deps alert thread,
      KeptPlansPass deps isWordUnicode v) :
    ∀ v ∈ call.trace deps alert thread, CallsPass isWordUnicode v := by
  refine StateGraph.visits_assume (G := triageGraph deps)
    (I := fun p => Sound alert p ∧ BatchPasses isWordUnicode p)
    (Q := CallsPass isWordUnicode) ?_ ?_ ?_ call.answers h
  · intro n s a hp hplans
    exact ⟨sound_step deps a hp.1, batchPasses_step hp.1 hplans⟩
  · intro n s a hp _ hn c hc
    obtain rfl : n = .executeTool := hn
    rw [executedCalls_execute] at hc
    split at hc
    · exact absurd hc List.not_mem_nil
    · obtain ⟨call, hcall, rfl⟩ := List.mem_map.mp hc
      exact hp.2 call hcall
  · exact ⟨sound_start deps alert thread call, trivial⟩

/-- The model plans one query. -/
def plansQuery (arguments : String) : NodeAnswers :=
  { silentAnswers with
    thinkOllama := .answer ⟨true, [⟨"query_splunk", arguments⟩], "look"⟩ }

/-- The run up to the execution of the model's query. -/
def queryCall (arguments : String) : TriageCall :=
  freshCall (List.replicate 4 silentAnswers ++
    List.replicate 2 (plansQuery arguments))

theorem plain_query_guarded :
    (((queryCall "\x7b\"hours_back\": 24\x7d").trace plainPipeline sampleAlert
      none).any fun v => v.node == .executeTool) = true ∧
    ∀ v ∈ (queryCall "\x7b\"hours_back\": 24\x7d").trace plainPipeline sampleAlert
      none, CallsPass (fun _ => false) v :=
  ⟨by decide +kernel, kept_plans_guard_calls _ _ _ _ _ (by decide +kernel)⟩

theorem deletion_executed :
    ¬ ∀ (deps : PipelineDeps) (alert : NormalizedAlert)
      (isWordUnicode : Char → Bool) (thread : TriageThread)
      (call : TriageCall), ∀ v ∈ call.trace deps alert thread,
        CallsPass isWordUnicode v := by
  intro h
  exact absurd (h plainPipeline sampleAlert (fun _ => false) none
    (queryCall "\x7b\"raw_spl\": \"index=main | delete\"\x7d")) (by decide +kernel)

/-- The assumption is no stronger than it has to be: the node after a think
step executes a kept plan that the filter refuses, unless it sees the cancel
flag. -/
theorem refused_plan_executed {s : TriageState} {a b : NodeAnswers}
    {plan : AgentThinkToolPlan} (h : Sound alert (.ready .agentThink s))
    (hplan : plan ∈ keptPlans deps ((triageGraph deps).visit .agentThink s a))
    (hrefused : passesFilter isWordUnicode plan.name
      (parseAgentThinkArguments plan.arguments) = false)
    (hb : b.flagSet = false) :
    ∃ v ∈ (triageGraph deps).visits (.ready .agentThink s) [a, b],
      ¬ CallsPass isWordUnicode v := by
  obtain ⟨hflag, response, hasked, hgo, hvalid⟩ : a.flagSet = false ∧
      ∃ response, (askModels deps a.thinkOllama a.thinkOpenai).2 =
        some response ∧ response.tocontinue = true ∧
        plan ∈ validPlans s.toolBudget response := by
    unfold keptPlans at hplan
    split at hplan
    · rename_i hthink
      refine ⟨hthink.2, ?_⟩
      cases hasked : (askModels deps a.thinkOllama a.thinkOpenai).2 with
      | none => simp [StateGraph.visit, hasked] at hplan
      | some response =>
          cases hgo : response.tocontinue with
          | false => simp [StateGraph.visit, hasked, hgo] at hplan
          | true =>
              simp only [StateGraph.visit, hasked, hgo, if_true] at hplan
              exact ⟨response, rfl, hgo, hplan⟩
    · exact absurd hplan List.not_mem_nil
  have hpos : 0 < s.toolBudget := by
    by_contra hle
    rw [validPlans, Int.toNat_of_nonpos (not_lt.mp hle)] at hvalid
    exact absurd hvalid (by simp)
  obtain ⟨call, hcall, hname, hargs⟩ :=
    exists_thinkToolCall hpos a.callIds hgo hvalid
  have hlast : lastToolCalls (afterThink a s (some response)) =
      thinkToolCalls s.toolBudget a.callIds response := lastToolCalls_append rfl
  -- nothing between think and execution looks at the arguments
  have hnext : shouldContinueReact (afterThink a s (some response)) =
      .executeTool := by
    have hbudget : ¬ (afterThink a s (some response)).toolBudget ≤ 0 :=
      not_le.mpr hpos
    have hcont : ¬ (afterThink a s (some response)).tocontinue ≠ some true :=
      fun hne => hne (congrArg some hgo)
    have hcalls : ¬ lastToolCalls (afterThink a s (some response)) = [] := by
      rw [hlast]
      exact List.ne_nil_of_mem hcall
    rw [shouldContinueReact, if_neg hbudget, if_neg hcont, if_neg hcalls]
  have hstep : (triageGraph deps).step (.ready .agentThink s) a =
      .ready .executeTool (afterThink a s (some response)) := by
    rcases agentThinkNode_cases h.1.validSeverity deps a with
      ⟨ht, -⟩ | ⟨-, hn⟩
    · rw [hflag] at ht
      exact absurd ht (by decide)
    · rw [hasked] at hn
      simp only [StateGraph.step, triageGraph, runNode, hn]
      simp only [StateGraph.leave, nextNode, hnext]
  refine ⟨(triageGraph deps).visit .executeTool
    (afterThink a s (some response)) b, ?_, ?_⟩
  · rw [StateGraph.visits_ready, hstep, StateGraph.visits_ready]
    simp
  · intro hpass
    have hone := hpass rfl (call.name, call.args) (by
      rw [executedCalls_execute, hb, hlast]
      exact List.mem_map.mpr ⟨call, hcall, rfl⟩)
    rw [hname, hargs, hrefused] at hone
    exact absurd hone (by decide)

end AlertTriage
