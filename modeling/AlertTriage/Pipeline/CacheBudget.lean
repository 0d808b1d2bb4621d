import AlertTriage.Pipeline.GuardedTools
import AlertTriage.Pipeline.RunVerdict
import AlertTriage.Pipeline.ToolBudget
import AlertTriage.Pipeline.ToolSchemas
import Mathlib.Algebra.Order.BigOperators.Group.List

/-!
# The cache and the tool budget

Whether the cache answers is decided inside `_execute_single_tool`; the budget is lowered
outside, by the records of the burst and by the calls of a batch, the cached ones among them.
The budget at the verdict is what the sources were asked for just where no node counts a call
that asked none (`cache_budget_iff`).
-/

namespace AlertTriage

open Library

variable {deps : PipelineDeps} {alert : NormalizedAlert}
  {asks : String → Params → Bool}

/-! ## §1  Calls and sources -/

/-- A call of a visit, with what the cache and the tool answer to it. -/
abbrev AnsweredCall := (String × Params) × ToolAnswer

/-- The calls of a visit. -/
def answeredCalls (v : NodeVisit) : List AnsweredCall :=
  (executedCalls v).zipIdx.map fun p => (p.1, v.answers.tools p.2)

/-- The call gets past the cache and the schema, to a tool that asks its source. Which tools
do is settled by the settings: `asks` tells. -/
def asksSource (asks : String → Params → Bool) (p : AnsweredCall) : Bool :=
  (p.2.cached.filter Json.truthy).isNone &&
    (toolSchemas.lookup p.1.1).any (·.validates p.1.2) && asks p.1.1 p.1.2

/-- The tool executions of the visit that asked a source. -/
def sourceCalls (asks : String → Params → Bool) (v : NodeVisit) : ℕ :=
  (answeredCalls v).countP (asksSource asks)

/-- The execution returned. -/
def returned (deps : PipelineDeps) (p : AnsweredCall) : Bool :=
  (executeSingleTool deps.summarise p.1.1 p.1.2 p.2).isSome

/-- The node counts the call: the burst its records, the batch its calls. -/
def counted (deps : PipelineDeps) (v : NodeVisit) (p : AnsweredCall) : Bool :=
  v.node != .burstEnrichment || returned deps p

/-- The calls of the visit that are counted and asked a source. -/
def paidCalls (deps : PipelineDeps) (asks : String → Params → Bool) (v : NodeVisit) : ℕ :=
  (answeredCalls v).countP fun p => counted deps v p && asksSource asks p

/-- By how much the visit lowers the budget. -/
def budgetTaken (v : NodeVisit) : ℤ :=
  (v.after.map fun s => v.before.toolBudget - s.toolBudget).getD 0

/-- The models, asked by a think step, answer. -/
def ThinkAnswered (deps : PipelineDeps) (v : NodeVisit) : Prop :=
  v.node = .agentThink →
    (askModels deps v.answers.thinkOllama v.answers.thinkOpenai).2.isSome = true

instance (v : NodeVisit) : Decidable (ThinkAnswered deps v) :=
  inferInstanceAs (Decidable (_ → _))

/-- The budget left is the initial one without the calls that asked a source, and neither the
burst nor a batch is charged for more than those of its calls that did. -/
structure KeepsBudget (deps : PipelineDeps) (asks : String → Params → Bool)
    (alert : NormalizedAlert) (trace : List NodeVisit) (s : TriageState) : Prop where
  left : s.toolBudget = getBudget alert.severity.value - (trace.map (sourceCalls asks)).sum
  uncharged : ∀ v ∈ trace, v.node = .burstEnrichment ∨ v.node = .executeTool →
    budgetTaken v ≤ paidCalls deps asks v

/-- Every call of a batch asks its source. In the burst, what asks its source returns, and
what returns, up to the budget, is as much as asks. -/
def SourcesPay (deps : PipelineDeps) (asks : String → Params → Bool) (v : NodeVisit) : Prop :=
  (v.node = .executeTool → ∀ p ∈ answeredCalls v, asksSource asks p = true) ∧
    (v.node = .burstEnrichment →
      (∀ p ∈ answeredCalls v, asksSource asks p = true → returned deps p = true) ∧
        min v.before.toolBudget ((answeredCalls v).countP (returned deps)) =
          sourceCalls asks v)

instance (v : NodeVisit) : Decidable (SourcesPay deps asks v) :=
  inferInstanceAs (Decidable (_ ∧ _))

/-! ## §2  What the nodes charge -/

theorem length_answeredCalls (v : NodeVisit) : (answeredCalls v).length = executions v := by
  have hcount (effects : List Effect) :
      (effects.filterMap Effect.toolCall?).length = effects.countP Effect.isToolCall := by
    induction effects with
    | nil => rfl
    | cons e effects ih =>
        cases e with
        | toolCall name params =>
            rw [List.countP_cons_of_pos rfl, ← ih]
            rfl
        | _ => rwa [List.countP_cons_of_neg Bool.false_ne_true, List.filterMap_cons_none rfl]
  rw [answeredCalls, List.length_map, List.length_zipIdx]
  exact hcount v.effects

/-- A visit that executes nothing asks nothing. -/
theorem sourceCalls_of_idle {v : NodeVisit} (h : executions v = 0) : sourceCalls asks v = 0 := by
  rw [← length_answeredCalls, List.length_eq_zero_iff] at h
  rw [sourceCalls, h]
  rfl

theorem answeredCalls_burst (s : TriageState) (a : NodeAnswers) :
    answeredCalls ((triageGraph deps).visit .burstEnrichment s a) =
      (s.burstCalls deps).zipIdx.map fun p => (p.1, a.tools p.2) := by
  obtain ⟨compressed, hn⟩ := burstEnrichmentNode_spec deps a s
  have heffects : executedCalls ((triageGraph deps).visit .burstEnrichment s a) =
      s.burstCalls deps := by
    show (burstEnrichmentNode deps a s).1.filterMap Effect.toolCall? = _
    rw [hn, List.filterMap_map]
    exact List.filterMap_some
  rw [answeredCalls, heffects]
  rfl

/-- The records of the burst are of the executions that returned. -/
theorem length_burstRecords (s : TriageState) (a : NodeAnswers) :
    (burstRecords deps a s).length =
      (answeredCalls ((triageGraph deps).visit .burstEnrichment s a)).countP
        (returned deps) := by
  rw [answeredCalls_burst, List.countP_map]
  show (((executeAll deps.summarise a.tools (s.burstCalls deps)).filterMap id).map
    Prod.snd).length = _
  unfold executeAll
  rw [List.length_map]
  induction (s.burstCalls deps).zipIdx with
  | nil => rfl
  | cons p calls ih =>
      rw [List.map_cons, List.countP_cons, ← ih]
      cases hrun : executeSingleTool deps.summarise p.1.1 p.1.2 (a.tools p.2) with
      | none => simp [returned, hrun]
      | some r => simp [returned, hrun]

/-- The burst charges its records, as far as the budget goes. -/
theorem budgetTaken_burst {s : TriageState} (h : Sound alert (.ready .burstEnrichment s))
    (a : NodeAnswers) :
    budgetTaken ((triageGraph deps).visit .burstEnrichment s a) =
      min s.toolBudget ((answeredCalls
        ((triageGraph deps).visit .burstEnrichment s a)).countP (returned deps)) := by
  obtain ⟨compressed, hn⟩ := burstEnrichmentNode_spec deps a s
  have hbudget : s.toolBudget = getBudget s.severity := h.2
  rw [← length_burstRecords]
  show (((burstEnrichmentNode deps a s).2).map _).getD 0 = _
  rw [hn]
  show s.toolBudget - max 0 (s.toolBudget - (burstRecords deps a s).length) = _
  omega

/-- A batch charges its calls. -/
theorem budgetTaken_execute {s : TriageState} (h : Sound alert (.ready .executeTool s))
    {a : NodeAnswers}
    (hflag : sawFlag ((triageGraph deps).visit .executeTool s a) = false) :
    budgetTaken ((triageGraph deps).visit .executeTool s a) =
      (answeredCalls ((triageGraph deps).visit .executeTool s a)).length := by
  obtain ⟨⟨after, hafter, hseen | ⟨-, -, hpaid⟩⟩, -⟩ := execute_step deps h a
  · rw [sawFlag, hseen.1] at hflag
    cases hflag
  · rw [budgetTaken, hafter, length_answeredCalls]
    show _ - after.toolBudget = _
    rw [hpaid]
    omega

/-- What a visit charges, by the rule of its node. -/
def charged (deps : PipelineDeps) (v : NodeVisit) : ℤ :=
  match v.node with
  | .burstEnrichment =>
      min v.before.toolBudget ((answeredCalls v).countP (returned deps))
  | .executeTool => (answeredCalls v).length
  | _ => 0

/-- The budget that the run has left for the burst and the loop. -/
def budgetLeft (alert : NormalizedAlert) : Position Node TriageState → ℤ
  | .ready .normalise _ => getBudget alert.severity.value
  | .ready .extractEntities _ => getBudget alert.severity.value
  | .ready .routeTools _ => getBudget alert.severity.value
  | .ready _ s => s.toolBudget
  | .ended s => s.toolBudget
  | .raised _ _ => getBudget alert.severity.value

theorem budgetLeft_shouldContinue (s : TriageState) :
    budgetLeft alert (.ready (shouldContinueReact s) s) = s.toolBudget := by
  unfold shouldContinueReact
  split
  · rfl
  split
  · rfl
  split
  · rfl
  · rfl

theorem budgetLeft_afterExecute (s : TriageState) :
    budgetLeft alert (.ready (afterExecuteTool s) s) = s.toolBudget := by
  unfold afterExecuteTool
  split
  · rfl
  · rfl

/-- Nothing cut the budget off: the node saw no flag, and the models answered. -/
def Undisturbed (deps : PipelineDeps) (v : NodeVisit) : Prop :=
  sawFlag v = false ∧ ThinkAnswered deps v

/-- **An undisturbed step** takes from the budget what its node charges. -/
theorem charged_step {n : Node} {s : TriageState} {a : NodeAnswers}
    (h : Sound alert (.ready n s))
    (hlive : Undisturbed deps ((triageGraph deps).visit n s a)) :
    charged deps ((triageGraph deps).visit n s a) +
        budgetLeft alert ((triageGraph deps).step (.ready n s) a) =
      budgetLeft alert (.ready n s) := by
  cases n with
  | normalise => exact zero_add _
  | extractEntities =>
      show 0 + _ = _
      rw [zero_add]
      show budgetLeft alert ((triageGraph deps).leave _ _ (extractEntitiesNode deps a s).2) = _
      rcases extractEntitiesNode_cases deps a s with hn | ⟨entities, hn⟩
      · rw [hn]
        rfl
      · rw [hn]
        rfl
  | routeTools =>
      show 0 + getBudget s.severity = _
      rw [zero_add, h.1.severity]
      rfl
  | burstEnrichment =>
      -- the burst may ask for more than is left, and takes what there is
      have hcharge := @budgetTaken_burst deps _ _ h a
      obtain ⟨compressed, hn⟩ := burstEnrichmentNode_spec deps a s
      have hafter : ((triageGraph deps).visit .burstEnrichment s a).after =
          some (afterBurst deps a s compressed) := congrArg Prod.snd hn
      have hstep : (triageGraph deps).step (.ready .burstEnrichment s) a =
          .ready .agentThink (afterBurst deps a s compressed) := by
        show (triageGraph deps).leave _ _ (burstEnrichmentNode deps a s).2 = _
        rw [hn]
        rfl
      rw [budgetTaken, hafter] at hcharge
      rw [hstep]
      show min s.toolBudget _ + (afterBurst deps a s compressed).toolBudget = s.toolBudget
      rw [← hcharge]
      show s.toolBudget - _ + _ = _
      omega
  | agentThink =>
      show 0 + _ = _
      rw [zero_add]
      obtain ⟨hflag, hanswered⟩ := hlive
      have hasked := hanswered rfl
      rcases agentThinkNode_cases h.1.validSeverity deps a with ⟨-, hn⟩ | ⟨-, hn⟩
      · -- a raised flag would have been seen
        have heffects : ((triageGraph deps).visit .agentThink s a).effects =
            [.flagRead true] := congrArg Prod.fst hn
        rw [sawFlag, heffects] at hflag
        cases hflag
      · obtain ⟨response, hresponse⟩ := Option.isSome_iff_exists.mp hasked
        show budgetLeft alert ((triageGraph deps).leave _ _ (agentThinkNode deps a s).2) = _
        rw [hn]
        show budgetLeft alert (.ready (shouldContinueReact _) _) = _
        rw [budgetLeft_shouldContinue]
        show (afterThink a s (askModels deps a.thinkOllama a.thinkOpenai).2).toolBudget = _
        rw [show (askModels deps a.thinkOllama a.thinkOpenai).2 = some response from hresponse]
        rfl
  | executeTool =>
      have hcharge := budgetTaken_execute h hlive.1
      obtain ⟨⟨after, hafter, -⟩, -⟩ := execute_step deps h a
      rw [budgetTaken, hafter] at hcharge
      show ((answeredCalls _).length : ℤ) +
        budgetLeft alert ((triageGraph deps).leave .executeTool s _) = _
      rw [← hcharge,
        show ((triageGraph deps).exec .executeTool a s).2 = some after from hafter]
      show s.toolBudget - after.toolBudget +
        budgetLeft alert (.ready (afterExecuteTool after) after) = s.toolBudget
      rw [budgetLeft_afterExecute]
      omega
  | generateVerdict =>
      show 0 + _ = _
      rw [zero_add]
      show budgetLeft alert ((triageGraph deps).leave _ _ (generateVerdictNode deps a s).2) = _
      rcases generateVerdictNode_cases deps a s with
        ⟨-, hn⟩ | ⟨-, verdict, -, hn⟩ | ⟨-, -, hn⟩
      · rw [hn]
        rfl
      · rw [hn]
        rfl
      · simp only [hn, fallbackVerdict, h.1.validSeverity]
        rfl

theorem charged_idle {v : NodeVisit} (hburst : v.node ≠ .burstEnrichment)
    (hexecute : v.node ≠ .executeTool) : charged deps v = 0 := by
  unfold charged
  split
  · exact absurd ‹_› hburst
  · exact absurd ‹_› hexecute
  · rfl

/-- What the rules say is what the nodes do, and no other node asks a source. -/
structure ChargesByRule (deps : PipelineDeps) (asks : String → Params → Bool)
    (v : NodeVisit) : Prop where
  lowers : v.node = .burstEnrichment ∨ v.node = .executeTool → budgetTaken v = charged deps v
  idle : v.node ≠ .burstEnrichment → v.node ≠ .executeTool → sourceCalls asks v = 0

theorem chargesByRule {n : Node} {s : TriageState} {a : NodeAnswers}
    (h : Sound alert (.ready n s))
    (hlive : Undisturbed deps ((triageGraph deps).visit n s a)) :
    ChargesByRule deps asks ((triageGraph deps).visit n s a) := by
  constructor
  · rintro (hn | hn)
    · obtain rfl : n = .burstEnrichment := hn
      exact budgetTaken_burst h a
    · obtain rfl : n = .executeTool := hn
      exact budgetTaken_execute h hlive.1
  · intro hburst hexecute
    apply sourceCalls_of_idle
    cases n with
    | normalise => rfl
    | extractEntities => exact countP_extractEntities deps a s.alert
    | routeTools => rfl
    | burstEnrichment => exact absurd rfl hburst
    | agentThink =>
        obtain ⟨-, -, -, hidle⟩ := think_step deps h a
        exact hidle
    | executeTool => exact absurd rfl hexecute
    | generateVerdict =>
        obtain ⟨-, -, hidle⟩ := verdict_step deps h a
        exact hidle

/-! ## §3  The budget of a run -/

theorem paidCalls_le (deps : PipelineDeps) (asks : String → Params → Bool) (v : NodeVisit) : paidCalls deps asks v ≤ sourceCalls asks v := by
  apply List.countP_mono_left
  intro p _ hp
  exact (Bool.and_eq_true_iff.mp hp).2

/-- All that is counted by `q` is counted by both just where `q` gives the other. -/
theorem countP_and_eq {α : Type} (q r : α → Bool) (xs : List α) :
    (xs.countP fun x => r x && q x) = xs.countP q ↔ ∀ x ∈ xs, q x = true → r x = true := by
  induction xs with
  | nil => simp
  | cons x xs ih =>
      have hle : (xs.countP fun x => r x && q x) ≤ xs.countP q :=
        List.countP_mono_left fun y _ hy => (Bool.and_eq_true_iff.mp hy).2
      rw [List.forall_mem_cons, ← ih, List.countP_cons, List.countP_cons]
      cases q x <;> cases r x <;> simp
      omega

/-- The sources pay for a visit where it charges what they were asked for, and no more than
what it counts of that. -/
theorem sourcesPay_iff {v : NodeVisit} (h : ChargesByRule deps asks v) :
    SourcesPay deps asks v ↔
      charged deps v = sourceCalls asks v ∧ charged deps v ≤ paidCalls deps asks v := by
  have hpaid := paidCalls_le deps asks v
  by_cases hburst : v.node = .burstEnrichment
  · have hcounted : paidCalls deps asks v =
        (answeredCalls v).countP fun p => returned deps p && asksSource asks p := by
      simp [paidCalls, counted, hburst]
    have hall := countP_and_eq (asksSource asks) (returned deps) (answeredCalls v)
    rw [← hcounted] at hall
    simp only [SourcesPay, charged, hburst, reduceCtorEq, false_implies, true_and,
      true_implies]
    rw [← hall]
    show paidCalls deps asks v = sourceCalls asks v ∧ _ ↔ _
    constructor
    · rintro ⟨heq, hmin⟩
      exact ⟨hmin, by omega⟩
    · rintro ⟨hmin, hle⟩
      exact ⟨by omega, hmin⟩
  by_cases hexecute : v.node = .executeTool
  · have hcounted : paidCalls deps asks v = sourceCalls asks v := by
      have hother : (Node.executeTool != Node.burstEnrichment) = true := by decide
      simp [paidCalls, counted, hexecute, sourceCalls, hother]
    have hall := List.countP_eq_length (p := asksSource asks) (l := answeredCalls v)
    simp only [SourcesPay, charged, hexecute, reduceCtorEq, false_implies, and_true,
      true_implies]
    rw [← hall, hcounted]
    show sourceCalls asks v = _ ↔ _
    omega
  · have hnone := h.idle hburst hexecute
    have hzero : charged deps v = 0 := charged_idle hburst hexecute
    simp [SourcesPay, hburst, hexecute, hnone, hzero]

/-- An undisturbed run that comes to the verdict has left what its visits have not charged. -/
theorem budget_at_verdict {thread : TriageThread} {call : TriageCall} {s : TriageState}
    (hend : call.finish deps alert thread = .ready .generateVerdict s)
    (hlive : ∀ v ∈ call.trace deps alert thread, Undisturbed deps v) :
    ((call.trace deps alert thread).map (charged deps)).sum + s.toolBudget =
      getBudget alert.severity.value := by
  have hbalance := StateGraph.balance (G := triageGraph deps) (I := Sound alert)
    (charged deps) (budgetLeft alert)
    (fun _ _ a hs hv => ⟨sound_step deps a hs, charged_step hs hv⟩)
    (sound_start deps alert thread call) call.answers hlive
  rw [show (triageGraph deps).drive _ _ = _ from hend] at hbalance
  exact hbalance

/-- **Cache hits and the budget.** In a run to the verdict that was not cancelled and whose
think steps the models answered, the budget left is the initial one without the calls that
asked a source, and no cached call was charged, just where the sources pay for every visit:
no call of a batch is answered by the cache or refused, and the burst returns as much, up to
the budget, as it asked. -/
theorem cache_budget_iff {deps : PipelineDeps} {alert : NormalizedAlert}
    (asks : String → Params → Bool) {thread : TriageThread} {call : TriageCall}
    {s : TriageState}
    (hend : call.finish deps alert thread = .ready .generateVerdict s) (hlive : ¬ Marked s)
    (hasked : ∀ v ∈ call.trace deps alert thread, ThinkAnswered deps v) :
    KeepsBudget deps asks alert (call.trace deps alert thread) s ↔
      ∀ v ∈ call.trace deps alert thread, SourcesPay deps asks v := by
  have hundisturbed : ∀ v ∈ call.trace deps alert thread, Undisturbed deps v := by
    have hmarked := marked_drive deps (sound_start deps alert thread call) call.answers
    rw [show (triageGraph deps).drive _ _ = _ from hend] at hmarked
    intro v hv
    refine ⟨Bool.eq_false_iff.mpr fun hsaw => hlive ?_, hasked v hv⟩
    exact hmarked.mpr (.inr (List.any_eq_true.mpr ⟨v, hv, hsaw⟩))
  have hrule : ∀ v ∈ call.trace deps alert thread, ChargesByRule deps asks v := by
    refine StateGraph.visits_assume (G := triageGraph deps) (I := Sound alert) ?_ ?_
      (sound_start deps alert thread call) call.answers hundisturbed
    · intro n s a hs _
      exact sound_step deps a hs
    · intro n s a hs hv
      exact chargesByRule hs hv
  have hbudget := budget_at_verdict hend hundisturbed
  generalize call.trace deps alert thread = trace at hrule hbudget ⊢
  have hcast : ((trace.map (sourceCalls asks)).sum : ℤ) =
      (trace.map fun v => (sourceCalls asks v : ℤ)).sum := by
    rw [Nat.cast_list_sum, List.map_map]
    rfl
  constructor
  · rintro ⟨hleft, huncharged⟩
    have hpaid : ∀ v ∈ trace, charged deps v ≤ paidCalls deps asks v := by
      intro v hv
      by_cases hnode : v.node = .burstEnrichment ∨ v.node = .executeTool
      · rw [← (hrule v hv).lowers hnode]
        exact huncharged v hv hnode
      · rw [not_or] at hnode
        have hzero : charged deps v = 0 := charged_idle hnode.1 hnode.2
        omega
    have hle : ∀ v ∈ trace, charged deps v ≤ sourceCalls asks v := by
      intro v hv
      have := paidCalls_le deps asks v
      have := hpaid v hv
      omega
    intro v hv
    refine (sourcesPay_iff (hrule v hv)).mpr ⟨le_antisymm (hle v hv) ?_, hpaid v hv⟩
    -- a visit charged too little is made up for by no other
    by_contra hlt
    have hsum := List.sum_lt_sum (charged deps) (fun v => (sourceCalls asks v : ℤ)) hle
      ⟨v, hv, not_le.mp hlt⟩
    omega
  · intro hpay
    have hfacts := fun v hv => (sourcesPay_iff (hrule v hv)).mp (hpay v hv)
    constructor
    · have hsame : trace.map (charged deps) = trace.map fun v => (sourceCalls asks v : ℤ) :=
        List.map_congr_left fun v hv => (hfacts v hv).1
      rw [hsame] at hbudget
      omega
    · intro v hv hnode
      rw [(hrule v hv).lowers hnode]
      exact (hfacts v hv).2

/-- The models are content with what they see. -/
def contentAnswers (tools : ℕ → ToolAnswer) : NodeAnswers :=
  { silentAnswers with thinkOllama := .answer ⟨false, [], "enough"⟩, tools }

/-- A run up to the verdict, its tools answered so. -/
def contentCall (tools : ℕ → ToolAnswer) : TriageCall :=
  freshCall (List.replicate 5 (contentAnswers tools))

/-- No tool has anything in the cache. -/
def freshTools (_ : ℕ) : ToolAnswer := ⟨none, .result [("verdict", .str "clean")]⟩

/-- The cache has an answer for every call. -/
def cachedTools (_ : ℕ) : ToolAnswer := ⟨some (.obj [("verdict", .str "clean")]), .timeout⟩

theorem fresh_run_keeps_budget :
    KeepsBudget plainPipeline (fun _ _ => true) sampleAlert
      ((contentCall freshTools).trace plainPipeline sampleAlert none)
      ((contentCall freshTools).finish plainPipeline sampleAlert none).state :=
  (cache_budget_iff (fun _ _ => true) rfl (by decide +kernel) (by decide +kernel)).mpr
    (by decide +kernel)

theorem cached_calls_charged :
    ¬ ∀ (deps : PipelineDeps) (alert : NormalizedAlert) (thread : TriageThread)
      (call : TriageCall) (s : TriageState),
      call.finish deps alert thread = .ready .generateVerdict s → ¬ Marked s →
      (∀ v ∈ call.trace deps alert thread, ThinkAnswered deps v) →
      KeepsBudget deps (fun _ _ => true) alert (call.trace deps alert thread) s := by
  intro h
  have hkeeps := h plainPipeline sampleAlert none (contentCall cachedTools)
    ((contentCall cachedTools).finish plainPipeline sampleAlert none).state rfl
    (by decide +kernel) (by decide +kernel)
  exact absurd hkeeps.left (by decide +kernel)

end AlertTriage
