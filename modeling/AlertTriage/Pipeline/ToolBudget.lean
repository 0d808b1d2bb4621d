import AlertTriage.Pipeline.RunTriage

/-!
# The tool budget

The budget bounds the think/execute loop: it is never negative, every batch
pays for itself, and the loop comes to the verdict within as many batches as
the budget has left (`react_loop_measure`). It does not bound the burst, which
runs every routed tool: a whole run stays within the budget of its severity
just when the burst does and none of its executions goes unrecorded
(`budget_kept_iff`).
-/

namespace AlertTriage

open Library

variable (deps : PipelineDeps) {alert : NormalizedAlert}

/-! ## §1  Counting executions -/

def Effect.isToolCall : Effect → Bool
  | .toolCall _ _ => true
  | _ => false

/-- The tool executions of a visit. -/
def executions (v : NodeVisit) : ℕ := v.effects.countP Effect.isToolCall

def totalExecutions (vs : List NodeVisit) : ℕ := (vs.map executions).sum

theorem countP_toolCalls {α : Type} (f : α → String × Params) (xs : List α) :
    (xs.map fun x => Effect.toolCall (f x).1 (f x).2).countP
      Effect.isToolCall = xs.length := by
  induction xs with
  | nil => rfl
  | cons x xs ih =>
      rw [List.map_cons, List.countP_cons, ih]
      rfl

/-- Asking the models executes no tool. -/
theorem countP_askModels {α : Type} (deps : PipelineDeps)
    (ollama openai : ModelReply α) :
    (askModels deps ollama openai).1.countP Effect.isToolCall = 0 := by
  unfold askModels
  cases deps.hasOllama <;> cases deps.hasOpenai <;> cases ollama <;> rfl

theorem countP_extractEntities (deps : PipelineDeps) (a : NodeAnswers)
    (alert : NormalizedAlert) :
    (extractEntities deps a alert).1.countP Effect.isToolCall = 0 := by
  unfold extractEntities extractEntitiesLlm
  cases deps.hasOllama
  · rfl
  · cases deps.hasOpenai <;> cases a.extractOllama <;> rfl

/-! ## §2  The loop -/

/-- The run is past the burst and has not been cut off by a node. -/
def InLoop : Position Node TriageState → Prop
  | .ready n _ => n = .agentThink ∨ n = .executeTool ∨ n = .generateVerdict
  | .ended _ => True
  | .raised _ _ => False

theorem inLoop_shouldContinue (s : TriageState) :
    InLoop (.ready (shouldContinueReact s) s) := by
  unfold shouldContinueReact
  split
  · exact .inr (.inr rfl)
  · split
    · exact .inr (.inr rfl)
    · split
      · exact .inr (.inr rfl)
      · exact .inr (.inl rfl)

theorem inLoop_afterExecute (s : TriageState) :
    InLoop (.ready (afterExecuteTool s) s) := by
  unfold afterExecuteTool
  split
  · exact .inr (.inr rfl)
  · exact .inl rfl

/-- What the loop can still spend. -/
def loopBudget : Position Node TriageState → ℕ
  | .ready .agentThink s => s.toolBudget.toNat
  | .ready .executeTool s => s.toolBudget.toNat
  | _ => 0

theorem loopBudget_ready_le (n : Node) (s : TriageState) :
    loopBudget (.ready n s) ≤ s.toolBudget.toNat := by
  cases n <;> simp [loopBudget]

/-- A think step spends nothing: it goes on to a batch or to the verdict, with
the budget it found or none. -/
theorem think_step {s : TriageState} (h : Sound alert (.ready .agentThink s))
    (a : NodeAnswers) :
    ∃ s', (triageGraph deps).step (.ready .agentThink s) a =
        .ready (shouldContinueReact s') s' ∧
      (s'.toolBudget = s.toolBudget ∨ s'.toolBudget = 0) ∧
      executions ((triageGraph deps).visit .agentThink s a) = 0 := by
  unfold StateGraph.step triageGraph StateGraph.visit executions
  rcases agentThinkNode_cases h.1.validSeverity deps a with ⟨-, hn⟩ | ⟨-, hn⟩
  · simp only [runNode, hn]
    exact ⟨_, rfl, .inr rfl, rfl⟩
  · simp only [runNode, hn]
    refine ⟨_, rfl, ?_, ?_⟩
    · cases (askModels deps a.thinkOllama a.thinkOpenai).2 with
      | none => exact .inr rfl
      | some response => exact .inl rfl
    · rw [List.countP_cons, countP_askModels]
      rfl

/-- What `execute_tool_node` does to the budget: it sees the cancel flag and
executes nothing, or executes a batch that the budget covers and pays for it. -/
def Spends (v : NodeVisit) : Prop :=
  ∃ after, v.after = some after ∧
    ((v.effects = [.flagRead true] ∧ after.toolBudget = 0) ∨
      (1 ≤ executions v ∧ (executions v : ℤ) ≤ v.before.toolBudget ∧
        after.toolBudget = v.before.toolBudget - executions v))

theorem execute_step {s : TriageState} (h : Sound alert (.ready .executeTool s))
    (a : NodeAnswers) :
    Spends ((triageGraph deps).visit .executeTool s a) ∧
      ∃ s', (triageGraph deps).step (.ready .executeTool s) a =
          .ready (afterExecuteTool s') s' ∧
        executions ((triageGraph deps).visit .executeTool s a) +
            s'.toolBudget.toNat ≤ s.toolBudget.toNat ∧
        1 + s'.toolBudget.toNat ≤ s.toolBudget.toNat := by
  obtain ⟨hs, hne, hfits⟩ := h
  have hlen : 1 ≤ (lastToolCalls s).length := List.length_pos_iff.mpr hne
  unfold Spends StateGraph.step triageGraph StateGraph.visit executions
  rcases executeToolNode_cases deps a s with
    ⟨-, hn⟩ | ⟨-, hnil, -⟩ | ⟨-, -, data, records, hn⟩
  · simp only [runNode, hn]
    refine ⟨⟨_, rfl, .inl ⟨trivial, rfl⟩⟩, _, rfl, ?_, ?_⟩
    · simp [Effect.isToolCall]
    · simp only [Int.toNat_zero]
      omega
  · exact absurd hnil hne
  · have hcount : (Effect.flagRead false ::
        (lastToolCalls s).map fun call : ToolCall =>
          .toolCall call.name call.args).countP Effect.isToolCall =
        (lastToolCalls s).length := by
      rw [List.countP_cons,
        countP_toolCalls fun call : ToolCall => (call.name, call.args)]
      rfl
    simp only [runNode, hn, hcount]
    refine ⟨⟨_, rfl, .inr ⟨hlen, hfits, rfl⟩⟩, _, rfl, ?_, ?_⟩
    · simp only [afterBatch]
      omega
    · simp only [afterBatch]
      omega

/-- The verdict ends the run and executes no tool. -/
theorem verdict_step {s : TriageState}
    (h : Sound alert (.ready .generateVerdict s)) (a : NodeAnswers) :
    ∃ s', (triageGraph deps).step (.ready .generateVerdict s) a = .ended s' ∧
      executions ((triageGraph deps).visit .generateVerdict s a) = 0 := by
  unfold StateGraph.step triageGraph StateGraph.visit executions
  rcases generateVerdictNode_cases deps a s with
    ⟨-, hn⟩ | ⟨-, verdict, -, hn⟩ | ⟨-, -, hn⟩
  · simp only [runNode, hn]
    exact ⟨_, rfl, rfl⟩
  · simp only [runNode, hn]
    exact ⟨_, rfl, countP_askModels deps _ _⟩
  · simp only [runNode, hn, fallbackVerdict, h.1.validSeverity]
    exact ⟨_, rfl, countP_askModels deps _ _⟩

/-- The loop goes on with the invariant, and what it can still spend pays both
for the executions of a step and for the visit of `execute_tool_node`. -/
theorem loop_step {n : Node} {s : TriageState} (a : NodeAnswers)
    (h : Sound alert (.ready n s) ∧ InLoop (.ready n s)) :
    (Sound alert ((triageGraph deps).step (.ready n s) a) ∧
        InLoop ((triageGraph deps).step (.ready n s) a)) ∧
      executions ((triageGraph deps).visit n s a) +
          loopBudget ((triageGraph deps).step (.ready n s) a) ≤
        loopBudget (.ready n s) ∧
      (if n = .executeTool then 1 else 0) +
          loopBudget ((triageGraph deps).step (.ready n s) a) ≤
        loopBudget (.ready n s) := by
  obtain ⟨hs, hl⟩ := h
  refine ⟨⟨sound_step deps a hs, ?_⟩, ?_⟩
  · rcases hl with rfl | rfl | rfl
    · obtain ⟨s', hstep, -⟩ := think_step deps hs a
      rw [hstep]
      exact inLoop_shouldContinue s'
    · obtain ⟨-, s', hstep, -⟩ := execute_step deps hs a
      rw [hstep]
      exact inLoop_afterExecute s'
    · obtain ⟨s', hstep, -⟩ := verdict_step deps hs a
      rw [hstep]
      trivial
  · rcases hl with rfl | rfl | rfl
    · obtain ⟨s', hstep, hb, hx⟩ := think_step deps hs a
      have hle := loopBudget_ready_le (shouldContinueReact s') s'
      have hs0 : loopBudget (.ready .agentThink s) = s.toolBudget.toNat := rfl
      rw [hstep, hx, hs0, if_neg (by decide)]
      omega
    · obtain ⟨-, s', hstep, hx, h1⟩ := execute_step deps hs a
      have hle := loopBudget_ready_le (afterExecuteTool s') s'
      have hs0 : loopBudget (.ready .executeTool s) = s.toolBudget.toNat := rfl
      rw [hstep, hs0, if_pos rfl]
      omega
    · obtain ⟨s', hstep, hx⟩ := verdict_step deps hs a
      rw [hstep, hx, if_neg (by decide)]
      exact ⟨le_rfl, le_rfl⟩

/-- The executions of the loop are paid for by the budget it starts with. -/
theorem loop_executions_le {s : TriageState}
    (h : Sound alert (.ready .agentThink s)) (answers : List NodeAnswers) :
    totalExecutions ((triageGraph deps).visits (.ready .agentThink s) answers) ≤
      s.toolBudget.toNat := by
  apply StateGraph.cost_le (G := triageGraph deps)
    (I := fun p => Sound alert p ∧ InLoop p) executions loopBudget
  · intro n s a hp
    exact ⟨(loop_step deps a hp).1, (loop_step deps a hp).2.1⟩
  · exact ⟨h, .inl rfl⟩

/-- The loop visits `execute_tool_node` at most as often as the budget it
starts with says. -/
theorem loop_batches_le {s : TriageState}
    (h : Sound alert (.ready .agentThink s)) (answers : List NodeAnswers) :
    ((triageGraph deps).visits (.ready .agentThink s) answers).countP
        (fun v => v.node == .executeTool) ≤ s.toolBudget.toNat := by
  have hsum := StateGraph.cost_le (G := triageGraph deps)
    (I := fun p => Sound alert p ∧ InLoop p)
    (fun v => if v.node = .executeTool then 1 else 0) loopBudget
    (fun _ _ a hp => ⟨(loop_step deps a hp).1, (loop_step deps a hp).2.2⟩)
    ⟨h, .inl rfl⟩ answers
  refine le_trans (le_of_eq ?_) hsum
  rw [List.countP_eq_length_filter]
  induction (triageGraph deps).visits (.ready .agentThink s) answers with
  | nil => rfl
  | cons v vs ih =>
      rw [List.map_cons, List.sum_cons, ← ih]
      by_cases hv : v.node = .executeTool
      · simp [hv, Nat.add_comm]
      · simp [hv]

/-- How many steps the loop can still take before the verdict. -/
def stepsLeft : Position Node TriageState → ℕ
  | .ready .agentThink s => 2 * s.toolBudget.toNat + 1
  | .ready .executeTool s => 2 * s.toolBudget.toNat
  | _ => 0

def AtVerdict : Position Node TriageState → Prop
  | .ready n _ => n = .generateVerdict
  | _ => False

theorem stepsLeft_shouldContinue (s : TriageState) :
    stepsLeft (.ready (shouldContinueReact s) s) ≤ 2 * s.toolBudget.toNat := by
  unfold shouldContinueReact
  split
  · exact Nat.zero_le _
  · split
    · exact Nat.zero_le _
    · split
      · exact Nat.zero_le _
      · exact le_rfl

theorem stepsLeft_afterExecute (s : TriageState) :
    stepsLeft (.ready (afterExecuteTool s) s) ≤ 2 * s.toolBudget.toNat + 1 := by
  unfold afterExecuteTool
  split
  · exact Nat.zero_le _
  · exact le_rfl

/-- Whatever the loop is answered, it comes to the verdict. -/
theorem loop_reaches_verdict {s : TriageState}
    (h : Sound alert (.ready .agentThink s)) (answers : ℕ → NodeAnswers) :
    ∃ k, AtVerdict ((triageGraph deps).drive (.ready .agentThink s)
      ((List.range k).map answers)) := by
  have hstep : ∀ p a,
      (Sound alert p ∧ InLoop p ∧ ∃ n s, p = .ready n s) → ¬ AtVerdict p →
      (Sound alert ((triageGraph deps).step p a) ∧
        InLoop ((triageGraph deps).step p a) ∧
        ∃ n s, (triageGraph deps).step p a = .ready n s) ∧
      stepsLeft ((triageGraph deps).step p a) < stepsLeft p := by
    rintro p a ⟨hs, hl, n, s, rfl⟩ hnot
    have hkeep := sound_step deps a hs
    rcases hl with rfl | rfl | rfl
    · obtain ⟨s', hstep, hb, -⟩ := think_step deps hs a
      have hsteps := stepsLeft_shouldContinue s'
      have hs0 : stepsLeft (.ready .agentThink s) =
        2 * s.toolBudget.toNat + 1 := rfl
      rw [hstep] at hkeep ⊢
      exact ⟨⟨hkeep, inLoop_shouldContinue s', _, _, rfl⟩, by omega⟩
    · obtain ⟨-, s', hstep, -, hb⟩ := execute_step deps hs a
      have hsteps := stepsLeft_afterExecute s'
      have hs0 : stepsLeft (.ready .executeTool s) =
        2 * s.toolBudget.toNat := rfl
      rw [hstep] at hkeep ⊢
      exact ⟨⟨hkeep, inLoop_afterExecute s', _, _, rfl⟩, by omega⟩
    · exact absurd rfl hnot
  obtain ⟨k, -, hk⟩ := StateGraph.reaches (T := AtVerdict) stepsLeft hstep
    ⟨h, .inl rfl, _, _, rfl⟩ answers
  exact ⟨k, hk⟩

/-- The state is one in which the burst ends in some run on the alert. -/
def BurstEnds (deps : PipelineDeps) (alert : NormalizedAlert)
    (s : TriageState) : Prop :=
  ∃ (thread : TriageThread) (call : TriageCall) (before : TriageState)
    (a : NodeAnswers),
    call.finish deps alert thread = .ready .burstEnrichment before ∧
      (burstEnrichmentNode deps a before).2 = some s

theorem BurstEnds.sound {deps : PipelineDeps} {s : TriageState}
    (h : BurstEnds deps alert s) :
    Sound alert (.ready .agentThink s) := by
  obtain ⟨thread, call, before, a, hp, hn⟩ := h
  have hs := sound_finish deps alert thread call
  rw [hp] at hs
  have hstep := sound_step deps a hs
  simp only [StateGraph.step, triageGraph, runNode, hn] at hstep
  exact hstep

/-- **The loop's measure.** From any state in which the burst ends, under any
answers: the budget is never negative; every visit of `execute_tool_node` sees
the cancel flag or executes and pays for a batch that the budget covers; and
the run comes to `generate_verdict` within as many such visits as the budget
has left. -/
theorem react_loop_measure {deps : PipelineDeps} {s : TriageState}
    (h : BurstEnds deps alert s)
    (answers : ℕ → NodeAnswers) :
    (∀ k, 0 ≤ ((triageGraph deps).drive (.ready .agentThink s)
        ((List.range k).map answers)).state.toolBudget) ∧
      (∀ k, ∀ v ∈ (triageGraph deps).visits (.ready .agentThink s)
        ((List.range k).map answers), v.node = .executeTool → Spends v) ∧
      ∃ k s', (triageGraph deps).drive (.ready .agentThink s)
          ((List.range k).map answers) = .ready .generateVerdict s' ∧
        ((triageGraph deps).visits (.ready .agentThink s)
          ((List.range k).map answers)).countP
            (fun v => v.node == .executeTool) ≤ s.toolBudget.toNat := by
  have hs := h.sound
  refine ⟨fun k => ?_, fun k => ?_, ?_⟩
  · have hk : Sound alert ((triageGraph deps).drive (.ready .agentThink s)
        ((List.range k).map answers)) ∧ InLoop ((triageGraph deps).drive
          (.ready .agentThink s) ((List.range k).map answers)) :=
      StateGraph.drive_invariant (I := fun p => Sound alert p ∧ InLoop p)
        (fun _ _ a hp => (loop_step deps a hp).1) ⟨hs, .inl rfl⟩ _
    revert hk
    cases (triageGraph deps).drive (.ready .agentThink s)
        ((List.range k).map answers) with
    | ready n s' =>
        rintro ⟨⟨-, he⟩, rfl | rfl | rfl⟩
        · exact he
        · exact (Nat.cast_nonneg _).trans he.2
        · exact he
    | ended s' => exact fun hk => hk.1.2.1
    | raised n s' => exact fun hk => hk.2.elim
  · refine StateGraph.visits_invariant (I := fun p => Sound alert p ∧ InLoop p)
      (fun _ _ a hp => (loop_step deps a hp).1) ?_ ⟨hs, .inl rfl⟩ _
    rintro n s a ⟨hp, -⟩ hn
    obtain rfl : n = .executeTool := hn
    exact (execute_step deps hp a).1
  · -- each batch takes at least one from a budget that stays non-negative
    obtain ⟨k, hk⟩ := loop_reaches_verdict deps hs answers
    cases hp : (triageGraph deps).drive (.ready .agentThink s)
        ((List.range k).map answers) with
    | ready n s' =>
        rw [hp] at hk
        obtain rfl : n = .generateVerdict := hk
        exact ⟨k, s', hp, loop_batches_le deps hs _⟩
    | ended s' => exact absurd hk (by simp [hp, AtVerdict])
    | raised n s' => exact absurd hk (by simp [hp, AtVerdict])

theorem silent_loop_measure :
    ∃ s, BurstEnds plainPipeline sampleAlert s ∧
      (∀ k, 0 ≤ ((triageGraph plainPipeline).drive (.ready .agentThink s)
        ((List.range k).map fun _ => silentAnswers)).state.toolBudget) := by
  obtain ⟨compressed, hc⟩ := burstEnrichmentNode_spec plainPipeline
    silentAnswers ((freshCall (List.replicate 3 silentAnswers)).finish
      plainPipeline sampleAlert none).state
  have hb : BurstEnds plainPipeline sampleAlert _ :=
    ⟨none, freshCall (List.replicate 3 silentAnswers), _, silentAnswers, rfl,
      congrArg Prod.snd hc⟩
  exact ⟨_, hb, (react_loop_measure hb fun _ => silentAnswers).1⟩

/-! ## §3  The burst -/

/-- Before the burst no tool is executed: the first three nodes lead to the
burst, with the budget of the severity, or the extraction raises. -/
theorem before_burst (alert : NormalizedAlert) (thread : TriageThread)
    (call : TriageCall) (e0 e1 e2 : NodeAnswers) :
    totalExecutions ((triageGraph deps).visits (call.start deps alert thread).2
        [e0, e1, e2]) = 0 ∧
      ((∃ s, (triageGraph deps).drive (call.start deps alert thread).2
          [e0, e1, e2] = .ready .burstEnrichment s ∧
        Sound alert (.ready .burstEnrichment s)) ∨
      ∃ s, (triageGraph deps).drive (call.start deps alert thread).2
          [e0, e1, e2] = .raised .extractEntities s) := by
  have hs := sound_drive deps (sound_start deps alert thread call) [e0, e1, e2]
  obtain ⟨s₀, h₀⟩ : ∃ s₀, (call.start deps alert thread).2 =
      .ready .normalise s₀ := ⟨_, rfl⟩
  rw [h₀] at hs ⊢
  have hstart : (triageGraph deps).step (.ready .normalise s₀) e0 =
      .ready .extractEntities (normaliseAlertNode s₀) := rfl
  have hx : executions ((triageGraph deps).visit .extractEntities
      (normaliseAlertNode s₀) e1) = 0 := countP_extractEntities deps e1 _
  rw [StateGraph.visits_ready, hstart, StateGraph.visits_ready]
  rw [StateGraph.drive_cons, hstart, StateGraph.drive_cons] at hs ⊢
  -- the extraction is the one node before the burst that can raise
  rcases extractEntitiesNode_cases deps e1 (normaliseAlertNode s₀) with
    hn | ⟨entities, hn⟩
  · have hstep : (triageGraph deps).step
        (.ready .extractEntities (normaliseAlertNode s₀)) e1 =
        .raised .extractEntities (normaliseAlertNode s₀) := by
      simp only [StateGraph.step, triageGraph, runNode, hn]
      rfl
    rw [hstep]
    refine ⟨?_, .inr ⟨_, StateGraph.drive_raised _ _ _⟩⟩
    rw [StateGraph.visits_raised]
    have h0 : executions ((triageGraph deps).visit .normalise s₀ e0) = 0 := rfl
    simp [totalExecutions, h0, hx]
  · obtain ⟨s₂, hstep⟩ : ∃ s₂, (triageGraph deps).step
        (.ready .extractEntities (normaliseAlertNode s₀)) e1 =
        .ready .routeTools s₂ := by
      simp only [StateGraph.step, triageGraph, runNode, hn]
      exact ⟨_, rfl⟩
    rw [hstep] at hs ⊢
    refine ⟨?_, .inl ⟨_, rfl, hs⟩⟩
    have h0 : executions ((triageGraph deps).visit .normalise s₀ e0) = 0 := rfl
    have h2 : executions ((triageGraph deps).visit .routeTools s₂ e2) = 0 := rfl
    simp [totalExecutions, h0, hx, h2]

/-- The burst executes its calls and goes on to the loop. -/
theorem burst_step (s : TriageState) (a : NodeAnswers) :
    ∃ compressed, (triageGraph deps).step (.ready .burstEnrichment s) a =
        .ready .agentThink (afterBurst deps a s compressed) ∧
      executions ((triageGraph deps).visit .burstEnrichment s a) =
        (s.burstCalls deps).length := by
  obtain ⟨compressed, hn⟩ := burstEnrichmentNode_spec deps a s
  refine ⟨compressed, ?_, ?_⟩
  · simp only [StateGraph.step, triageGraph, runNode, hn]
    rfl
  · simp only [StateGraph.visit, triageGraph, runNode, hn, executions]
    exact countP_toolCalls id _

/-- Every execution of the burst leaves a record. -/
def AllRecorded (deps : PipelineDeps) (a : NodeAnswers) (s : TriageState) :
    Prop :=
  ∀ r ∈ executeAll deps.summarise a.tools (s.burstCalls deps), r.isSome = true

theorem length_collectBurst (results : List (Option (Json × ToolCallRecord))) :
    (collectBurst results).2.length = results.countP Option.isSome := by
  unfold collectBurst
  induction results with
  | nil => rfl
  | cons r results ih =>
      cases r with
      | none => simpa using ih
      | some r => simpa using ih

theorem length_burstRecords_le (deps : PipelineDeps) (a : NodeAnswers)
    (s : TriageState) :
    (burstRecords deps a s).length ≤ (s.burstCalls deps).length := by
  unfold burstRecords
  rw [length_collectBurst, ← length_executeAll deps.summarise a.tools]
  exact List.countP_le_length

/-- As many records as executions mean that none went unrecorded. -/
theorem allRecorded_iff (deps : PipelineDeps) (a : NodeAnswers)
    (s : TriageState) : AllRecorded deps a s ↔
      (burstRecords deps a s).length = (s.burstCalls deps).length := by
  unfold burstRecords AllRecorded
  rw [length_collectBurst, ← length_executeAll deps.summarise a.tools,
    List.countP_eq_length]

/-! ## §4  A loop that spends everything -/

/-- A model that plans one more query at every turn. -/
def insistentThink : AgentThinkResponse :=
  ⟨true, [⟨"query_splunk", "{}"⟩], "keep looking"⟩

def insistentAnswers : NodeAnswers where
  flagSet := false
  extractOllama := .raised
  extractOpenai := .raised
  thinkOllama := .answer insistentThink
  thinkOpenai := .answer insistentThink
  verdictOllama := .raised
  verdictOpenai := .raised
  tools _ := ⟨none, .timeout⟩
  callIds _ := "call_1"

/-- With a model at hand, one turn of the loop can spend one execution. -/
theorem insistent_turn (hm : (deps.hasOllama || deps.hasOpenai) = true)
    {s : TriageState} (h : Sound alert (.ready .agentThink s))
    (hpos : 0 < s.toolBudget) :
    ∃ s₁ s₂, (triageGraph deps).step (.ready .agentThink s) insistentAnswers =
        .ready .executeTool s₁ ∧
      (triageGraph deps).step (.ready .executeTool s₁) insistentAnswers =
        .ready (afterExecuteTool s₂) s₂ ∧
      executions ((triageGraph deps).visit .executeTool s₁
        insistentAnswers) = 1 ∧
      s₂.toolBudget = s.toolBudget - 1 := by
  have hasked : (askModels deps insistentAnswers.thinkOllama
      insistentAnswers.thinkOpenai).2 = some insistentThink := by
    unfold askModels
    cases hl : deps.hasOllama with
    | true => rfl
    | false =>
        rw [hl, Bool.false_or] at hm
        simp [hm, insistentAnswers]
  -- the state after a reply that asks for one call and means to go on
  let s₁ := afterThink insistentAnswers s (some insistentThink)
  have hcalls : lastToolCalls s₁ = [⟨"query_splunk",
      parseAgentThinkArguments "{}", "call_1"⟩] := by
    have hplans : validPlans s.toolBudget insistentThink =
        [⟨"query_splunk", "{}"⟩] := by
      obtain ⟨n, hn⟩ : ∃ n, s.toolBudget.toNat = n + 1 :=
        ⟨s.toolBudget.toNat - 1, by omega⟩
      simp [validPlans, hn, insistentThink, reactToolNames]
    rw [lastToolCalls_append (s := s₁) rfl, thinkToolCalls, if_pos ⟨rfl, hpos⟩,
      hplans]
    rfl
  have hthink : (triageGraph deps).step (.ready .agentThink s)
      insistentAnswers = .ready .executeTool s₁ := by
    rcases agentThinkNode_cases h.1.validSeverity deps insistentAnswers with
      ⟨hf, -⟩ | ⟨-, hn⟩
    · exact absurd hf (by decide)
    · rw [hasked] at hn
      have hgo : shouldContinueReact s₁ = .executeTool := by
        have hb : ¬ s₁.toolBudget ≤ 0 := not_le.mpr hpos
        have hc : ¬ s₁.tocontinue ≠ some true := fun hne => hne rfl
        rw [shouldContinueReact, if_neg hb, if_neg hc, hcalls]
        rfl
      simp only [StateGraph.step, triageGraph, runNode, hn]
      show StateGraph.leave _ _ _ (some s₁) = _
      simp only [StateGraph.leave, nextNode, hgo]
  rcases executeToolNode_cases deps insistentAnswers s₁ with
    ⟨hf, -⟩ | ⟨-, hnil, -⟩ | ⟨-, -, data, records, hn⟩
  · exact absurd hf (by decide)
  · rw [hcalls] at hnil
    exact absurd hnil (by simp)
  · refine ⟨s₁, afterBatch s₁ data records, hthink, ?_, ?_, ?_⟩
    · simp only [StateGraph.step, triageGraph, runNode, hn]
      rfl
    · simp only [StateGraph.visit, triageGraph, runNode, hn, executions, hcalls]
      rfl
    · simp only [afterBatch, hcalls, List.length_singleton]
      rfl

/-- With a model at hand, the loop can spend all of its budget. -/
theorem loop_spends_all (hm : (deps.hasOllama || deps.hasOpenai) = true)
    {s : TriageState} (h : Sound alert (.ready .agentThink s)) :
    ∃ answers, totalExecutions ((triageGraph deps).visits
      (.ready .agentThink s) answers) = s.toolBudget.toNat := by
  induction hb : s.toolBudget.toNat generalizing s with
  | zero => exact ⟨[], rfl⟩
  | succ n ih =>
      obtain ⟨s₁, s₂, hthink, hexec, hx, hb₂⟩ :=
        insistent_turn deps hm h (by omega)
      have hsound := sound_drive deps h
        [insistentAnswers, insistentAnswers]
      have hnone : executions ((triageGraph deps).visit .agentThink s
          insistentAnswers) = 0 :=
        (think_step deps h insistentAnswers).choose_spec.2.2
      rw [StateGraph.drive_cons, hthink, StateGraph.drive_cons, hexec,
        StateGraph.drive_nil] at hsound
      -- the last execution leads to the verdict, the others back to the loop
      cases n with
      | zero =>
          refine ⟨[insistentAnswers, insistentAnswers], ?_⟩
          rw [StateGraph.visits_ready, hthink, StateGraph.visits_ready,
            StateGraph.visits_nil]
          simp [totalExecutions, hnone, hx]
      | succ n =>
          have hback : afterExecuteTool s₂ = .agentThink :=
            if_neg (by omega)
          rw [hback] at hsound hexec
          obtain ⟨answers, hrest⟩ := ih hsound (by omega)
          refine ⟨insistentAnswers :: insistentAnswers :: answers, ?_⟩
          rw [StateGraph.visits_ready, hthink, StateGraph.visits_ready, hexec]
          unfold totalExecutions at hrest ⊢
          rw [List.map_cons, List.map_cons, List.sum_cons, List.sum_cons, hnone,
            hx, hrest]
          omega

/-- Without a model, the loop spends nothing. -/
theorem loop_without_model (hm : (deps.hasOllama || deps.hasOpenai) = false)
    {s : TriageState} (h : Sound alert (.ready .agentThink s))
    (answers : List NodeAnswers) :
    totalExecutions ((triageGraph deps).visits (.ready .agentThink s)
      answers) = 0 := by
  obtain ⟨hl, ho⟩ := Bool.or_eq_false_iff.mp hm
  cases answers with
  | nil => rfl
  | cons a answers =>
      have hstep : ∃ s', (triageGraph deps).step (.ready .agentThink s) a =
          .ready .generateVerdict s' := by
        rcases agentThinkNode_cases h.1.validSeverity deps a with
          ⟨-, hn⟩ | ⟨-, hn⟩
        · simp only [StateGraph.step, triageGraph, runNode, hn]
          exact ⟨_, rfl⟩
        · have hnone : (askModels deps a.thinkOllama a.thinkOpenai).2 =
              none := by
            simp [askModels, hl, ho]
          simp only [StateGraph.step, triageGraph, runNode, hn, hnone]
          exact ⟨_, rfl⟩
      obtain ⟨s', hstep⟩ := hstep
      have hnext := sound_step deps a h
      obtain ⟨-, -, -, hx⟩ := think_step deps h a
      rw [hstep] at hnext
      have hrest := StateGraph.cost_le (G := triageGraph deps)
        (I := fun p => Sound alert p ∧ InLoop p) executions loopBudget
        (fun _ _ b hp => ⟨(loop_step deps b hp).1, (loop_step deps b hp).2.1⟩)
        ⟨hnext, .inr (.inr rfl)⟩ answers
      rw [StateGraph.visits_ready, hstep, totalExecutions, List.map_cons,
        List.sum_cons, hx]
      simpa [loopBudget] using hrest

/-! ## §5  The whole run -/

theorem totalExecutions_append (vs ws : List NodeVisit) :
    totalExecutions (vs ++ ws) = totalExecutions vs + totalExecutions ws := by
  simp [totalExecutions]

/-- The burst stays within the budget, and where a model could ask for more,
none of its executions goes unrecorded. -/
def BurstFits (deps : PipelineDeps) (a : NodeAnswers) :
    Position Node TriageState → Prop
  | .ready .burstEnrichment s =>
      ((s.burstCalls deps).length : ℤ) ≤ s.toolBudget ∧
        ((deps.hasOllama || deps.hasOpenai) = true → AllRecorded deps a s)
  | _ => True

/-- **The whole run and its budget.** Given what the nodes up to the burst are
answered: a run executes at most as many tools as the severity allows, whatever
follows, if and only if the burst fits. -/
theorem budget_kept_iff (deps : PipelineDeps) (alert : NormalizedAlert)
    (thread : TriageThread) (call : TriageCall) (e₀ e₁ e₂ e₃ : NodeAnswers) :
    (∀ answers, (totalExecutions ((triageGraph deps).visits
        (call.start deps alert thread).2
        ([e₀, e₁, e₂] ++ e₃ :: answers)) : ℤ) ≤
          getBudget alert.severity.value) ↔
      BurstFits deps e₃ ((triageGraph deps).drive
        (call.start deps alert thread).2 [e₀, e₁, e₂]) := by
  obtain ⟨hzero, hpos⟩ := before_burst deps alert thread call e₀ e₁ e₂
  simp only [StateGraph.visits_append, totalExecutions_append, hzero,
    Nat.zero_add]
  rcases hpos with ⟨s, hp, hs⟩ | ⟨s, hp⟩
  · rw [hp]
    obtain ⟨compressed, hstep, hx⟩ := burst_step deps s e₃
    have hbudget : s.toolBudget = getBudget alert.severity.value := by
      rw [← hs.1.severity]
      exact hs.2
    have hloop := sound_step deps e₃ hs
    have hrecs := length_burstRecords_le deps e₃ s
    have hall := allRecorded_iff deps e₃ s
    have hleft : (afterBurst deps e₃ s compressed).toolBudget =
        max 0 (s.toolBudget - (burstRecords deps e₃ s).length) := rfl
    have hsum : ∀ answers, totalExecutions ((triageGraph deps).visits
        (.ready .burstEnrichment s) (e₃ :: answers)) =
        (s.burstCalls deps).length + totalExecutions ((triageGraph deps).visits
          (.ready .agentThink (afterBurst deps e₃ s compressed)) answers) := by
      intro answers
      rw [StateGraph.visits_ready, hstep, totalExecutions, List.map_cons,
        List.sum_cons, hx]
      rfl
    rw [hstep] at hloop
    constructor
    · intro hkept
      have hburst := hkept []
      rw [hsum, StateGraph.visits_nil] at hburst
      simp only [totalExecutions, List.map_nil, List.sum_nil] at hburst
      refine ⟨by omega, fun hm => ?_⟩
      -- a model that insists spends what the burst has left
      obtain ⟨answers, hspent⟩ := loop_spends_all deps hm hloop
      have hrun := hkept answers
      rw [hsum, hspent, hleft] at hrun
      rw [hall]
      omega
    · rintro ⟨hfits, hrecorded⟩ answers
      rw [hsum]
      cases hm : deps.hasOllama || deps.hasOpenai with
      | false =>
          rw [loop_without_model deps hm hloop]
          omega
      | true =>
          have hspent := loop_executions_le deps hloop answers
          have heq := hall.mp (hrecorded hm)
          rw [hleft] at hspent
          omega
  · rw [hp]
    simp only [StateGraph.visits_raised]
    refine iff_of_true (fun _ => ?_) trivial
    show (0 : ℤ) ≤ getBudget alert.severity.value
    exact le_trans (by decide) (three_le_getBudget _)

/-- Two techniques of a low alert route four tools. -/
def wideAnswers : NodeAnswers :=
  { silentAnswers with
    extractOllama := .answer
      ⟨[], [], [], [⟨"T1059.001"⟩, ⟨"T1021.001"⟩], []⟩ }

theorem burst_overspends :
    ¬ ∀ (deps : PipelineDeps) (alert : NormalizedAlert) (thread : TriageThread)
      (call : TriageCall),
      (totalExecutions (call.trace deps alert thread) : ℤ) ≤
        getBudget alert.severity.value := by
  intro h
  exact absurd (h plainPipeline
    { sampleAlert with severity := .low, mitreTechnique := none } none
    (freshCall (List.replicate 4 wideAnswers))) (by decide +kernel)

end AlertTriage
