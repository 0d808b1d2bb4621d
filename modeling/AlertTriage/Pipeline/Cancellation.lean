import AlertTriage.Pipeline.RunVerdict

/-!
# Cancelled runs

The cancel flag is read by `agent_think_node` and `execute_tool_node` only. From
the moment that it is set, a run heeds it when it stands where one of these two
comes before the next model call (`cancel_heeded_iff`).

The marker that these nodes leave stays in a checkpointed thread, and no node
looks at the status that a model gives: a verdict's status tells the truth when
neither gets in the way (`truthful_iff`).
-/

namespace AlertTriage

open Library

variable (deps : PipelineDeps) {alert : NormalizedAlert}

/-! ## §1  From the moment the flag is set -/

def Effect.isModelCall : Effect → Bool
  | .modelCall _ => true
  | _ => false

/-- The node calls a model. -/
def callsModel (v : NodeVisit) : Bool := v.effects.any Effect.isModelCall

/-- A verdict that the run returns is a cancelled one. -/
def EndsCancelled (alert : NormalizedAlert) (p : Position Node TriageState) :
    Prop :=
  ∀ verdict, triageOutcome deps alert p = .verdict verdict →
    verdict.status = some "cancelled"

/-- The flag is set from here on: no node calls a model, and the verdict is a
cancelled one. -/
def HeedsFlag (alert : NormalizedAlert) (p : Position Node TriageState) :
    Prop :=
  ∀ answers : List NodeAnswers, (∀ a ∈ answers, a.flagSet = true) →
    (∀ v ∈ (triageGraph deps).visits p answers, callsModel v = false) ∧
      EndsCancelled deps alert ((triageGraph deps).drive p answers)

/-- A node that reads the flag comes before any that would call a model. -/
def Prompt (alert : NormalizedAlert) : Position Node TriageState → Prop
  | .ready .normalise _ => deps.hasOllama = false
  | .ready .extractEntities _ => deps.hasOllama = false
  | .ready .generateVerdict s => Marked s
  | .ready _ _ => True
  | .ended s => EndsCancelled deps alert (.ended s)
  | .raised _ _ => True

theorem toolCalls_noModel {α : Type} (f : α → String × Params) (xs : List α) :
    (xs.map fun x => Effect.toolCall (f x).1 (f x).2).any
      Effect.isModelCall = false := by
  induction xs with
  | nil => rfl
  | cons x xs ih =>
      rw [List.map_cons, List.any_cons, ih]
      rfl

/-- With the flag set, a step keeps this and calls no model. -/
theorem prompt_step {n : Node} {s : TriageState} {a : NodeAnswers}
    (h : Sound alert (.ready n s)) (hp : Prompt deps alert (.ready n s))
    (hflag : a.flagSet = true) :
    Prompt deps alert ((triageGraph deps).step (.ready n s) a) ∧
      callsModel ((triageGraph deps).visit n s a) = false := by
  unfold StateGraph.step triageGraph StateGraph.visit callsModel
  cases n with
  | normalise => exact ⟨hp, rfl⟩
  | extractEntities =>
      have hcalls : (extractEntitiesNode deps a s).1 = [] := by
        have hl : deps.hasOllama = false := hp
        simp [extractEntitiesNode, extractEntities, hl]
      rcases extractEntitiesNode_cases deps a s with hn | ⟨entities, hn⟩
      · simp only [runNode, hn, hcalls]
        exact ⟨trivial, rfl⟩
      · simp only [runNode, hn, hcalls]
        exact ⟨trivial, rfl⟩
  | routeTools => exact ⟨trivial, rfl⟩
  | burstEnrichment =>
      obtain ⟨compressed, hn⟩ := burstEnrichmentNode_spec deps a s
      simp only [runNode, hn]
      exact ⟨trivial, toolCalls_noModel id _⟩
  | agentThink =>
      -- both checkpoints of the loop see the flag
      rcases agentThinkNode_cases h.1.validSeverity deps a with
        ⟨-, hn⟩ | ⟨hno, -⟩
      · simp only [runNode, hn]
        exact ⟨rfl, rfl⟩
      · rw [hflag] at hno
        exact absurd hno (by decide)
  | executeTool =>
      rcases executeToolNode_cases deps a s with
        ⟨-, hn⟩ | ⟨hno, -⟩ | ⟨hno, -⟩
      · simp only [runNode, hn]
        exact ⟨rfl, rfl⟩
      · rw [hflag] at hno
        exact absurd hno (by decide)
      · rw [hflag] at hno
        exact absurd hno (by decide)
  | generateVerdict =>
      rcases generateVerdictNode_cases deps a s with
        ⟨-, hn⟩ | ⟨hm, -⟩ | ⟨hm, -⟩
      · simp only [runNode, hn]
        refine ⟨fun verdict hv => ?_, rfl⟩
        obtain rfl : cancelledVerdict s = verdict := by
          simpa [triageOutcome] using hv
        rfl
      · exact absurd hp hm
      · exact absurd hp hm

/-- With Ollama configured, the extraction calls a model. -/
theorem extract_callsModel (hl : deps.hasOllama = true) (s : TriageState)
    (a : NodeAnswers) :
    callsModel ((triageGraph deps).visit .extractEntities s a) = true := by
  have hcalls : callsModel ((triageGraph deps).visit .extractEntities s a) =
      (extractEntities deps a s.alert).1.any Effect.isModelCall := rfl
  rw [hcalls]
  unfold extractEntities extractEntitiesLlm
  rw [if_pos hl]
  cases a.extractOllama <;> rfl

/-- The flag is set and every model fails. -/
def cancelledAnswers : NodeAnswers := { silentAnswers with flagSet := true }

/-- Before the verdict, an unmarked state ends in the fallback, which has no status. -/
theorem marked_of_heedsFlag {s : TriageState} (hsound : Sound alert (.ready .generateVerdict s))
    (hheeds : HeedsFlag deps alert (.ready .generateVerdict s)) : Marked s := by
  by_contra hm
  have hend := (hheeds [cancelledAnswers] (by simp [cancelledAnswers])).2
  have hnone : askedVerdict deps cancelledAnswers = none := by
    unfold askedVerdict askModels
    cases deps.hasOllama <;> cases deps.hasOpenai <;> rfl
  have hgiven : nodeVerdict deps cancelledAnswers s =
      fallbackVerdict deps s s.alert "All LLM providers unavailable" := by
    rw [nodeVerdict, if_neg hm, hnone]
  obtain ⟨verdict, hverdict⟩ : ∃ verdict,
      nodeVerdict deps cancelledAnswers s = some verdict := by
    rw [hgiven, fallbackVerdict, hsound.1.validSeverity]
    exact ⟨_, rfl⟩
  have hnode := generateVerdictNode_verdict deps cancelledAnswers s
  rw [hverdict] at hnode
  have hstatus := status_of_nodeVerdict deps hverdict
  rw [if_neg hm, hnone] at hstatus
  have hdrive : (triageGraph deps).drive (.ready .generateVerdict s)
      [cancelledAnswers] = .ended
        { s with verdict := some verdict, phase := .done } := by
    simp [StateGraph.step, triageGraph, runNode, hnode,
      StateGraph.leave, nextNode]
  rw [hdrive] at hend
  rw [hend verdict rfl] at hstatus
  exact absurd hstatus (by simp)

/-- A run that heeds the flag stands before a node that reads it. -/
theorem prompt_of_heedsFlag {p : Position Node TriageState} (hsound : Sound alert p)
    (hheeds : HeedsFlag deps alert p) : Prompt deps alert p := by
  cases p with
  | raised n s => trivial
  | ended s => exact (hheeds [] (by simp)).2
  | ready n s =>
      cases n with
      | normalise =>
          -- with the flag up at both nodes to come the second still asks the model
          by_contra hl
          have hcall := (hheeds [cancelledAnswers, cancelledAnswers]
            (by simp [cancelledAnswers])).1
          have hmem : (triageGraph deps).visit .extractEntities
              (normaliseAlertNode s) cancelledAnswers ∈
              (triageGraph deps).visits (.ready .normalise s)
                [cancelledAnswers, cancelledAnswers] :=
            List.mem_cons_of_mem _ List.mem_cons_self
          have hx := extract_callsModel deps (Bool.not_eq_false _ ▸ hl)
            (normaliseAlertNode s) cancelledAnswers
          rw [hcall _ hmem] at hx
          exact absurd hx (by decide)
      | extractEntities =>
          by_contra hl
          have hcall := (hheeds [cancelledAnswers]
            (by simp [cancelledAnswers])).1
          have hx := extract_callsModel deps (Bool.not_eq_false _ ▸ hl) s
            cancelledAnswers
          rw [hcall _ List.mem_cons_self] at hx
          exact absurd hx (by decide)
      | generateVerdict => exact marked_of_heedsFlag deps hsound hheeds
      | _ => trivial

/-- **Heeding the flag.** Wherever a run stands when the flag is set: no node
that starts later calls a model and the verdict is a cancelled one, whatever
the nodes are answered, if and only if the run stands before a node that reads
the flag and nothing before that calls a model. -/
theorem cancel_heeded_iff (alert : NormalizedAlert) (thread : TriageThread)
    (call : TriageCall) :
    HeedsFlag deps alert (call.finish deps alert thread) ↔
      Prompt deps alert (call.finish deps alert thread) := by
  have hsound := sound_finish deps alert thread call
  generalize call.finish deps alert thread = p at hsound
  constructor
  · exact prompt_of_heedsFlag deps hsound
  · intro hprompt answers hflags
    have hstep : ∀ n s (a : NodeAnswers), a.flagSet = true →
        (Sound alert (.ready n s) ∧ Prompt deps alert (.ready n s)) →
        Sound alert ((triageGraph deps).step (.ready n s) a) ∧
          Prompt deps alert ((triageGraph deps).step (.ready n s) a) :=
      fun n s a ha hp => ⟨sound_step deps a hp.1,
        (prompt_step deps hp.1 hp.2 ha).1⟩
    constructor
    · refine StateGraph.visits_assume (G := triageGraph deps)
        (I := fun p => Sound alert p ∧ Prompt deps alert p)
        (C := fun v => v.answers.flagSet = true)
        (fun n s a hp ha => hstep n s a ha hp)
        (fun n s a hp ha => (prompt_step deps hp.1 hp.2 ha).2)
        ⟨hsound, hprompt⟩ answers ?_
      intro v hv
      exact hflags _ (StateGraph.answers_mem_of_mem_visits hv)
    · have hend := StateGraph.drive_assume (G := triageGraph deps)
        (I := fun p => Sound alert p ∧ Prompt deps alert p) hstep
        ⟨hsound, hprompt⟩ answers hflags
      cases hp : (triageGraph deps).drive p answers with
      | ended s =>
          rw [hp] at hend
          exact hend.2
      | ready n s => exact fun verdict hv => absurd hv (by simp [triageOutcome])
      | raised n s => exact fun verdict hv => absurd hv (by simp [triageOutcome])

/-- The flag is set before the run starts, and the extraction calls Ollama. -/
theorem cancelled_run_extracts :
    ¬ ∀ (deps : PipelineDeps) (alert : NormalizedAlert)
      (thread : TriageThread) (call : TriageCall),
      HeedsFlag deps alert (call.finish deps alert thread) := by
  intro h
  have hcalls := (h plainPipeline sampleAlert none (freshCall [])
    [cancelledAnswers, cancelledAnswers] (by decide)).1
  exact absurd hcalls (by decide +kernel)

/-! ## §2  Cancelled verdicts over a history of runs -/

/-- The thread after some calls on the alert. -/
def threadAfter (alert : NormalizedAlert) (history : List TriageCall) :
    TriageThread :=
  history.foldl (fun thread call => call.leaves deps alert thread) none

/-- A call leaves the marker in the thread when it was there or the call keeps
the result of a node that saw the flag. -/
theorem threadMarked_leaves (alert : NormalizedAlert) (thread : TriageThread)
    (call : TriageCall) :
    ThreadMarked (call.leaves deps alert thread) ↔ ThreadMarked thread ∨
      (call.hasCheckpointer = true ∧
        ((call.trace deps alert thread).take
          (call.kept deps alert thread)).any sawFlag = true) := by
  cases hc : call.hasCheckpointer with
  | false => simp [TriageCall.leaves, hc]
  | true =>
      cases hsaved : call.saved with
      | none => simp [TriageCall.leaves, hsaved, TriageCall.kept]
      | some k =>
          have hleaves : call.leaves deps alert thread =
              some ((triageGraph deps).checkpoint
                (call.start deps alert thread).1
                (call.start deps alert thread).2 call.answers
                (call.kept deps alert thread)) := by
            simp [TriageCall.leaves, hc, hsaved]
          have hvisible : call.visible thread = thread := by
            simp [TriageCall.visible, hc]
          have hmark := marked_drive deps (sound_start deps alert thread call)
            (call.answers.take (call.kept deps alert thread))
          rw [StateGraph.visits_take, marked_start, hvisible] at hmark
          rw [hleaves]
          simp only [ThreadMarked, Option.mem_def, Option.some.injEq,
            exists_eq_left', true_and]
          exact hmark

/-- Some call of the history keeps, in the thread, the result of a node that
saw the flag. -/
def EarlierSaw (alert : NormalizedAlert) (history : List TriageCall) : Prop :=
  ∃ before call after, history = before ++ call :: after ∧
    call.hasCheckpointer = true ∧
    ((call.trace deps alert (threadAfter deps alert before)).take
      (call.kept deps alert (threadAfter deps alert before))).any
        sawFlag = true

/-- **The marker crosses runs.** The thread holds it when an earlier call kept
a node's sight of the flag. -/
theorem threadMarked_iff (alert : NormalizedAlert)
    (history : List TriageCall) :
    ThreadMarked (threadAfter deps alert history) ↔
      EarlierSaw deps alert history := by
  induction history using List.reverseRecOn with
  | nil =>
      constructor
      · rintro ⟨c, hc, -⟩
        exact absurd hc (by simp [threadAfter])
      · rintro ⟨before, call, after, heq, -⟩
        exact absurd heq (by simp)
  | append_singleton history last ih =>
      have hsnoc : threadAfter deps alert (history ++ [last]) =
          last.leaves deps alert (threadAfter deps alert history) := by
        unfold threadAfter
        rw [List.foldl_append]
        rfl
      rw [hsnoc, threadMarked_leaves, ih]
      constructor
      · rintro (⟨before, call, after, rfl, hsaw⟩ | hsaw)
        · exact ⟨before, call, after ++ [last], by simp, hsaw⟩
        · exact ⟨history, last, [], rfl, hsaw⟩
      · rintro ⟨before, call, after, heq, hsaw⟩
        rcases List.eq_nil_or_concat after with rfl | ⟨after, last', rfl⟩
        · obtain ⟨rfl, hlast⟩ := List.append_inj' heq rfl
          obtain rfl : last = call := by simpa using hlast
          exact .inr hsaw
        · rw [List.concat_eq_append, ← List.cons_append,
            ← List.append_assoc] at heq
          obtain ⟨rfl, -⟩ := List.append_inj' heq rfl
          exact .inl ⟨before, call, after, rfl, hsaw⟩

/-- A cancelled verdict comes from a run that saw the flag, and any other has
no status. -/
def Truthful (alert : NormalizedAlert) (thread : TriageThread)
    (call : TriageCall) : Prop :=
  ∀ verdict, runTriage deps alert thread call = .verdict verdict →
    (verdict.status = some "cancelled" →
      (call.trace deps alert thread).any sawFlag = true) ∧
    (verdict.status ≠ some "cancelled" → verdict.status = none)

/-- **Truthful verdicts.** After any history of calls on the alert, a call's
verdict tells the truth if and only if, where the call comes to the verdict, a
node of it saw the flag, or neither the thread that it reads holds an earlier
call's marker nor the model that answers gives a status. -/
theorem truthful_iff (alert : NormalizedAlert) (history : List TriageCall)
    (call : TriageCall) :
    Truthful deps alert (threadAfter deps alert history) call ↔
      ∀ v ∈ call.trace deps alert (threadAfter deps alert history),
        v.node = .generateVerdict →
        (call.trace deps alert (threadAfter deps alert history)).any
            sawFlag = true ∨
          (¬ (call.hasCheckpointer = true ∧ EarlierSaw deps alert history) ∧
            ∀ reply ∈ askedVerdict deps v.answers, reply.status = none) := by
  have hmarked : Marked (call.start deps alert
      (threadAfter deps alert history)).2.state ↔
      call.hasCheckpointer = true ∧ EarlierSaw deps alert history := by
    rw [marked_start, ← threadMarked_iff]
    cases hc : call.hasCheckpointer with
    | false => simp [TriageCall.visible, hc, ThreadMarked]
    | true => simp [TriageCall.visible, hc]
  -- the thread counts only through the marker that the run starts with
  generalize threadAfter deps alert history = thread at hmarked ⊢
  rw [← hmarked]
  constructor
  · intro htrue v hv hn
    obtain ⟨-, ⟨verdict, hrun, hgiven⟩, hmark⟩ :=
      run_of_verdict_visit deps hv hn
    have hstatus := status_of_nodeVerdict deps hgiven
    obtain ⟨hcancelled, hother⟩ := htrue verdict hrun
    by_cases hsaw : (call.trace deps alert thread).any sawFlag = true
    · exact .inl hsaw
    · refine .inr ⟨?_, ?_⟩
      · intro hstart
        rw [if_pos (hmark.mpr (.inl hstart))] at hstatus
        exact hsaw (hcancelled hstatus)
      · intro reply hreply
        by_cases hm : Marked v.before
        · rw [if_pos hm] at hstatus
          exact absurd (hcancelled hstatus) hsaw
        · rw [if_neg hm, Option.mem_def.mp hreply] at hstatus
          have hnot : verdict.status ≠ some "cancelled" :=
            fun hc => hsaw (hcancelled hc)
          rw [hother hnot] at hstatus
          exact hstatus.symm
  · intro hcond verdict hrun
    obtain ⟨s, a, hv, hgiven, -⟩ := verdict_of_run deps hrun
    obtain ⟨-, -, hmark⟩ := run_of_verdict_visit deps hv rfl
    have hstatus := status_of_nodeVerdict deps hgiven
    rcases hcond _ hv rfl with hsaw | ⟨hstart, hreply⟩
    · have hm : Marked s := hmark.mpr (.inr hsaw)
      rw [if_pos hm] at hstatus
      exact ⟨fun _ => hsaw, fun hne => absurd hstatus hne⟩
    · by_cases hm : Marked s
      · have hsaw := (hmark.mp hm).resolve_left hstart
        rw [if_pos hm] at hstatus
        exact ⟨fun _ => hsaw, fun hne => absurd hstatus hne⟩
      · rw [if_neg hm] at hstatus
        have hnone : verdict.status = none := by
          rw [hstatus]
          cases hasked : askedVerdict deps a with
          | none => rfl
          | some reply => exact hreply reply hasked
        refine ⟨fun hc => ?_, fun _ => hnone⟩
        rw [hnone] at hc
        exact absurd hc (by simp)

/-- A call with a checkpointer that keeps every node's result; its loop finds
the cancel flag as `flagSet` says. -/
def checkpointedCall (flagSet : Bool) : TriageCall :=
  ⟨true, List.replicate 6 { silentAnswers with flagSet }, some 6⟩

/-- The flag is gone at the second call, and its verdict is cancelled. -/
theorem cancelled_again :
    ¬ ∀ (deps : PipelineDeps) (alert : NormalizedAlert)
      (history : List TriageCall) (call : TriageCall),
      Truthful deps alert (threadAfter deps alert history) call := by
  intro h
  have htrue := h plainPipeline sampleAlert [checkpointedCall true]
    (checkpointedCall false)
  have hcancelled : (match runTriage plainPipeline sampleAlert
      (threadAfter plainPipeline sampleAlert [checkpointedCall true])
      (checkpointedCall false) with
    | .verdict verdict => decide (verdict.status = some "cancelled")
    | _ => false) = true := by decide +kernel
  cases hrun : runTriage plainPipeline sampleAlert
      (threadAfter plainPipeline sampleAlert [checkpointedCall true])
      (checkpointedCall false) with
  | verdict verdict =>
      rw [hrun] at hcancelled
      have hsaw := (htrue verdict hrun).1 (of_decide_eq_true hcancelled)
      exact absurd hsaw (by decide +kernel)
  | raised =>
      rw [hrun] at hcancelled
      exact absurd hcancelled (by decide)
  | killed =>
      rw [hrun] at hcancelled
      exact absurd hcancelled (by decide)

end AlertTriage
