import AlertTriage.Pipeline.RunTriage

/-!
# Crash and redelivery

A worker that dies inside `run_triage` leaves the results of some nodes in the
thread of the alert, and the message is delivered again. `run_triage` hands its
initial state to the graph every time, so the second call starts at the entry:
it repeats a node whose result was kept as soon as it executes any
(`nothing_repeated_iff`). A call that went on from the thread would not
(`resumed_call_repeats_nothing`).
-/

namespace AlertTriage

open Library

variable (deps : PipelineDeps) (alert : NormalizedAlert)

/-- The nodes that a call executes, each with its place in the run. -/
def TriageCall.executed (thread : TriageThread) (call : TriageCall) :
    List (Node × ℕ) :=
  (triageGraph deps).executed (call.start deps alert thread) call.answers

/-- The nodes whose results the call leaves in the thread. -/
def TriageCall.checkpointed (thread : TriageThread) (call : TriageCall) :
    List (Node × ℕ) :=
  if call.hasCheckpointer then
    (call.executed deps alert thread).take (call.kept deps alert thread)
  else []

/-- Every call starts at the entry. -/
theorem head?_executed (thread : TriageThread) (call : TriageCall) :
    (call.executed deps alert thread).head? =
      if call.answers = [] then none else some (.normalise, 0) := by
  unfold TriageCall.executed StateGraph.executed TriageCall.start
    StateGraph.restart
  cases call.answers with
  | nil => rfl
  | cons a answers => rfl

/-- A call that checkpoints anything checkpoints the entry. -/
theorem entry_mem_checkpointed {thread : TriageThread} {call : TriageCall}
    (h : call.checkpointed deps alert thread ≠ []) :
    (Node.normalise, 0) ∈ call.checkpointed deps alert thread := by
  unfold TriageCall.checkpointed at h ⊢
  split at h
  · rename_i hc
    rw [if_pos hc]
    have hhead := head?_executed deps alert thread call
    cases hx : call.executed deps alert thread with
    | nil => simp [hx] at h
    | cons x xs =>
        rw [hx] at h hhead
        cases hk : call.kept deps alert thread with
        | zero => simp [hk] at h
        | succ k =>
            split at hhead
            · exact absurd hhead (by simp)
            · obtain rfl := Option.some.inj hhead
              exact List.mem_cons_self
  · exact absurd rfl h

/-- **Crash and redelivery.** The second call executes no node whose result the
first one checkpointed if and only if nothing was checkpointed, or the second
call dies before its first node. -/
theorem nothing_repeated_iff (thread : TriageThread)
    (first second : TriageCall) :
    (∀ x ∈ second.executed deps alert (first.leaves deps alert thread),
        x ∉ first.checkpointed deps alert thread) ↔
      first.checkpointed deps alert thread = [] ∨ second.answers = [] := by
  have hhead := head?_executed deps alert (first.leaves deps alert thread)
    second
  constructor
  · intro hnone
    by_contra hboth
    obtain ⟨hfirst, hsecond⟩ := not_or.mp hboth
    rw [if_neg hsecond] at hhead
    exact hnone _ (List.mem_of_mem_head? hhead)
      (entry_mem_checkpointed deps alert hfirst)
  · rintro (hfirst | hsecond)
    · intro x _
      rw [hfirst]
      exact List.not_mem_nil
    · rw [if_pos hsecond, List.head?_eq_none_iff] at hhead
      rw [hhead]
      exact fun x hx => absurd hx List.not_mem_nil

/-- The first call dies after the extraction, the second runs to the end. -/
theorem normalised_twice :
    ¬ ∀ (deps : PipelineDeps) (alert : NormalizedAlert)
      (thread : TriageThread) (first second : TriageCall),
      ∀ x ∈ second.executed deps alert (first.leaves deps alert thread),
        x ∉ first.checkpointed deps alert thread := by
  intro h
  exact absurd (h plainPipeline sampleAlert none
    ⟨true, List.replicate 2 silentAnswers, some 2⟩
    ⟨true, List.replicate 6 silentAnswers, some 6⟩) (by decide +kernel)

/-- From the thread that a call leaves, the graph invoked with no input repeats
nothing that is kept there. -/
theorem resumed_call_repeats_nothing {thread : TriageThread}
    {first : TriageCall} {c : StateGraph.Checkpoint Node TriageState}
    (hc : first.hasCheckpointer = true) (hsaved : first.saved.isSome = true)
    (h : first.leaves deps alert thread = some c) (answers : List NodeAnswers) :
    ∀ x ∈ (triageGraph deps).executed (StateGraph.resume c) answers,
      x ∉ first.checkpointed deps alert thread := by
  intro x hx
  unfold TriageCall.leaves at h
  rw [if_pos (by simp [hc, hsaved])] at h
  obtain rfl := Option.some.inj h
  unfold TriageCall.checkpointed
  rw [if_pos hc]
  exact StateGraph.resume_repeats_nothing _ hx

end AlertTriage
