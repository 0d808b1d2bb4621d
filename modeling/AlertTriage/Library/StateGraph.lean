import Mathlib.Algebra.Ring.Nat
import Mathlib.Tactic.Common

/-!
# Graphs of nodes over a shared state

A workflow engine runs a graph whose nodes read and replace one shared state.
Running a node calls outside systems; what they answer is the node's `ε`, what
it asked of them its list of effects `ω`. A node that raises ends the run.

A run is driven by the list of answers its nodes get: `drive` is where it
stands when the answers are used up (a run cut short is one whose answers
stop), `visits` is what happened on the way. Properties of runs come from one
step by `drive_invariant` and `visits_invariant`, or by `visits_assume` where
they hold of runs that meet an assumption; that a run gets somewhere whatever
it is answered comes from a measure by `reaches`.

A checkpointer keeps the position after some node. Invoking the graph with no
input goes on from there (`resume`); invoking it with an input starts at the
entry again, the input written over the state that was kept (`restart`).
-/

namespace AlertTriage.Library

structure StateGraph (ν σ ε ω : Type) where
  entry : ν
  exec : ν → ε → σ → List ω × Option σ
  route : ν → σ → Option ν

/-- Where a run stands: before a node, at the end, or ended by a node that
raised. -/
inductive Position (ν σ : Type) where
  | ready (node : ν) (state : σ)
  | ended (state : σ)
  | raised (node : ν) (state : σ)

/-- One node having run; `after` is none when it raised. -/
structure Visit (ν σ ε ω : Type) where
  node : ν
  answers : ε
  before : σ
  effects : List ω
  after : Option σ

def Position.state {ν σ : Type} : Position ν σ → σ
  | .ready _ s => s
  | .ended s => s
  | .raised _ s => s

namespace StateGraph

variable {ν σ ε ω : Type} (G : StateGraph ν σ ε ω)

/-! ## Runs -/

def visit (n : ν) (s : σ) (e : ε) : Visit ν σ ε ω :=
  ⟨n, e, s, (G.exec n e s).1, (G.exec n e s).2⟩

/-- Where the run stands after a node has left the state `after`. -/
def leave (n : ν) (s : σ) : Option σ → Position ν σ
  | none => .raised n s
  | some s' =>
      match G.route n s' with
      | some m => .ready m s'
      | none => .ended s'

def step : Position ν σ → ε → Position ν σ
  | .ready n s, e => G.leave n s (G.exec n e s).2
  | p, _ => p

def drive (p : Position ν σ) (es : List ε) : Position ν σ := es.foldl G.step p

def visits : Position ν σ → List ε → List (Visit ν σ ε ω)
  | .ready n s, e :: es => G.visit n s e :: visits (G.step (.ready n s) e) es
  | _, _ => []

variable {G}

@[simp] theorem drive_nil (p : Position ν σ) : G.drive p [] = p := rfl

@[simp] theorem drive_cons (p : Position ν σ) (e : ε) (es : List ε) :
    G.drive p (e :: es) = G.drive (G.step p e) es := rfl

@[simp] theorem step_ended (s : σ) (e : ε) :
    G.step (.ended s) e = .ended s := rfl

@[simp] theorem step_raised (n : ν) (s : σ) (e : ε) :
    G.step (.raised n s) e = .raised n s := rfl

theorem state_leave (n : ν) (s : σ) (after : Option σ) :
    (G.leave n s after).state = after.getD s := by
  cases after with
  | none => rfl
  | some s' =>
      unfold leave
      cases hr : G.route n s' with
      | none => simp only [hr]; rfl
      | some m => simp only [hr]; rfl

/-- A step leaves the state that the node left, or the one that it raised in. -/
theorem state_step (n : ν) (s : σ) (e : ε) :
    (G.step (.ready n s) e).state = ((G.exec n e s).2).getD s :=
  state_leave n s _

@[simp] theorem visits_nil (p : Position ν σ) : G.visits p [] = [] := by
  cases p <;> rfl

@[simp] theorem visits_ready (n : ν) (s : σ) (e : ε) (es : List ε) :
    G.visits (.ready n s) (e :: es) =
      G.visit n s e :: G.visits (G.step (.ready n s) e) es := rfl

@[simp] theorem visits_ended (s : σ) (es : List ε) :
    G.visits (.ended s) es = [] := by
  cases es <;> rfl

@[simp] theorem visits_raised (n : ν) (s : σ) (es : List ε) :
    G.visits (.raised n s) es = [] := by
  cases es <;> rfl

@[simp] theorem drive_ended (s : σ) (es : List ε) :
    G.drive (.ended s) es = .ended s := by
  induction es with
  | nil => rfl
  | cons e es ih => exact ih

@[simp] theorem drive_raised (n : ν) (s : σ) (es : List ε) :
    G.drive (.raised n s) es = .raised n s := by
  induction es with
  | nil => rfl
  | cons e es ih => exact ih

theorem visits_append (p : Position ν σ) (es es' : List ε) :
    G.visits p (es ++ es') = G.visits p es ++ G.visits (G.drive p es) es' := by
  induction es generalizing p with
  | nil => simp
  | cons e es ih =>
      cases p with
      | ready n s =>
          rw [List.cons_append, visits_ready, visits_ready, ih, drive_cons,
            List.cons_append]
      | ended s => simp
      | raised n s => simp

/-- The visits of a run cut short are the first of its visits. -/
theorem visits_take (p : Position ν σ) (es : List ε) (k : ℕ) :
    G.visits p (es.take k) = (G.visits p es).take k := by
  induction es generalizing p k with
  | nil => simp
  | cons e es ih =>
      cases k with
      | zero => simp
      | succ k =>
          cases p with
          | ready n s =>
              rw [List.take_succ_cons, visits_ready, visits_ready, ih,
                List.take_succ_cons]
          | ended s => simp
          | raised n s => simp

theorem eq_visit_of_mem_visits {p : Position ν σ} {es : List ε}
    {v : Visit ν σ ε ω} (h : v ∈ G.visits p es) :
    v = G.visit v.node v.before v.answers := by
  induction es generalizing p with
  | nil => simp at h
  | cons e es ih =>
      cases p with
      | ready n s =>
          rw [visits_ready] at h
          rcases List.mem_cons.mp h with rfl | h
          · rfl
          · exact ih h
      | ended s => simp at h
      | raised n s => simp at h

/-- A visit got one of the run's answers. -/
theorem answers_mem_of_mem_visits {p : Position ν σ} {es : List ε}
    {v : Visit ν σ ε ω} (h : v ∈ G.visits p es) : v.answers ∈ es := by
  induction es generalizing p with
  | nil => simp at h
  | cons e es ih =>
      cases p with
      | ready n s =>
          rw [visits_ready] at h
          rcases List.mem_cons.mp h with rfl | h
          · exact List.mem_cons_self
          · exact List.mem_cons_of_mem _ (ih h)
      | ended s => simp at h
      | raised n s => simp at h

/-- A run that comes to the end visits a node that no other follows. -/
theorem exists_last_visit {n₀ : ν} {s₀ s' : σ} {es : List ε}
    (h : G.drive (.ready n₀ s₀) es = .ended s') :
    ∃ n s e, G.visit n s e ∈ G.visits (.ready n₀ s₀) es ∧
      (G.exec n e s).2 = some s' ∧ G.route n s' = none := by
  induction es generalizing n₀ s₀ with
  | nil => exact absurd h (by simp)
  | cons e es ih =>
      rw [drive_cons] at h
      rw [visits_ready]
      cases hstep : G.step (.ready n₀ s₀) e with
      | ready n s =>
          rw [hstep] at h
          obtain ⟨n, s, e', hv, hrest⟩ := ih h
          exact ⟨n, s, e', List.mem_cons_of_mem _ hv, hrest⟩
      | ended s =>
          rw [hstep, drive_ended] at h
          obtain rfl := Position.ended.inj h
          refine ⟨n₀, s₀, e, List.mem_cons_self, ?_⟩
          unfold step leave at hstep
          cases hexec : (G.exec n₀ e s₀).2 with
          | none => simp [hexec] at hstep
          | some s₁ =>
              cases hroute : G.route n₀ s₁ with
              | some m => simp [hexec, hroute] at hstep
              | none =>
                  simp only [hexec, hroute, Position.ended.injEq] at hstep
                  exact ⟨congrArg some hstep, hstep ▸ hroute⟩
      | raised n s =>
          rw [hstep, drive_raised] at h
          exact absurd h (by simp)

/-! ## From one step to whole runs -/

/-- **Invariant rule.** What every step keeps holds wherever a run stands. -/
theorem drive_invariant {I : Position ν σ → Prop}
    (hs : ∀ n s e, I (.ready n s) → I (G.step (.ready n s) e))
    {p : Position ν σ} (hp : I p) (es : List ε) : I (G.drive p es) := by
  induction es generalizing p with
  | nil => exact hp
  | cons e es ih =>
      cases p with
      | ready n s => exact ih (hs n s e hp)
      | ended s => rwa [drive_ended]
      | raised n s => rwa [drive_raised]

/-- What every step keeps that is answered as assumed holds wherever a run
stands that is. -/
theorem drive_assume {I : Position ν σ → Prop} {A : ε → Prop}
    (hs : ∀ n s e, A e → I (.ready n s) → I (G.step (.ready n s) e))
    {p : Position ν σ} (hp : I p) (es : List ε) (ha : ∀ e ∈ es, A e) :
    I (G.drive p es) := by
  induction es generalizing p with
  | nil => exact hp
  | cons e es ih =>
      have hrest := fun e' he' => ha e' (List.mem_cons_of_mem e he')
      cases p with
      | ready n s => exact ih (hs n s e (ha e List.mem_cons_self) hp) hrest
      | ended s => rwa [drive_ended]
      | raised n s => rwa [drive_raised]

/-- Where an invariant of the steps gives `Q` of the visit that is next, `Q`
holds of every visit of a run. -/
theorem visits_invariant {I : Position ν σ → Prop}
    {Q : Visit ν σ ε ω → Prop}
    (hs : ∀ n s e, I (.ready n s) → I (G.step (.ready n s) e))
    (hq : ∀ n s e, I (.ready n s) → Q (G.visit n s e))
    {p : Position ν σ} (hp : I p) (es : List ε) :
    ∀ v ∈ G.visits p es, Q v := by
  induction es generalizing p with
  | nil => simp
  | cons e es ih =>
      cases p with
      | ready n s =>
          intro v hv
          rw [visits_ready] at hv
          rcases List.mem_cons.mp hv with rfl | hv
          · exact hq n s e hp
          · exact ih (hs n s e hp) v hv
      | ended s => simp
      | raised n s => simp

/-- **Assumption rule.** Where every visit of a run meets an assumption, the
steps may use it of their own visit. -/
theorem visits_assume {I : Position ν σ → Prop} {C Q : Visit ν σ ε ω → Prop}
    (hs : ∀ n s e, I (.ready n s) → C (G.visit n s e) →
      I (G.step (.ready n s) e))
    (hq : ∀ n s e, I (.ready n s) → C (G.visit n s e) → Q (G.visit n s e))
    {p : Position ν σ} (hp : I p) (es : List ε)
    (hc : ∀ v ∈ G.visits p es, C v) : ∀ v ∈ G.visits p es, Q v := by
  induction es generalizing p with
  | nil => simp
  | cons e es ih =>
      cases p with
      | ready n s =>
          rw [visits_ready] at hc ⊢
          have hhead := hc _ List.mem_cons_self
          intro v hv
          rcases List.mem_cons.mp hv with rfl | hv
          · exact hq n s e hp hhead
          · exact ih (hs n s e hp hhead)
              (fun w hw => hc w (List.mem_cons_of_mem _ hw)) v hv
      | ended s => simp
      | raised n s => simp

/-- **Progress rule.** If, as long as an invariant holds and the target is not
met, every step lowers a measure, a run meets the target within as many steps
as the measure says, whatever it is answered. -/
theorem reaches {I T : Position ν σ → Prop} (μ : Position ν σ → ℕ)
    (hs : ∀ p e, I p → ¬ T p → I (G.step p e) ∧ μ (G.step p e) < μ p)
    {p : Position ν σ} (hp : I p) (answers : ℕ → ε) :
    ∃ k ≤ μ p, T (G.drive p ((List.range k).map answers)) := by
  induction hm : μ p using Nat.strongRecOn generalizing p answers with
  | ind m ih =>
      by_cases ht : T p
      · exact ⟨0, Nat.zero_le _, ht⟩
      · obtain ⟨hi, hlt⟩ := hs p (answers 0) hp ht
        obtain ⟨k, hk, hT⟩ :=
          ih _ (hm ▸ hlt) hi (fun i => answers (i + 1)) rfl
        refine ⟨k + 1, by omega, ?_⟩
        rw [List.range_succ_eq_map, List.map_cons, drive_cons, List.map_map]
        exact hT

/-- **Cost rule.** If a potential pays for the cost of every step, it bounds
the cost of a whole run. -/
theorem cost_le {I : Position ν σ → Prop} (cost : Visit ν σ ε ω → ℕ)
    (φ : Position ν σ → ℕ)
    (hs : ∀ n s e, I (.ready n s) → I (G.step (.ready n s) e) ∧
      cost (G.visit n s e) + φ (G.step (.ready n s) e) ≤ φ (.ready n s))
    {p : Position ν σ} (hp : I p) (es : List ε) :
    ((G.visits p es).map cost).sum ≤ φ p := by
  induction es generalizing p with
  | nil => simp
  | cons e es ih =>
      cases p with
      | ready n s =>
          obtain ⟨hi, hle⟩ := hs n s e hp
          have hrest := ih hi
          rw [visits_ready, List.map_cons, List.sum_cons]
          omega
      | ended s => simp
      | raised n s => simp

/-- **Balance rule.** If every step moves from a potential to what its visit
takes, a run moves from it to what its visits take. -/
theorem balance {M : Type} [AddCommMonoid M] {I : Position ν σ → Prop}
    {C : Visit ν σ ε ω → Prop} (cost : Visit ν σ ε ω → M)
    (φ : Position ν σ → M)
    (hs : ∀ n s e, I (.ready n s) → C (G.visit n s e) →
      I (G.step (.ready n s) e) ∧
        cost (G.visit n s e) + φ (G.step (.ready n s) e) = φ (.ready n s))
    {p : Position ν σ} (hp : I p) (es : List ε)
    (hc : ∀ v ∈ G.visits p es, C v) :
    ((G.visits p es).map cost).sum + φ (G.drive p es) = φ p := by
  induction es generalizing p with
  | nil => simp
  | cons e es ih =>
      cases p with
      | ready n s =>
          rw [visits_ready] at hc ⊢
          obtain ⟨hi, heq⟩ := hs n s e hp (hc _ List.mem_cons_self)
          have hrest := ih hi fun v hv => hc v (List.mem_cons_of_mem _ hv)
          rw [List.map_cons, List.sum_cons, drive_cons, add_assoc, hrest, heq]
      | ended s => simp
      | raised n s => simp

/-! ## Checkpoints -/

/-- The position a checkpointer keeps, after `done` nodes since the entry. -/
structure Checkpoint (ν σ : Type) where
  done : ℕ
  position : Position ν σ

variable (G)

/-- The checkpoint after the first `k` nodes of a run that had done `i`. -/
def checkpoint (i : ℕ) (p : Position ν σ) (es : List ε) (k : ℕ) :
    Checkpoint ν σ :=
  ⟨i + k, G.drive p (es.take k)⟩

/-- Invoked with no input: the run goes on where the thread stands. -/
def resume (c : Checkpoint ν σ) : ℕ × Position ν σ := (c.done, c.position)

/-- Invoked with an input: the run starts at the entry, the input written over
the state that was kept. -/
def restart (write : Option σ → σ) (c : Option (Checkpoint ν σ)) :
    ℕ × Position ν σ :=
  (0, .ready G.entry (write (c.map fun c => c.position.state)))

/-- The nodes a run executes, each with how many came before it since the
entry. -/
def executed (start : ℕ × Position ν σ) (es : List ε) : List (ν × ℕ) :=
  ((G.visits start.2 es).map Visit.node).zipIdx start.1

/-- What a run executes comes after what was done before it. -/
theorem le_of_mem_executed {start : ℕ × Position ν σ} {es : List ε}
    {x : ν × ℕ} (h : x ∈ G.executed start es) : start.1 ≤ x.2 := by
  obtain ⟨n, i⟩ := x
  exact (List.mem_zipIdx h).1

/-- The first `k` nodes of a run come before the rest. -/
theorem lt_of_mem_take_executed {start : ℕ × Position ν σ} {es : List ε}
    {k : ℕ} {x : ν × ℕ} (h : x ∈ (G.executed start es).take k) :
    x.2 < start.1 + k := by
  obtain ⟨j, hj, hget⟩ := List.mem_take_iff_getElem.mp h
  have hplace : ((G.executed start es)[j]).2 = start.1 + j := by
    simp [executed]
  rw [← hget, hplace]
  omega

/-- **Resuming.** A run that goes on from a checkpoint executes nothing that
was done before it. -/
theorem resume_repeats_nothing {start : ℕ × Position ν σ} {es es' : List ε}
    {k : ℕ} {x : ν × ℕ}
    (h : x ∈ G.executed (resume (G.checkpoint start.1 start.2 es k)) es') :
    x ∉ (G.executed start es).take k := by
  intro hdone
  have hle := le_of_mem_executed G h
  have hlt := lt_of_mem_take_executed G hdone
  exact Nat.not_lt.mpr hle hlt

end StateGraph

end AlertTriage.Library
