import Mathlib.Tactic.Common

/-!
# Transition systems and their invariants

A system starts somewhere and takes labelled steps; a step that is not enabled
has no result. A label carries everything the environment decides, so a step
is a function.

`Reached S C s`: some run of `S` all of whose steps meet the condition `C` ends
in `s`. Runs without a condition are those of `Reachable`. An invariant is
shown once for a step and then holds in every state reached; a run given as a
list of labels is evaluated by `run` and turned into reachability by
`reached_of_run`. Where a step keeps a property exactly under a condition, a run
has the property throughout exactly when all its steps meet the condition
(`throughout_iff_meets`).
-/

namespace AlertTriage.Library

structure System (σ α : Type) where
  start : σ → Prop
  step : σ → α → Option σ

namespace System

variable {σ α : Type} (S : System σ α) (C : σ → α → Prop)

/-- The states that runs meeting `C` at every step come to. -/
inductive Reached : σ → Prop where
  | start {s : σ} : S.start s → Reached s
  | step {s s' : σ} {a : α} : Reached s → C s a → S.step s a = some s' →
      Reached s'

/-- The states that any run comes to. -/
def Reachable : σ → Prop := S.Reached fun _ _ => True

variable {S C}

/-- **Invariant rule**: what holds at the start and is kept by every step that
meets the condition holds in every state reached. -/
theorem Reached.invariant {P : σ → Prop} (h0 : ∀ s, S.start s → P s)
    (hs : ∀ s a s', P s → C s a → S.step s a = some s' → P s') {s : σ}
    (h : S.Reached C s) : P s := by
  induction h with
  | start h => exact h0 _ h
  | step _ hc hstep ih => exact hs _ _ _ ih hc hstep

/-- Runs that meet a condition meet any weaker one. -/
theorem Reached.mono {D : σ → α → Prop} (h : ∀ s a, C s a → D s a) {s : σ}
    (hr : S.Reached C s) : S.Reached D s := by
  induction hr with
  | start h => exact Reached.start h
  | step _ hc hstep ih => exact Reached.step ih (h _ _ hc) hstep

theorem Reached.reachable {s : σ} (h : S.Reached C s) : S.Reachable s :=
  h.mono fun _ _ _ => trivial

variable (S)

/-- A run given by its labels. -/
def run : σ → List α → Option σ
  | s, [] => some s
  | s, a :: as =>
      match S.step s a with
      | some s' => run s' as
      | none => none

variable {S}

theorem run_nil {s t : σ} (h : S.run s [] = some t) : s = t := Option.some.inj h

/-- A run begins with its first step. -/
theorem run_cons {s t : σ} {a : α} {as : List α} (h : S.run s (a :: as) = some t) :
    ∃ s', S.step s a = some s' ∧ S.run s' as = some t := by
  rw [run] at h
  cases hstep : S.step s a with
  | none =>
      rw [hstep] at h
      cases h
  | some s' =>
      rw [hstep] at h
      exact ⟨s', rfl, h⟩

/-- One run after another. -/
theorem run_append {s t : σ} {as bs : List α} (h : S.run s as = some t) :
    S.run s (as ++ bs) = S.run t bs := by
  induction as generalizing s with
  | nil =>
      obtain rfl := run_nil h
      rfl
  | cons a as ih =>
      obtain ⟨s', hstep, h⟩ := run_cons h
      rw [List.cons_append, run, hstep]
      exact ih h

/-- A run from a reachable state ends in one. -/
theorem reached_of_run {s s' : σ} {as : List α} (hs : S.Reachable s)
    (h : S.run s as = some s') : S.Reachable s' := by
  induction as generalizing s with
  | nil =>
      obtain rfl := run_nil h
      exact hs
  | cons a as ih =>
      obtain ⟨t, hstep, h⟩ := run_cons h
      exact ih (Reached.step hs trivial hstep) h

variable (S)

/-- Some step of the run from `s` meets `Q`. -/
def Occurs (Q : σ → α → Prop) : σ → List α → Prop
  | _, [] => False
  | s, a :: as => Q s a ∨ ∃ s', S.step s a = some s' ∧ Occurs Q s' as

variable {S}

/-- **Records of a run**: what every step that meets `Q` brings about, and
nothing else does or undoes, is there at the end just when it was there at the
start or such a step occurred. -/
theorem run_iff_occurs {P : σ → Prop} {Q : σ → α → Prop}
    (hs : ∀ s a s', S.step s a = some s' → (P s' ↔ P s ∨ Q s a)) {s t : σ}
    {as : List α} (h : S.run s as = some t) :
    P t ↔ P s ∨ S.Occurs Q s as := by
  induction as generalizing s with
  | nil =>
      obtain rfl := run_nil h
      simp [Occurs]
  | cons a as ih =>
      obtain ⟨s', hstep, h⟩ := run_cons h
      rw [ih h, hs s a s' hstep, Occurs]
      simp [hstep, or_assoc]

/-- What every step keeps holds at the end of a run. -/
theorem run_keeps {P : σ → Prop}
    (hs : ∀ s a s', S.step s a = some s' → P s → P s') {s t : σ}
    {as : List α} (h : S.run s as = some t) (hp : P s) : P t := by
  induction as generalizing s with
  | nil =>
      obtain rfl := run_nil h
      exact hp
  | cons a as ih =>
      obtain ⟨s', hstep, h⟩ := run_cons h
      exact ih h (hs s a s' hstep hp)

/-- Two conditions that agree on the steps of a run, wherever an invariant
holds, occur together. -/
theorem occurs_congr {P : σ → Prop} {Q R : σ → α → Prop}
    (hs : ∀ s a s', S.step s a = some s' → P s → P s') {s : σ} {as : List α}
    (hqr : ∀ s, ∀ a ∈ as, P s → (Q s a ↔ R s a)) (hp : P s) :
    S.Occurs Q s as ↔ S.Occurs R s as := by
  induction as generalizing s with
  | nil => exact Iff.rfl
  | cons a as ih =>
      have hrest : ∀ s, ∀ b ∈ as, P s → (Q s b ↔ R s b) := fun s b hb =>
        hqr s b (List.mem_cons_of_mem _ hb)
      simp only [Occurs, hqr s a List.mem_cons_self hp]
      refine or_congr Iff.rfl ⟨?_, ?_⟩
      · rintro ⟨s', hstep, ho⟩
        exact ⟨s', hstep, (ih hrest (hs s a s' hstep hp)).mp ho⟩
      · rintro ⟨s', hstep, ho⟩
        exact ⟨s', hstep, (ih hrest (hs s a s' hstep hp)).mpr ho⟩

variable (S)

/-- Every step of the run from `s` meets `C`. -/
def Meets (C : σ → α → Prop) : σ → List α → Prop
  | _, [] => True
  | s, a :: as => C s a ∧ ∀ s', S.step s a = some s' → Meets C s' as

/-- Every state of the run from `s` has `P`. -/
def Throughout (P : σ → Prop) : σ → List α → Prop
  | s, [] => P s
  | s, a :: as => P s ∧ ∀ s', S.step s a = some s' → Throughout P s' as

variable {S}

/-- What holds throughout a run holds at its end. -/
theorem Throughout.last {P : σ → Prop} {s t : σ} {as : List α}
    (h : S.Throughout P s as) (hrun : S.run s as = some t) : P t := by
  induction as generalizing s with
  | nil =>
      obtain rfl := run_nil hrun
      exact h
  | cons a as ih =>
      obtain ⟨s', hstep, hrun⟩ := run_cons hrun
      exact ih (h.2 s' hstep) hrun

/-- **Exactly the runs that keep a property**: a step from a state of the
invariant `I` keeps `P` just when it meets `C`. -/
theorem throughout_iff_meets {I P : σ → Prop} {C : σ → α → Prop}
    (hI : ∀ s a s', S.step s a = some s' → I s → I s')
    (hP : ∀ s a, I s → P s → (C s a ↔ ∀ s', S.step s a = some s' → P s'))
    {s : σ} {as : List α} (hi : I s) (hp : P s) :
    S.Throughout P s as ↔ S.Meets C s as := by
  induction as generalizing s with
  | nil => exact iff_of_true hp trivial
  | cons a as ih =>
      constructor
      · rintro ⟨-, hrest⟩
        have hc : C s a := by
          rw [hP s a hi hp]
          intro s' hstep
          cases as with
          | nil => exact hrest s' hstep
          | cons b bs => exact (hrest s' hstep).1
        refine ⟨hc, ?_⟩
        intro s' hstep
        exact (ih (hI s a s' hstep hi) ((hP s a hi hp).mp hc s' hstep)).mp
          (hrest s' hstep)
      · rintro ⟨hc, hrest⟩
        refine ⟨hp, ?_⟩
        intro s' hstep
        exact (ih (hI s a s' hstep hi) ((hP s a hi hp).mp hc s' hstep)).mpr
          (hrest s' hstep)

instance decidableMeets (C : σ → α → Prop) [∀ s a, Decidable (C s a)] :
    (s : σ) → (as : List α) → Decidable (S.Meets C s as)
  | _, [] => isTrue trivial
  | s, a :: as =>
      match hstep : S.step s a with
      | none => decidable_of_iff (C s a) (by simp [Meets, hstep])
      | some s' =>
          have := decidableMeets C s' as
          decidable_of_iff (C s a ∧ S.Meets C s' as) (by simp [Meets, hstep])

/-- Two conditions that agree wherever an invariant holds are met by the same
runs. -/
theorem meets_congr {I : σ → Prop} {C D : σ → α → Prop}
    (hI : ∀ s a s', S.step s a = some s' → I s → I s')
    (hs : ∀ s a, I s → (C s a ↔ D s a)) {s : σ} {as : List α} (hi : I s) :
    S.Meets C s as ↔ S.Meets D s as := by
  induction as generalizing s with
  | nil => exact Iff.rfl
  | cons a as ih =>
      refine and_congr (hs s a hi) (forall_congr' fun s' => ?_)
      constructor
      · intro h hstep
        exact (ih (hI s a s' hstep hi)).mp (h hstep)
      · intro h hstep
        exact (ih (hI s a s' hstep hi)).mpr (h hstep)

/-- A condition that does not ask for the state. -/
theorem Meets.of_forall {C : σ → α → Prop} {s : σ} {as : List α}
    (h : ∀ a ∈ as, ∀ s, C s a) : S.Meets C s as := by
  induction as generalizing s with
  | nil => trivial
  | cons a as ih =>
      refine ⟨h a List.mem_cons_self s, fun s' _ => ?_⟩
      exact ih fun b hb => h b (List.mem_cons_of_mem _ hb)

/-- A run that meets `C` at every step ends in a state that such runs reach. -/
theorem Meets.reached {C : σ → α → Prop} {s t : σ} {as : List α}
    (h : S.Meets C s as) (hs : S.Reached C s) (hrun : S.run s as = some t) :
    S.Reached C t := by
  induction as generalizing s with
  | nil =>
      obtain rfl := run_nil hrun
      exact hs
  | cons a as ih =>
      obtain ⟨s', hstep, hrun⟩ := run_cons hrun
      exact ih (h.2 s' hstep) (.step hs h.1 hstep) hrun

/-- What follows a part of a run that meets `C` meets it too. -/
theorem Meets.drop {C : σ → α → Prop} {s t : σ} {as bs : List α}
    (h : S.Meets C s (as ++ bs)) (hrun : S.run s as = some t) : S.Meets C t bs := by
  induction as generalizing s with
  | nil =>
      obtain rfl := run_nil hrun
      exact h
  | cons a as ih =>
      obtain ⟨s', hstep, hrun⟩ := run_cons hrun
      exact ih (h.2 s' hstep) hrun

/-- What every step that meets `C` and not `Q` keeps, a run of such steps keeps. -/
theorem Meets.keeps {C Q : σ → α → Prop} {P : σ → Prop}
    (hs : ∀ s a s', S.step s a = some s' → C s a → ¬ Q s a → P s → P s') {s t : σ}
    {as : List α} (hc : S.Meets C s as) (hq : ¬ S.Occurs Q s as)
    (hrun : S.run s as = some t) (hp : P s) : P t := by
  induction as generalizing s with
  | nil =>
      obtain rfl := run_nil hrun
      exact hp
  | cons a as ih =>
      obtain ⟨s', hstep, hrun⟩ := run_cons hrun
      refine ih (hc.2 s' hstep) ?_ hrun ?_
      · intro ho
        exact hq (.inr ⟨s', hstep, ho⟩)
      · exact hs s a s' hstep hc.1 (fun h => hq (.inl h)) hp

/-- **Silent steps**: where the silent steps of one system leave a relation to another alone,
and all others are taken in both, a run of the one is a run of the other without them. -/
theorem Meets.rel {τ : Type} {T : System τ α} {C : σ → α → Prop} {R : σ → τ → Prop}
    {silent : α → Bool}
    (hskip : ∀ s t a, R s t → C s a → silent a = true →
      ∃ s', S.step s a = some s' ∧ R s' t)
    (hboth : ∀ s t a, R s t → silent a = false → Option.Rel R (S.step s a) (T.step t a))
    {s : σ} {t : τ} {as : List α} (hmeets : S.Meets C s as) (h : R s t) :
    Option.Rel R (S.run s as) (T.run t (as.filter fun a => !silent a)) := by
  -- on the labels: silent ones move the first system alone
  induction as generalizing s t with
  | nil => exact .some h
  | cons a as ih =>
      cases hsilent : silent a with
      | true =>
          obtain ⟨s', hstep, hrel⟩ := hskip s t a h hmeets.1 hsilent
          simp only [run, hstep, List.filter_cons, hsilent, Bool.not_true, Bool.false_eq_true,
            if_false]
          exact ih (hmeets.2 s' hstep) hrel
      | false =>
          have hrel := hboth s t a h hsilent
          simp only [run, List.filter_cons, hsilent, Bool.not_false, if_true]
          cases hs : S.step s a with
          | none =>
              rw [hs] at hrel
              cases ht : T.step t a with
              | none => exact .none
              | some t' =>
                  rw [ht] at hrel
                  cases hrel
          | some s' =>
              rw [hs] at hrel
              cases ht : T.step t a with
              | none =>
                  rw [ht] at hrel
                  cases hrel
              | some t' =>
                  rw [ht] at hrel
                  cases hrel with
                  | some hrel => exact ih (hmeets.2 s' hs) hrel

/-- Every step of a run is of what occurs in it. -/
theorem Meets.of_occurs {ι : Type} {Q : ι → σ → α → Prop} {P : ι → Prop} {s : σ} {as : List α}
    (h : ∀ x, S.Occurs (Q x) s as → P x) : S.Meets (fun s a => ∀ x, Q x s a → P x) s as := by
  induction as generalizing s with
  | nil => trivial
  | cons a as ih =>
      refine ⟨fun x hx => h x (.inl hx), fun s' hstep => ?_⟩
      exact ih fun x ho => h x (.inr ⟨s', hstep, ho⟩)

/-- What every step that meets `C` keeps, a run of such steps keeps. -/
theorem Meets.run_keeps {C : σ → α → Prop} {P : σ → Prop}
    (hs : ∀ s a s', S.step s a = some s' → C s a → P s → P s') {s t : σ} {as : List α}
    (hc : S.Meets C s as) (hrun : S.run s as = some t) (hp : P s) : P t := by
  induction as generalizing s with
  | nil =>
      obtain rfl := run_nil hrun
      exact hp
  | cons a as ih =>
      obtain ⟨s', hstep, hrun⟩ := run_cons hrun
      exact ih (hc.2 s' hstep) hrun (hs s a s' hstep hc.1 hp)

end System

end AlertTriage.Library
