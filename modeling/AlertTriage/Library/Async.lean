import AlertTriage.Library.Effects

/-!
# Asynchronous programs

A program of an event loop as a tree: it ends, it raises, or it awaits a call
and goes on with the reply, or with the failure of the call. Between two awaits
of one program others may run, so a server is a pool of such trees over one
outside world, and a step advances one of them by one call (`resume`). A program
that nothing interrupts is `run`.

`Under A Q`: if every reply is one that `A` admits, what the program returns
meets `Q`. `Last L`: a program that returns does so on a reply that meets `L`.
Both are kept by every step (`Under.resume`, `Last.resume`), which carries a fact
about a program's text through all interleavings. `Returns A Q` says more of a
program that no failure meets: it does return. `Makes A C` is about the calls on
the way: under replies that `A` admits, every one of them meets `C`.
-/

namespace AlertTriage.Library

/-- A program with calls `κ`, whose replies are typed by `ρ`. -/
inductive Async (κ : Type) (ρ : κ → Type) (α : Type) where
  | pure (a : α)
  | raise
  | call (c : κ) (next : Option (ρ c) → Async κ ρ α)

namespace Async

variable {κ : Type} {ρ : κ → Type} {α β σ : Type}

def bind : Async κ ρ α → (α → Async κ ρ β) → Async κ ρ β
  | .pure a, f => f a
  | .raise, _ => .raise
  | .call c next, f => .call c fun r => (next r).bind f

instance : Monad (Async κ ρ) where
  pure := .pure
  bind := .bind

/-- `await`: a failed call raises. -/
def await (c : κ) : Async κ ρ (ρ c) :=
  .call c fun
    | some r => .pure r
    | none => .raise

/-- `try … catch`: what the program returns, nothing if it raised. -/
def attempt : Async κ ρ α → Async κ ρ (Option α)
  | .pure a => .pure (some a)
  | .raise => .pure none
  | .call c next => .call c fun r => (next r).attempt

/-- What the program has returned. -/
def result : Async κ ρ α → Option α
  | .pure a => some a
  | _ => none

/-- The answer of the outside world to a call, and the world after it. -/
abbrev Handler (κ : Type) (ρ : κ → Type) (σ : Type) : Type :=
  (c : κ) → σ → ρ c × σ

/-- The program without interruption. -/
def run (h : Handler κ ρ σ) : Async κ ρ α → σ → Option α × σ
  | .pure a, s => (some a, s)
  | .raise, s => (none, s)
  | .call c next, s => (next (some (h c s).1)).run h (h c s).2

/-- One call of the program. When the process dies there is nobody left to
catch anything. -/
def resume (h : Handler κ ρ σ) (o : Outcome) :
    Async κ ρ α → σ → Async κ ρ α × σ
  | .call c next, s =>
      match o with
      | .returned => (next (some (h c s).1), (h c s).2)
      | .raised applied => (next none, if applied then (h c s).2 else s)
      | .killed applied => (.raise, if applied then (h c s).2 else s)
  | x, s => (x, s)

@[simp] theorem pure_bind (a : α) (f : α → Async κ ρ β) :
    ((Pure.pure a : Async κ ρ α) >>= f) = f a := rfl

theorem run_bind (h : Handler κ ρ σ) (x : Async κ ρ α) (f : α → Async κ ρ β)
    (s : σ) :
    (x >>= f).run h s =
      match x.run h s with
      | (some a, s') => (f a).run h s'
      | (none, s') => (none, s') := by
  induction x generalizing s with
  | pure a => rfl
  | raise => rfl
  | call c next ih => exact ih _ _

@[simp] theorem run_await_bind (h : Handler κ ρ σ) (c : κ) (f : ρ c → Async κ ρ β) (s : σ) :
    (await c >>= f).run h s = (f (h c s).1).run h (h c s).2 := rfl

/-- A guarded program never raises. -/
theorem run_attempt (h : Handler κ ρ σ) (x : Async κ ρ α) (s : σ) :
    x.attempt.run h s = (some (x.run h s).1, (x.run h s).2) := by
  induction x generalizing s with
  | pure a => rfl
  | raise => rfl
  | call c next ih => exact ih _ _

/-! ## What a program returns -/

/-- Under replies that `A` admits, whatever the program returns meets `Q`. -/
def Under (A : (c : κ) → ρ c → Prop) (Q : α → Prop) : Async κ ρ α → Prop
  | .pure a => Q a
  | .raise => True
  | .call c next =>
      (next none).Under A Q ∧ ∀ r, A c r → (next (some r)).Under A Q

variable {A : (c : κ) → ρ c → Prop} {Q : α → Prop} {R : β → Prop}

theorem Under.pure {a : α} (h : Q a) : (Pure.pure a : Async κ ρ α).Under A Q := h

theorem Under.bind {x : Async κ ρ α} {f : α → Async κ ρ β} (hx : x.Under A Q)
    (hf : ∀ a, Q a → (f a).Under A R) : (x >>= f).Under A R := by
  induction x with
  | pure a => exact hf a hx
  | raise => trivial
  | call c next ih =>
      refine ⟨ih none hx.1, ?_⟩
      intro r hr
      exact ih (some r) (hx.2 r hr)

theorem Under.await {c : κ} {Q : ρ c → Prop} (h : ∀ r, A c r → Q r) :
    (Async.await c : Async κ ρ (ρ c)).Under A Q :=
  ⟨trivial, h⟩

theorem Under.attempt {x : Async κ ρ α} (hx : x.Under A Q) :
    x.attempt.Under A (fun a => ∀ b, a = some b → Q b) := by
  induction x with
  | pure a =>
      rintro b ⟨⟩
      exact hx
  | raise => exact fun b hb => by cases hb
  | call c next ih =>
      refine ⟨ih none hx.1, ?_⟩
      intro r hr
      exact ih (some r) (hx.2 r hr)

theorem Under.mono {x : Async κ ρ α} {Q' : α → Prop} (hx : x.Under A Q)
    (h : ∀ a, Q a → Q' a) : x.Under A Q' := by
  induction x with
  | pure a => exact h a hx
  | raise => trivial
  | call c next ih =>
      refine ⟨ih none hx.1, ?_⟩
      intro r hr
      exact ih (some r) (hx.2 r hr)

/-- One call with an admitted reply. -/
theorem Under.resume {h : Handler κ ρ σ} {x : Async κ ρ α} {s : σ}
    (hx : x.Under A Q) (hA : ∀ c, A c (h c s).1) (o : Outcome) :
    (x.resume h o s).1.Under A Q := by
  cases x with
  | pure a => exact hx
  | raise => trivial
  | call c next =>
      cases o with
      | returned => exact hx.2 _ (hA c)
      | raised applied => exact hx.1
      | killed applied => trivial

theorem under_true (x : Async κ ρ α) : x.Under A (fun _ => True) := by
  induction x with
  | pure a => trivial
  | raise => trivial
  | call c next ih => exact ⟨ih none, fun r _ => ih (some r)⟩

/-! ## The call that comes next -/

/-- The call that the program waits for. -/
def awaited : Async κ ρ α → Option κ
  | .call c _ => some c
  | _ => none

theorem resume_applied {h : Handler κ ρ σ} {x : Async κ ρ α} {c : κ}
    (hc : x.awaited = some c) {o : Outcome} (ho : o.applied = true) (s : σ) :
    (x.resume h o s).2 = (h c s).2 := by
  cases x with
  | pure a => cases hc
  | raise => cases hc
  | call c' next =>
      obtain rfl : c' = c := Option.some.inj hc
      cases o with
      | returned => rfl
      | raised applied =>
          obtain rfl : applied = true := ho
          rfl
      | killed applied =>
          obtain rfl : applied = true := ho
          rfl

/-- A step of a program leaves the world alone, or it does what the awaited call
does. -/
theorem resume_world (h : Handler κ ρ σ) (o : Outcome) (x : Async κ ρ α) (s : σ) :
    (x.resume h o s).2 = s ∨
      ∃ c, x.awaited = some c ∧ o.applied = true ∧ (x.resume h o s).2 = (h c s).2 := by
  cases x with
  | pure a => exact .inl rfl
  | raise => exact .inl rfl
  | call c next =>
      by_cases ho : o.applied = true
      · exact .inr ⟨c, rfl, ho, resume_applied rfl ho s⟩
      · left
        cases o with
        | returned => exact absurd rfl ho
        | raised applied =>
            obtain rfl : applied = false := Bool.not_eq_true _ ▸ ho
            rfl
        | killed applied =>
            obtain rfl : applied = false := Bool.not_eq_true _ ▸ ho
            rfl

/-! ## Programs that cannot fail -/

/-- If no call fails and every reply is one that `A` admits, the program
returns, and what it returns meets `Q`. -/
def Returns (A : (c : κ) → ρ c → Prop) (Q : α → Prop) : Async κ ρ α → Prop
  | .pure a => Q a
  | .raise => False
  | .call c next => ∀ r, A c r → (next (some r)).Returns A Q

theorem Returns.pure {a : α} (h : Q a) : (Pure.pure a : Async κ ρ α).Returns A Q := h

theorem Returns.bind {x : Async κ ρ α} {f : α → Async κ ρ β} (hx : x.Returns A Q)
    (hf : ∀ a, Q a → (f a).Returns A R) : (x >>= f).Returns A R := by
  induction x with
  | pure a => exact hf a hx
  | raise => exact hx.elim
  | call c next ih =>
      intro r hr
      exact ih (some r) (hx r hr)

theorem Returns.await {c : κ} {Q : ρ c → Prop} (h : ∀ r, A c r → Q r) :
    (Async.await c : Async κ ρ (ρ c)).Returns A Q := h

/-- Nothing is caught where nothing is raised. -/
theorem Returns.attempt {x : Async κ ρ α} (hx : x.Returns A Q) :
    x.attempt.Returns A (fun a => ∃ b, a = some b ∧ Q b) := by
  induction x with
  | pure a => exact ⟨a, rfl, hx⟩
  | raise => exact hx.elim
  | call c next ih =>
      intro r hr
      exact ih (some r) (hx r hr)

/-- One call, admitted and answered. -/
theorem Returns.resume {h : Handler κ ρ σ} {x : Async κ ρ α} {s : σ}
    (hx : x.Returns A Q) (hA : ∀ c, x.awaited = some c → A c (h c s).1) :
    (x.resume h .returned s).1.Returns A Q := by
  cases x with
  | pure a => exact hx
  | raise => exact hx
  | call c next => exact hx _ (hA c rfl)

/-- A program that waits for nothing has returned. -/
theorem Returns.of_awaited {x : Async κ ρ α} (hx : x.Returns A Q)
    (h : x.awaited = none) : ∃ a, x = .pure a ∧ Q a := by
  cases x with
  | pure a => exact ⟨a, rfl, hx⟩
  | raise => exact hx.elim
  | call c next => cases h

/-! ## The calls of a program -/

/-- Under replies that `A` admits, every call still to come meets `C`. -/
def Makes (A : (c : κ) → ρ c → Prop) (C : κ → Prop) : Async κ ρ α → Prop
  | .pure _ => True
  | .raise => True
  | .call c next =>
      C c ∧ (next none).Makes A C ∧ ∀ r, A c r → (next (some r)).Makes A C

variable {C : κ → Prop}

theorem Makes.pure (a : α) : (Pure.pure a : Async κ ρ α).Makes A C := trivial

theorem Makes.await {c : κ} (h : C c) : (Async.await c : Async κ ρ (ρ c)).Makes A C :=
  ⟨h, trivial, fun _ _ => trivial⟩

theorem Makes.bind {x : Async κ ρ α} {f : α → Async κ ρ β} (hx : x.Makes A C)
    (hf : ∀ a, (f a).Makes A C) : (x >>= f).Makes A C := by
  induction x with
  | pure a => exact hf a
  | raise => trivial
  | call c next ih =>
      refine ⟨hx.1, ih none hx.2.1, ?_⟩
      intro r hr
      exact ih (some r) (hx.2.2 r hr)

theorem Makes.mono {A' : (c : κ) → ρ c → Prop} {C' : κ → Prop} {x : Async κ ρ α}
    (hx : x.Makes A C) (hA : ∀ c r, A' c r → A c r) (hC : ∀ c, C c → C' c) :
    x.Makes A' C' := by
  induction x with
  | pure a => trivial
  | raise => trivial
  | call c next ih =>
      refine ⟨hC c hx.1, ih none hx.2.1, ?_⟩
      intro r hr
      exact ih (some r) (hx.2.2 r (hA c r hr))

/-- An awaited call, and what its admitted replies lead to. -/
theorem Makes.await_bind {c : κ} {f : ρ c → Async κ ρ β} (h : C c)
    (hf : ∀ r, A c r → (f r).Makes A C) : (Async.await c >>= f).Makes A C :=
  ⟨h, trivial, hf⟩

theorem Makes.attempt {x : Async κ ρ α} (hx : x.Makes A C) : x.attempt.Makes A C := by
  induction x with
  | pure a => trivial
  | raise => trivial
  | call c next ih =>
      refine ⟨hx.1, ih none hx.2.1, ?_⟩
      intro r hr
      exact ih (some r) (hx.2.2 r hr)

theorem Makes.resume {h : Handler κ ρ σ} {x : Async κ ρ α} {s : σ} (hx : x.Makes A C)
    (hA : ∀ c, x.awaited = some c → A c (h c s).1) (o : Outcome) :
    (x.resume h o s).1.Makes A C := by
  cases x with
  | pure a => trivial
  | raise => trivial
  | call c next =>
      cases o with
      | returned => exact hx.2.2 _ (hA c rfl)
      | raised applied => exact hx.2.1
      | killed applied => trivial

theorem Makes.of_awaited {x : Async κ ρ α} (h : x.Makes A C) {c : κ}
    (hc : x.awaited = some c) : C c := by
  cases x with
  | pure a => cases hc
  | raise => cases hc
  | call c' next =>
      obtain rfl : c' = c := Option.some.inj hc
      exact h.1

/-- **What the calls of a program keep, the program keeps.** -/
theorem Makes.run {h : Handler κ ρ σ} {x : Async κ ρ α} {s : σ} {P : σ → Prop}
    (hx : x.Makes A C) (hA : ∀ c s, A c (h c s).1)
    (hP : ∀ c s, C c → P s → P (h c s).2) (hs : P s) : P (x.run h s).2 := by
  induction x generalizing s with
  | pure a => exact hs
  | raise => exact hs
  | call c next ih => exact ih _ (hx.2.2 _ (hA c s)) (hP c s hx.1 hs)

/-! ## The last reply of a program -/

/-- Whenever the program returns, it does so on a reply that meets `L`. -/
def Last (L : (c : κ) → ρ c → Prop) : Async κ ρ α → Prop
  | .pure _ => True
  | .raise => True
  | .call c next =>
      ((next none).Last L ∧ (next none).result = none) ∧
        ∀ r, (next (some r)).Last L ∧ ((next (some r)).result ≠ none → L c r)

variable {L : (c : κ) → ρ c → Prop}

/-- One call keeps the property, and where it ends the program the reply met
`L`. -/
theorem Last.resume {h : Handler κ ρ σ} {x : Async κ ρ α} {s : σ} (hx : x.Last L)
    (o : Outcome) :
    (x.resume h o s).1.Last L ∧
      (x.result = none → (x.resume h o s).1.result ≠ none →
        o = .returned ∧ ∃ c next, x = .call c next ∧ L c (h c s).1) := by
  cases x with
  | pure a => exact ⟨hx, fun hnone => by cases hnone⟩
  | raise => exact ⟨hx, fun _ hsome => absurd rfl hsome⟩
  | call c next =>
      cases o with
      | returned =>
          obtain ⟨hlast, hend⟩ := hx.2 (h c s).1
          exact ⟨hlast, fun _ hsome => ⟨rfl, c, next, rfl, hend hsome⟩⟩
      | raised applied => exact ⟨hx.1.1, fun _ hsome => absurd hx.1.2 hsome⟩
      | killed applied => exact ⟨trivial, fun _ hsome => absurd rfl hsome⟩

end Async

end AlertTriage.Library
