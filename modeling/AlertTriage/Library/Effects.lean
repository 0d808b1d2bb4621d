import Mathlib.Tactic.Common

/-!
# Computations that call outside systems

A state-passing computation with exceptions, for programs whose steps are
awaited calls to stores and brokers. Two things matter to such a program and
are kept apart here:

- a call that raised may still have taken effect at the far end
  (`Outcome.raised true`: the reply was lost, the write was not);
- a handler for exceptions does not catch the death of the process
  (`Unwind.kill`), which leaves the effects made so far in place.

The state survives an unwinding, as the outside world does.
-/

namespace AlertTriage.Library

/-- How one awaited call ended, for the caller and at the far end. -/
inductive Outcome where
  | returned
  | raised (applied : Bool)
  | killed (applied : Bool)
deriving DecidableEq, Repr

/-- The call took effect at the far end, whatever the caller saw. -/
def Outcome.applied : Outcome → Bool
  | .returned => true
  | .raised b => b
  | .killed b => b

/-- The process died in the call. -/
def Outcome.kills : Outcome → Bool
  | .killed _ => true
  | _ => false

/-- What unwinds a computation: an exception of the program, which handlers
see, or the end of the process, which they do not. -/
inductive Unwind (ε : Type) where
  | exception (e : ε)
  | kill
deriving DecidableEq, Repr

/-- A computation over an outside world `σ` with exceptions `ε`. -/
abbrev Run (ε σ α : Type) : Type := σ → Except (Unwind ε) α × σ

namespace Run

variable {ε σ α β : Type}

instance : Monad (Run ε σ) where
  pure a := fun s => (.ok a, s)
  bind x f := fun s =>
    match x s with
    | (.ok a, s') => f a s'
    | (.error e, s') => (.error e, s')

@[simp] theorem pure_apply (a : α) (s : σ) :
    (pure a : Run ε σ α) s = (.ok a, s) := rfl

theorem bind_apply (x : Run ε σ α) (f : α → Run ε σ β) (s : σ) :
    (x >>= f) s =
      match x s with
      | (.ok a, s') => f a s'
      | (.error e, s') => (.error e, s') := rfl

/-- A computation that returned hands its value to the rest. -/
theorem bind_ok {x : Run ε σ α} {f : α → Run ε σ β} {s s' : σ} {a : α}
    (h : x s = (.ok a, s')) : (x >>= f) s = f a s' := by
  rw [bind_apply, h]

/-- A computation that unwound skips the rest. -/
theorem bind_error {x : Run ε σ α} {f : α → Run ε σ β} {s s' : σ}
    {e : Unwind ε} (h : x s = (.error e, s')) :
    (x >>= f) s = (.error e, s') := by
  rw [bind_apply, h]

/-- What a computation that returned went through. -/
theorem bind_eq_ok {x : Run ε σ α} {f : α → Run ε σ β} {s s' : σ} {b : β}
    (h : (x >>= f) s = (.ok b, s')) :
    ∃ a s₁, x s = (.ok a, s₁) ∧ f a s₁ = (.ok b, s') := by
  rw [bind_apply] at h
  rcases hx : x s with ⟨r, s₁⟩
  rw [hx] at h
  cases r with
  | ok a => exact ⟨a, s₁, rfl, h⟩
  | error u => exact absurd (congrArg Prod.fst h) (by simp)

/-- What a computation returns from two states, if neither half tells them apart. -/
theorem bind_fst_congr {x : Run ε σ α} {f : α → Run ε σ β} {s s' : σ}
    (hx : (x s).1 = (x s').1) (hf : ∀ a t t', (f a t).1 = (f a t').1) :
    ((x >>= f) s).1 = ((x >>= f) s').1 := by
  rw [bind_apply, bind_apply]
  rcases h : x s with ⟨r, t⟩
  rcases h' : x s' with ⟨r', t'⟩
  rw [h, h'] at hx
  obtain rfl : r = r' := hx
  cases r with
  | ok a => exact hf a t t'
  | error u => rfl

/-- Raise an exception of the program. -/
def throw (e : ε) : Run ε σ α := fun s => (.error (.exception e), s)

@[simp] theorem throw_apply (e : ε) (s : σ) :
    (throw e : Run ε σ α) s = (.error (.exception e), s) := rfl

/-- A pure step that may raise. -/
def ofExcept : Except ε α → Run ε σ α
  | .ok a => pure a
  | .error e => throw e

/-- Read the world. -/
def get : Run ε σ σ := fun s => (.ok s, s)

@[simp] theorem get_apply (s : σ) : (get : Run ε σ σ) s = (.ok s, s) := rfl

/-- Change the world without calling outside. -/
def modify (f : σ → σ) : Run ε σ Unit := fun s => (.ok (), f s)

@[simp] theorem modify_apply (f : σ → σ) (s : σ) :
    (modify f : Run ε σ Unit) s = (.ok (), f s) := rfl

/-- `try x except Exception: handler`. A kill passes through. -/
def tryExcept (x : Run ε σ α) (handler : ε → Run ε σ α) : Run ε σ α := fun s =>
  match x s with
  | (.error (.exception e), s') => handler e s'
  | r => r

theorem tryExcept_ok {x : Run ε σ α} {handler : ε → Run ε σ α} {s s' : σ} {a : α}
    (h : x s = (.ok a, s')) : tryExcept x handler s = (.ok a, s') := by
  unfold tryExcept
  rw [h]

theorem tryExcept_exception {x : Run ε σ α} {handler : ε → Run ε σ α} {s s' : σ} {e : ε}
    (h : x s = (.error (.exception e), s')) : tryExcept x handler s = handler e s' := by
  unfold tryExcept
  rw [h]

theorem tryExcept_kill {x : Run ε σ α} {handler : ε → Run ε σ α} {s s' : σ}
    (h : x s = (.error .kill, s')) : tryExcept x handler s = (.error .kill, s') := by
  unfold tryExcept
  rw [h]

/-- What a guarded computation returned, it returned itself or its handler did. -/
theorem tryExcept_eq_ok {x : Run ε σ α} {handler : ε → Run ε σ α} {s s' : σ} {a : α}
    (h : tryExcept x handler s = (.ok a, s')) :
    x s = (.ok a, s') ∨
      ∃ e s₁, x s = (.error (.exception e), s₁) ∧ handler e s₁ = (.ok a, s') := by
  unfold tryExcept at h
  split at h
  · rename_i e s₁ hx
    exact .inr ⟨e, s₁, hx, h⟩
  · exact .inl h

/-- `try x finally last`: `last` also runs after an exception, and its own
exception replaces that one. Nothing runs after a kill. -/
def tryFinally (x : Run ε σ α) (last : Run ε σ Unit) : Run ε σ α := fun s =>
  match x s with
  | (.error .kill, s') => (.error .kill, s')
  | (r, s') =>
    match last s' with
    | (.ok (), s'') => (r, s'')
    | (.error e, s'') => (.error e, s'')

/-- One outside call: it ends as `o` says, its effect is `f` and its answer is
read by `ans` from the world it took effect in. -/
def call (o : Outcome) (e : ε) (f : σ → σ) (ans : σ → α) : Run ε σ α := fun s =>
  match o with
  | .returned => (.ok (ans s), f s)
  | .raised b => (.error (.exception e), if b then f s else s)
  | .killed b => (.error .kill, if b then f s else s)

/-- Whatever the caller sees, the world after a call depends on whether it was
applied and on nothing else. -/
theorem call_world (o : Outcome) (e : ε) (f : σ → σ) (ans : σ → α) (s : σ) :
    (call o e f ans s).2 = if o.applied then f s else s := by
  cases o with
  | returned => rfl
  | raised b => cases b <;> rfl
  | killed b => cases b <;> rfl

/-- **A guarded call**: with every exception turned into the answer `b`, a
call followed by a pure answer `a` gives one or the other unless the process
dies, and its effect is there or not. -/
theorem tryExcept_call (o : Outcome) (e : ε) (f : σ → σ) (ans : σ → β)
    (a b : α) (s : σ) :
    tryExcept (call o e f ans >>= fun _ => (pure a : Run ε σ α))
        (fun _ => pure b) s =
      (if o.kills then .error .kill
        else .ok (if o = .returned then a else b),
        if o.applied then f s else s) := by
  cases o with
  | returned => rfl
  | raised c => cases c <;> rfl
  | killed c => cases c <;> rfl

theorem tryExcept_call_unit (o : Outcome) (e : ε) (f : σ → σ) (s : σ) :
    tryExcept (call o e f fun _ => ()) (fun _ => (pure () : Run ε σ Unit)) s =
      (if o.kills then .error .kill else .ok (),
        if o.applied then f s else s) := by
  cases o with
  | returned => rfl
  | raised c => cases c <;> rfl
  | killed c => cases c <;> rfl

/-- A computation over a part of the world, its exceptions renamed. -/
def focus {τ ε' : Type} (part : τ → σ) (put : σ → τ → τ) (wrap : ε → ε')
    (x : Run ε σ α) : Run ε' τ α := fun t =>
  match x (part t) with
  | (.ok a, s) => (.ok a, put s t)
  | (.error (.exception e), s) => (.error (.exception (wrap e)), put s t)
  | (.error .kill, s) => (.error .kill, put s t)

theorem focus_ok {τ ε' : Type} {part : τ → σ} {put : σ → τ → τ} {wrap : ε → ε'}
    {x : Run ε σ α} {t : τ} {a : α} {s : σ} (h : x (part t) = (.ok a, s)) :
    focus part put wrap x t = (.ok a, put s t) := by
  unfold focus
  rw [h]

theorem focus_eq_ok {τ ε' : Type} {part : τ → σ} {put : σ → τ → τ}
    {wrap : ε → ε'} {x : Run ε σ α} {t t' : τ} {a : α}
    (h : focus part put wrap x t = (.ok a, t')) :
    ∃ s, x (part t) = (.ok a, s) ∧ t' = put s t := by
  unfold focus at h
  rcases hx : x (part t) with ⟨r, s⟩
  rw [hx] at h
  rcases r with (e | _) | b
  · exact absurd (congrArg Prod.fst h) (by simp)
  · exact absurd (congrArg Prod.fst h) (by simp)
  · obtain ⟨hb, ht⟩ := Prod.mk.inj h
    obtain rfl := Except.ok.inj hb
    exact ⟨s, rfl, ht.symm⟩

/-- A property of the world that `x` keeps, however it ends. -/
def Keeps (P : σ → Prop) (x : Run ε σ α) : Prop := ∀ s, P s → P (x s).2

variable {P : σ → Prop}

/-- What is kept holds of the world that a computation leaves. -/
theorem Keeps.result {x : Run ε σ α} (h : Keeps P x) {s s' : σ} {r : Except (Unwind ε) α}
    (hs : P s) (hx : x s = (r, s')) : P s' := by
  have hkept := h s hs
  rwa [hx] at hkept

theorem Keeps.pure (a : α) : Keeps P (Pure.pure a : Run ε σ α) := fun _ h => h

theorem Keeps.throw (e : ε) : Keeps P (Run.throw e : Run ε σ α) := fun _ h => h

theorem Keeps.ofExcept (x : Except ε α) :
    Keeps P (Run.ofExcept x : Run ε σ α) := by
  cases x with
  | ok a => exact Keeps.pure a
  | error e => exact Keeps.throw e

theorem Keeps.get : Keeps P (Run.get : Run ε σ σ) := fun _ h => h

theorem Keeps.modify {f : σ → σ} (hf : ∀ s, P s → P (f s)) :
    Keeps P (Run.modify f : Run ε σ Unit) := hf

theorem Keeps.bind {x : Run ε σ α} {f : α → Run ε σ β} (hx : Keeps P x)
    (hf : ∀ a, Keeps P (f a)) : Keeps P (x >>= f) := by
  intro s hs
  have hxs := hx s hs
  rw [bind_apply]
  rcases hr : x s with ⟨r, s'⟩
  rw [hr] at hxs
  cases r with
  | ok a => exact hf a s' hxs
  | error e => exact hxs

theorem Keeps.tryExcept {x : Run ε σ α} {handler : ε → Run ε σ α}
    (hx : Keeps P x) (hh : ∀ e, Keeps P (handler e)) :
    Keeps P (Run.tryExcept x handler) := by
  intro s hs
  have hxs := hx s hs
  unfold Run.tryExcept
  rcases hr : x s with ⟨r, s'⟩
  rw [hr] at hxs
  cases r with
  | ok a => exact hxs
  | error u =>
      cases u with
      | exception e => exact hh e s' hxs
      | kill => exact hxs

theorem Keeps.tryFinally {x : Run ε σ α} {last : Run ε σ Unit}
    (hx : Keeps P x) (hl : Keeps P last) : Keeps P (Run.tryFinally x last) := by
  intro s hs
  have hxs := hx s hs
  unfold Run.tryFinally
  rcases hr : x s with ⟨r, s'⟩
  rw [hr] at hxs
  have hls := hl s' hxs
  cases r with
  | ok a =>
      rcases hq : last s' with ⟨_ | _, s''⟩ <;>
        simpa only [hq] using hls
  | error u =>
      cases u with
      | exception e =>
          rcases hq : last s' with ⟨_ | _, s''⟩ <;>
            simpa only [hq] using hls
      | kill => exact hxs

theorem Keeps.call {o : Outcome} {e : ε} {f : σ → σ} {ans : σ → α}
    (hf : ∀ s, P s → P (f s)) : Keeps P (Run.call o e f ans) := by
  intro s hs
  rw [call_world]
  split
  · exact hf s hs
  · exact hs

/-- A part is changed within what may be said of the whole. -/
theorem Keeps.focus {τ ε' : Type} {part : τ → σ} {put : σ → τ → τ}
    {wrap : ε → ε'} {x : Run ε σ α} {Q : τ → Prop} (hx : Keeps P x)
    (hin : ∀ t, Q t → P (part t)) (hout : ∀ t s, Q t → P s → Q (put s t)) :
    Keeps Q (Run.focus part put wrap x) := by
  intro t ht
  have hxs := hx (part t) (hin t ht)
  unfold Run.focus
  rcases hr : x (part t) with ⟨(e | _) | a, s⟩
  · rw [hr] at hxs
    exact hout t s ht hxs
  · rw [hr] at hxs
    exact hout t s ht hxs
  · rw [hr] at hxs
    exact hout t s ht hxs

/-- Every answer that `x` returns meets `Q`. -/
def Returns (Q : α → Prop) (x : Run ε σ α) : Prop :=
  ∀ s a s', x s = (.ok a, s') → Q a

theorem Returns.pure {Q : α → Prop} {a : α} (h : Q a) :
    Returns Q (Pure.pure a : Run ε σ α) := by
  intro s b s' hx
  obtain rfl : a = b := by simpa using (Prod.ext_iff.mp hx).1
  exact h

theorem Returns.ofExcept (x : Except ε α) :
    Returns (fun a => x = .ok a) (Run.ofExcept x : Run ε σ α) := by
  cases x with
  | ok a => exact Returns.pure rfl
  | error e => exact fun s b s' hx => by cases (Prod.ext_iff.mp hx).1

theorem Returns.bind {Q : α → Prop} {R : β → Prop} {x : Run ε σ α}
    {f : α → Run ε σ β} (hx : Returns Q x) (hf : ∀ a, Q a → Returns R (f a)) :
    Returns R (x >>= f) := by
  intro s b s' h
  obtain ⟨a, s₁, ha, hb⟩ := bind_eq_ok h
  exact hf a (hx s a s₁ ha) s₁ b s' hb

theorem Returns.tryExcept {Q : α → Prop} {x : Run ε σ α} {handler : ε → Run ε σ α}
    (hx : Returns Q x) (hh : ∀ e, Returns Q (handler e)) :
    Returns Q (Run.tryExcept x handler) := by
  intro s a s' h
  rcases tryExcept_eq_ok h with h | ⟨e, s₁, -, h⟩
  · exact hx s a s' h
  · exact hh e s₁ a s' h

/-- What follows may count on what was returned. -/
theorem Keeps.bind_returns {Q : α → Prop} {x : Run ε σ α} {f : α → Run ε σ β}
    (hx : Keeps P x) (hq : Returns Q x) (hf : ∀ a, Q a → Keeps P (f a)) :
    Keeps P (x >>= f) := by
  intro s hs
  have hxs := hx s hs
  rw [bind_apply]
  rcases hr : x s with ⟨r, s'⟩
  rw [hr] at hxs
  cases r with
  | ok a => exact hf a (hq s a s' hr) s' hxs
  | error e => exact hxs

/-- Every exception that `x` raises meets `E`. -/
def Raises (E : ε → Prop) (x : Run ε σ α) : Prop :=
  ∀ s e s', x s = (.error (.exception e), s') → E e

variable {E : ε → Prop}

theorem Raises.pure (a : α) : Raises E (Pure.pure a : Run ε σ α) := by
  intro s e s' h
  simp at h

theorem Raises.throw {e : ε} (h : E e) : Raises E (Run.throw e : Run ε σ α) := by
  intro s e' s' hx
  obtain rfl : e = e' := by simpa using (Prod.ext_iff.mp hx).1
  exact h

theorem Raises.modify (f : σ → σ) : Raises E (Run.modify f : Run ε σ Unit) := by
  intro s e s' h
  simp at h

theorem Raises.bind {x : Run ε σ α} {f : α → Run ε σ β} (hx : Raises E x)
    (hf : ∀ a, Raises E (f a)) : Raises E (x >>= f) := by
  intro s e s' h
  rw [bind_apply] at h
  rcases hr : x s with ⟨r, s1⟩
  rw [hr] at h
  cases r with
  | ok a => exact hf a s1 e s' h
  | error u =>
      obtain rfl : u = .exception e := by simpa using (Prod.ext_iff.mp h).1
      exact hx s e s1 hr

/-- Exceptions are those of the handlers. -/
theorem Raises.tryExcept {x : Run ε σ α} {handler : ε → Run ε σ α}
    (hh : ∀ e, Raises E (handler e)) : Raises E (Run.tryExcept x handler) := by
  intro s e s' h
  unfold Run.tryExcept at h
  split at h
  · rename_i e1 s1 _
    exact hh e1 s1 e s' h
  · rename_i hno
    exact absurd h (hno e s')

theorem Raises.call {o : Outcome} {e : ε} {f : σ → σ} {ans : σ → α} (h : E e) :
    Raises E (Run.call o e f ans) := by
  intro s e' s' hx
  cases o with
  | returned => simp [Run.call] at hx
  | raised b =>
      obtain rfl : e = e' := by simpa [Run.call] using (Prod.ext_iff.mp hx).1
      exact h
  | killed b => simp [Run.call] at hx

end Run

end AlertTriage.Library
