import AlertTriage.Library.Effects

/-!
# Two runs side by side

What one computation does from a state and another from a related one.
`Run.Agree R x y` says that they end alike, in states that are related again; it
is preserved by sequencing and by handlers, so that two runs of one program
are compared call by call.
-/

namespace AlertTriage.Library.Run

variable {ε σ α β : Type} {R : σ → σ → Prop}

/-- From states that `R` relates, the two end alike and in such states. -/
def Agree (R : σ → σ → Prop) (x y : Run ε σ α) : Prop :=
  ∀ s t, R s t → (x s).1 = (y t).1 ∧ R (x s).2 (y t).2

/-- What the one returns, the other returns too. -/
theorem Agree.returns {x y : Run ε σ α} (h : Agree R x y) {s t s' : σ} {a : α}
    (hst : R s t) (hx : x s = (.ok a, s')) :
    ∃ t', y t = (.ok a, t') ∧ R s' t' := by
  obtain ⟨hresult, hstate⟩ := h s t hst
  rw [hx] at hresult hstate
  exact ⟨(y t).2, Prod.ext hresult.symm rfl, hstate⟩

theorem Agree.pure (a : α) : Agree R (Pure.pure a : Run ε σ α) (Pure.pure a) :=
  fun _ _ h => ⟨rfl, h⟩

theorem Agree.throw (e : ε) :
    Agree R (Run.throw e : Run ε σ α) (Run.throw e) :=
  fun _ _ h => ⟨rfl, h⟩

theorem Agree.ofExcept (x : Except ε α) :
    Agree R (Run.ofExcept x : Run ε σ α) (Run.ofExcept x) := by
  cases x with
  | ok a => exact Agree.pure a
  | error e => exact Agree.throw e

theorem Agree.modify {f : σ → σ} (hf : ∀ s t, R s t → R (f s) (f t)) :
    Agree R (Run.modify f : Run ε σ Unit) (Run.modify f) :=
  fun s t h => ⟨rfl, hf s t h⟩

theorem Agree.bind {x y : Run ε σ α} {f g : α → Run ε σ β} (hx : Agree R x y)
    (hf : ∀ a, Agree R (f a) (g a)) : Agree R (x >>= f) (y >>= g) := by
  intro s t hst
  obtain ⟨hresult, hstate⟩ := hx s t hst
  rw [bind_apply, bind_apply]
  rcases hs : x s with ⟨r, s'⟩
  rcases ht : y t with ⟨r', t'⟩
  rw [hs, ht] at hresult hstate
  obtain rfl : r = r' := hresult
  cases r with
  | ok a => exact hf a s' t' hstate
  | error u => exact ⟨rfl, hstate⟩

theorem Agree.tryExcept {x y : Run ε σ α} {handler handler' : ε → Run ε σ α}
    (hx : Agree R x y) (hh : ∀ e, Agree R (handler e) (handler' e)) :
    Agree R (Run.tryExcept x handler) (Run.tryExcept y handler') := by
  intro s t hst
  obtain ⟨hresult, hstate⟩ := hx s t hst
  unfold Run.tryExcept
  rcases hs : x s with ⟨r, s'⟩
  rcases ht : y t with ⟨r', t'⟩
  rw [hs, ht] at hresult hstate
  obtain rfl : r = r' := hresult
  rcases r with (e | _) | a
  · exact hh e s' t' hstate
  · exact ⟨rfl, hstate⟩
  · exact ⟨rfl, hstate⟩

/-- A call that ends the same way on both sides and answers from what is
related. -/
theorem Agree.call {o : Outcome} {e : ε} {f : σ → σ} {ans : σ → α}
    (hf : ∀ s t, R s t → R (f s) (f t)) (hans : ∀ s t, R s t → ans s = ans t) :
    Agree R (Run.call o e f ans) (Run.call o e f ans) := by
  intro s t hst
  constructor
  · cases o with
    | returned => exact congrArg Except.ok (hans s t hst)
    | raised b => rfl
    | killed b => rfl
  · rw [call_world, call_world]
    split
    · exact hf s t hst
    · exact hst

/-- Two computations over a part of the world. -/
theorem Agree.focus {τ ε' : Type} {part : τ → σ} {put : σ → τ → τ}
    {wrap : ε → ε'} {x y : Run ε σ α} {Q : τ → τ → Prop} (hx : Agree R x y)
    (hin : ∀ s t, Q s t → R (part s) (part t))
    (hout : ∀ s t u v, Q s t → R u v → Q (put u s) (put v t)) :
    Agree Q (Run.focus part put wrap x) (Run.focus part put wrap y) := by
  intro s t hst
  obtain ⟨hresult, hstate⟩ := hx (part s) (part t) (hin s t hst)
  unfold Run.focus
  rcases hs : x (part s) with ⟨r, u⟩
  rcases ht : y (part t) with ⟨r', v⟩
  rw [hs, ht] at hresult hstate
  obtain rfl : r = r' := hresult
  rcases r with (e | _) | a
  · exact ⟨rfl, hout s t u v hst hstate⟩
  · exact ⟨rfl, hout s t u v hst hstate⟩
  · exact ⟨rfl, hout s t u v hst hstate⟩

end AlertTriage.Library.Run
