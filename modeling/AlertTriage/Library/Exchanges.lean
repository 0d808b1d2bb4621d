import AlertTriage.Library.Async

/-!
# What a program makes of its replies

A client program asks outside systems one question after another, and a question may go
wrong: no reply comes, or the reply is a refusal. Three things are said of all its possible
exchanges at once.

`Ends x rs a`: with the replies `rs`, the program `x` asks just these questions and returns
`a`. `Gives Q x`: whatever the replies, what the program returns meets `Q`. `Heeds bad Q x`:
once a reply is `bad`, whatever comes after it, the program gives `Q`. So a program that heeds
its replies cannot lose a bad one on the way to its result (`Heeds.ends`).

For programs that throw exceptions of their own, `Yields Q` is about what they return where
they do, and `Reveals bad B` about what a bad reply becomes: an exception, or a result with
`B`. A program that `Stops` turns it into an exception always, and a `try` around it decides
what to make of that.
-/

namespace AlertTriage.Library.Async

variable {κ : Type} {ρ : κ → Type} {α β ε : Type}

/-- A question with the reply to it, if any came. -/
abbrev Answered (κ : Type) (ρ : κ → Type) : Type := (c : κ) × Option (ρ c)

inductive Ends : Async κ ρ α → List (Answered κ ρ) → α → Prop where
  | pure (a : α) : Ends (.pure a) [] a
  | call {c : κ} {next : Option (ρ c) → Async κ ρ α} {r : Option (ρ c)}
      {rs : List (Answered κ ρ)} {a : α} :
      Ends (next r) rs a → Ends (.call c next) (⟨c, r⟩ :: rs) a

/-- The exchange of two programs in a row is one after the other. -/
theorem Ends.of_bind {x : Async κ ρ α} {f : α → Async κ ρ β} {rs : List (Answered κ ρ)} {b : β}
    (h : Ends (x >>= f) rs b) :
    ∃ rs₁ a rs₂, rs = rs₁ ++ rs₂ ∧ Ends x rs₁ a ∧ Ends (f a) rs₂ b := by
  induction x generalizing rs with
  | pure a => exact ⟨[], a, rs, rfl, .pure a, h⟩
  | raise => cases h
  | call c next ih =>
      change Ends (Async.call c fun r => next r >>= f) rs b at h
      cases h with
      | call h =>
          obtain ⟨rs₁, a, rs₂, rfl, hx, hf⟩ := ih _ h
          exact ⟨_ :: rs₁, a, rs₂, rfl, .call hx, hf⟩

/-- Under all replies. -/
abbrev Gives (Q : α → Prop) (x : Async κ ρ α) : Prop := x.Under (fun _ _ => True) Q

def Heeds (bad : (c : κ) → Option (ρ c) → Prop) (Q : α → Prop) : Async κ ρ α → Prop
  | .pure _ => True
  | .raise => True
  | .call c next => ∀ r, (bad c r → (next r).Gives Q) ∧ (next r).Heeds bad Q

variable {bad : (c : κ) → Option (ρ c) → Prop} {P Q : α → Prop} {R : β → Prop}

theorem Gives.next {c : κ} {next : Option (ρ c) → Async κ ρ α}
    (h : (Async.call c next).Gives Q) (r : Option (ρ c)) : (next r).Gives Q := by
  cases r with
  | none => exact h.1
  | some r => exact h.2 r trivial

theorem Gives.ends {x : Async κ ρ α} (hx : x.Gives Q) {rs : List (Answered κ ρ)} {a : α}
    (h : Ends x rs a) : Q a := by
  induction h with
  | pure a => exact hx
  | call _ ih => exact ih (Gives.next hx _)

theorem Heeds.imp {x : Async κ ρ α} (hx : x.Heeds bad P) (h : ∀ a, P a → Q a) :
    x.Heeds bad Q := by
  induction x with
  | pure a => trivial
  | raise => trivial
  | call c next ih => exact fun r => ⟨fun hr => ((hx r).1 hr).mono h, ih r (hx r).2⟩

/-- A bad reply in the first part is one that the rest cannot undo. -/
theorem Heeds.bind {x : Async κ ρ α} {f : α → Async κ ρ β} (hx : x.Heeds bad P)
    (hbad : ∀ a, P a → (f a).Gives R) (hf : ∀ a, (f a).Heeds bad R) :
    (x >>= f).Heeds bad R := by
  induction x with
  | pure a => exact hf a
  | raise => trivial
  | call c next ih =>
      intro r
      exact ⟨fun hr => ((hx r).1 hr).bind hbad, ih r (hx r).2⟩

/-- **A bad reply shows** in what the program returns. -/
theorem Heeds.ends {x : Async κ ρ α} (hx : x.Heeds bad Q) {rs : List (Answered κ ρ)} {a : α}
    (h : Ends x rs a) {c : κ} {r : Option (ρ c)} (hr : ⟨c, r⟩ ∈ rs) (hbad : bad c r) :
    Q a := by
  induction h with
  | pure a => cases hr
  | call hrest ih =>
      rcases List.mem_cons.mp hr with heq | hr
      · obtain ⟨rfl, heq⟩ := Sigma.mk.inj heq
        obtain rfl := eq_of_heq heq
        exact ((hx _).1 hbad).ends hrest
      · exact ih (hx _).2 hr

/-! ## Programs that throw -/

/-- Whatever the replies, the program throws or returns what meets `Q`. -/
def Yields (Q : α → Prop) (x : ExceptT ε (Async κ ρ) α) : Prop :=
  Gives (fun r : Except ε α => ∀ a, r = .ok a → Q a) x

theorem Yields.pure {a : α} (h : Q a) : Yields Q (Pure.pure a : ExceptT ε (Async κ ρ) α) := by
  rintro b hb
  obtain rfl := Except.ok.inj hb
  exact h

theorem Yields.throw (e : ε) : Yields Q (throw e : ExceptT ε (Async κ ρ) α) := by
  rintro b hb
  cases hb

theorem Yields.bind {x : ExceptT ε (Async κ ρ) α} {f : α → ExceptT ε (Async κ ρ) β}
    (hx : Yields P x) (hf : ∀ a, P a → Yields R (f a)) : Yields R (x >>= f) := by
  refine Under.bind hx fun r hr => ?_
  cases r with
  | ok a => exact hf a (hr a rfl)
  | error e =>
      rintro b hb
      cases hb

/-- Nothing is asked of what the first part returns. -/
theorem Yields.after {x : ExceptT ε (Async κ ρ) α} {f : α → ExceptT ε (Async κ ρ) β}
    (hf : ∀ a, Yields R (f a)) : Yields R (x >>= f) :=
  Yields.bind (P := fun _ => True) (Under.mono (under_true x) fun _ _ _ _ => trivial) fun a _ =>
    hf a

theorem Yields.imp {x : ExceptT ε (Async κ ρ) α} (hx : Yields P x) (h : ∀ a, P a → Q a) :
    Yields Q x :=
  Under.mono hx fun _ hr a ha => h a (hr a ha)

theorem Yields.ends {x : ExceptT ε (Async κ ρ) α} (hx : Yields Q x)
    {rs : List (Answered κ ρ)} {a : α} (h : Ends x rs (.ok a)) : Q a :=
  Gives.ends hx h a rfl

/-- One question, with an exception for some of its replies. -/
def ask (c : κ) (f : Option (ρ c) → Except ε α) : ExceptT ε (Async κ ρ) α :=
  ExceptT.mk (Async.call c fun r => Async.pure (f r))

theorem ends_ask {c : κ} {f : Option (ρ c) → Except ε α} {rs : List (Answered κ ρ)}
    {r : Except ε α} (h : Ends (ask c f) rs r) : ∃ reply, rs = [⟨c, reply⟩] ∧ r = f reply := by
  cases h with
  | call h =>
      cases h
      exact ⟨_, rfl, rfl⟩

theorem ends_pure {a : α} {rs : List (Answered κ ρ)} {r : Except ε α}
    (h : Ends (Pure.pure a : ExceptT ε (Async κ ρ) α) rs r) : rs = [] ∧ r = .ok a := by
  cases h
  exact ⟨rfl, rfl⟩

theorem ends_throw {e : ε} {rs : List (Answered κ ρ)} {r : Except ε α}
    (h : Ends (throw e : ExceptT ε (Async κ ρ) α) rs r) : rs = [] ∧ r = .error e := by
  cases h
  exact ⟨rfl, rfl⟩

/-- Of two programs in a row that return, both return. -/
theorem ends_bind {x : ExceptT ε (Async κ ρ) α} {f : α → ExceptT ε (Async κ ρ) β}
    {rs : List (Answered κ ρ)} {b : β}
    (h : Ends (x >>= f : ExceptT ε (Async κ ρ) β) rs (.ok b)) :
    ∃ rs₁ a rs₂, rs = rs₁ ++ rs₂ ∧ Ends x rs₁ (.ok a) ∧ Ends (f a) rs₂ (.ok b) := by
  obtain ⟨rs₁, r, rs₂, rfl, hx, hf⟩ := Ends.of_bind h
  cases r with
  | ok a => exact ⟨rs₁, a, rs₂, rfl, hx, hf⟩
  | error e => cases hf

/-- A bad reply becomes an exception, or something of which `B` is true. -/
def Reveals (bad : (c : κ) → Option (ρ c) → Prop) (B : α → Prop)
    (x : ExceptT ε (Async κ ρ) α) : Prop :=
  Heeds bad (fun r : Except ε α => ∀ a, r = .ok a → B a) x

/-- At a bad reply the program throws. -/
abbrev Stops (bad : (c : κ) → Option (ρ c) → Prop) (x : ExceptT ε (Async κ ρ) α) : Prop :=
  Reveals bad (fun _ => False) x

theorem Reveals.pure (a : α) : Reveals bad P (Pure.pure a : ExceptT ε (Async κ ρ) α) := trivial

theorem Reveals.throw (e : ε) : Reveals bad P (throw e : ExceptT ε (Async κ ρ) α) := trivial

theorem Reveals.bind {x : ExceptT ε (Async κ ρ) α} {f : α → ExceptT ε (Async κ ρ) β}
    (hx : Reveals bad P x) (hbad : ∀ a, P a → Yields R (f a)) (hf : ∀ a, Reveals bad R (f a)) :
    Reveals bad R (x >>= f) := by
  refine Heeds.bind hx ?_ ?_
  · intro r hr
    cases r with
    | ok a => exact hbad a (hr a rfl)
    | error e =>
        rintro b hb
        cases hb
  · intro r
    cases r with
    | ok a => exact hf a
    | error e => trivial

theorem Reveals.imp {x : ExceptT ε (Async κ ρ) α} (hx : Reveals bad P x) (h : ∀ a, P a → Q a) :
    Reveals bad Q x :=
  Heeds.imp hx fun _ hr a ha => h a (hr a ha)

/-- Where the first part stops, nothing follows. -/
theorem Stops.bind {x : ExceptT ε (Async κ ρ) α} {f : α → ExceptT ε (Async κ ρ) β}
    (hx : Stops bad x) (hf : ∀ a, Reveals bad R (f a)) : Reveals bad R (x >>= f) :=
  Reveals.bind hx (fun _ h => h.elim) hf

theorem Reveals.ask {c : κ} {f : Option (ρ c) → Except ε α}
    (h : ∀ r, bad c r → ∀ a, f r = .ok a → P a) : Reveals bad P (ask c f) := by
  intro r
  exact ⟨fun hr a ha => h r hr a ha, trivial⟩

/-- **A bad reply is not lost** by a program that returns. -/
theorem Reveals.ends {x : ExceptT ε (Async κ ρ) α} (hx : Reveals bad Q x)
    {rs : List (Answered κ ρ)} {a : α} (h : Ends x rs (.ok a)) {c : κ} {r : Option (ρ c)}
    (hr : ⟨c, r⟩ ∈ rs) (hbad : bad c r) : Q a :=
  Heeds.ends hx h hr hbad a rfl

/-- `try`: what the program returns or throws, as a value. -/
def caught (x : ExceptT ε (Async κ ρ) α) : ExceptT ε (Async κ ρ) (Except ε α) :=
  ExceptT.mk (Bind.bind (m := Async κ ρ) x fun r => Async.pure (.ok r))

theorem ends_caught {x : ExceptT ε (Async κ ρ) α} {rs : List (Answered κ ρ)} {r : Except ε α}
    (h : Ends (caught x) rs (.ok r)) : Ends x rs r := by
  obtain ⟨rs₁, r', rs₂, rfl, hx, hpure⟩ := Ends.of_bind h
  cases hpure
  rwa [List.append_nil]

theorem Yields.caught {x : ExceptT ε (Async κ ρ) α} (hx : Yields P x) :
    Yields (fun r => ∀ a, r = .ok a → P a) (caught x) := by
  refine Under.bind hx fun r hr => ?_
  rintro b hb
  obtain rfl := Except.ok.inj hb
  exact hr

theorem Reveals.caught {x : ExceptT ε (Async κ ρ) α} (hx : Reveals bad P x) :
    Reveals bad (fun r => ∀ a, r = .ok a → P a) (caught x) := by
  refine Heeds.bind hx ?_ ?_
  · rintro r hr b hb
    obtain rfl := Except.ok.inj hb
    exact hr
  · exact fun _ => trivial

end AlertTriage.Library.Async
