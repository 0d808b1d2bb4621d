import Mathlib.Order.Basic
import AlertTriage.Library.Async

/-!
# Programs in a world that grows

A record of facts that are only ever added: who asked, what was found, what was
signed. Between two calls of a program others run, and more facts come in. A reply
is trusted for what it says about the facts at hand when it arrives; a call, and the
value that is returned, are to be justified by the facts at hand when they are made.

`Always A C Q x f`: from the facts `f` on, however they grow, if each reply is one
that `A` admits then every call of `x` meets `C` and what `x` returns meets `Q`.
Growth never hurts it (`Always.mono`), and one call of the program keeps it
(`Always.resume`), so a pool of such programs stays one under every interleaving.

A program over some of the calls of a larger one is `embed`ded into it.
-/

namespace AlertTriage.Library.Async

variable {φ κ κ' : Type} {ρ : κ → Type} {ρ' : κ' → Type} {α β σ : Type} [Preorder φ]

def Always (A : φ → (c : κ) → ρ c → Prop) (C : φ → κ → Prop) (Q : φ → α → Prop) :
    Async κ ρ α → φ → Prop
  | .pure a, f => ∀ g, f ≤ g → Q g a
  | .raise, _ => True
  | .call c next, f => ∀ g, f ≤ g →
      C g c ∧ (next none).Always A C Q g ∧ ∀ r, A g c r → (next (some r)).Always A C Q g

variable {A : φ → (c : κ) → ρ c → Prop} {C : φ → κ → Prop} {Q : φ → α → Prop}
  {R : φ → β → Prop} {f g : φ}

/-- What holds from some facts on holds from all later ones on. -/
theorem Always.mono {x : Async κ ρ α} (hx : x.Always A C Q f) (hfg : f ≤ g) :
    x.Always A C Q g := by
  cases x with
  | pure a => exact fun k hk => hx k (hfg.trans hk)
  | raise => trivial
  | call c next => exact fun k hk => hx k (hfg.trans hk)

theorem Always.pure {a : α} (h : ∀ g, f ≤ g → Q g a) :
    (Pure.pure a : Async κ ρ α).Always A C Q f := h

theorem Always.await {c : κ} {Q : φ → ρ c → Prop} (hC : ∀ g, f ≤ g → C g c)
    (hQ : ∀ g, f ≤ g → ∀ r, A g c r → ∀ k, g ≤ k → Q k r) :
    (Async.await c : Async κ ρ (ρ c)).Always A C Q f :=
  fun g hg => ⟨hC g hg, trivial, hQ g hg⟩

theorem Always.bind {x : Async κ ρ α} {k : α → Async κ ρ β} (hx : x.Always A C Q f)
    (hk : ∀ g, f ≤ g → ∀ a, Q g a → (k a).Always A C R g) :
    (x >>= k).Always A C R f := by
  induction x generalizing f with
  | pure a => exact hk f le_rfl a (hx f le_rfl)
  | raise => trivial
  | call c next ih =>
      intro g hg
      obtain ⟨hC, hnone, hsome⟩ := hx g hg
      have hlater : ∀ g', g ≤ g' → ∀ a, Q g' a → (k a).Always A C R g' :=
        fun g' hg' => hk g' (hg.trans hg')
      refine ⟨hC, ih none hnone hlater, ?_⟩
      intro r hr
      exact ih (some r) (hsome r hr) hlater

/-- An awaited call, and what its admitted replies lead to. -/
theorem Always.await_bind {c : κ} {k : ρ c → Async κ ρ β} (hC : ∀ g, f ≤ g → C g c)
    (hk : ∀ g, f ≤ g → ∀ r, A g c r → (k r).Always A C R g) :
    (Async.await c >>= k).Always A C R f :=
  fun g hg => ⟨hC g hg, trivial, hk g hg⟩

theorem Always.attempt {x : Async κ ρ α} (hx : x.Always A C Q f) :
    x.attempt.Always A C (fun g o => ∀ a, o = some a → Q g a) f := by
  induction x generalizing f with
  | pure a =>
      rintro g hg b ⟨⟩
      exact hx g hg
  | raise => exact fun g _ b hb => by cases hb
  | call c next ih =>
      intro g hg
      obtain ⟨hC, hnone, hsome⟩ := hx g hg
      exact ⟨hC, ih none hnone, fun r hr => ih (some r) (hsome r hr)⟩

theorem Always.imp {x : Async κ ρ α} {Q' : φ → α → Prop} (hx : x.Always A C Q f)
    (h : ∀ g a, Q g a → Q' g a) : x.Always A C Q' f := by
  induction x generalizing f with
  | pure a => exact fun g hg => h g a (hx g hg)
  | raise => trivial
  | call c next ih =>
      intro g hg
      obtain ⟨hC, hnone, hsome⟩ := hx g hg
      exact ⟨hC, ih none hnone, fun r hr => ih (some r) (hsome r hr)⟩

/-- The call that comes next is justified by the facts at hand. -/
theorem Always.of_awaited {x : Async κ ρ α} (hx : x.Always A C Q f) {c : κ}
    (hc : x.awaited = some c) : C f c := by
  cases x with
  | pure a => cases hc
  | raise => cases hc
  | call c' next =>
      obtain rfl : c' = c := Option.some.inj hc
      exact (hx f le_rfl).1

/-- **One call** whose reply is admitted by the facts there are after it. -/
theorem Always.resume {h : Handler κ ρ σ} {x : Async κ ρ α} {s : σ}
    {o : Outcome} (hx : x.Always A C Q f) (hfg : f ≤ g)
    (hA : o = .returned → ∀ c, x.awaited = some c → A g c (h c s).1) :
    (x.resume h o s).1.Always A C Q g := by
  cases x with
  | pure a => exact hx.mono hfg
  | raise => trivial
  | call c next =>
      obtain ⟨-, hnone, hsome⟩ := hx g hfg
      cases o with
      | returned => exact hsome _ (hA rfl c rfl)
      | raised applied => exact hnone
      | killed applied => trivial

/-! ## A program among more calls -/

/-- The program with its calls renamed and their replies read back. -/
def embed (emb : κ → κ') (back : (c : κ) → ρ' (emb c) → ρ c) :
    Async κ ρ α → Async κ' ρ' α
  | .pure a => .pure a
  | .raise => .raise
  | .call c next => .call (emb c) fun r => (next (r.map (back c))).embed emb back

theorem Always.embed {emb : κ → κ'} {back : (c : κ) → ρ' (emb c) → ρ c}
    {A' : φ → (c : κ') → ρ' c → Prop} {C' : φ → κ' → Prop} {x : Async κ ρ α}
    (hx : x.Always A C Q f) (hA : ∀ g c r, A' g (emb c) r → A g c (back c r))
    (hC : ∀ g c, C g c → C' g (emb c)) :
    (x.embed emb back).Always A' C' Q f := by
  induction x generalizing f with
  | pure a => exact hx
  | raise => trivial
  | call c next ih =>
      intro g hg
      obtain ⟨hcall, hnone, hsome⟩ := hx g hg
      refine ⟨hC g c hcall, ih none hnone, ?_⟩
      intro r hr
      exact ih (some (back c r)) (hsome _ (hA g c r hr))

end AlertTriage.Library.Async
