import AlertTriage.Runtime.SecretStore
import AlertTriage.Runtime.TokenLifetime

/-!
# `services/_runtime/secret_publisher.py`

`run_scheduler` sleeps for an interval and then rotates each of its audiences. The row
lock puts the rotations of several instances one after the other, and each of them
moves the secrets on, so what a row keeps depends on the times between rotations,
whoever makes them. A secret outlives the tokens signed under it just when no rotation
follows another of the same audience within the life of a token (`seamless_iff_spaced`);
one scheduler with a long interval keeps to that (`one_scheduler_spaced`).
-/

namespace AlertTriage

open Library

/-! ## §1  Schedulers over one store -/

/-- In seconds. -/
structure RotationConfig where
  interval : ℕ
  ttl : ℕ
  leeway : ℕ
deriving DecidableEq, Repr

/-- For how long a token can be verified once it is signed. -/
def RotationConfig.window (cfg : RotationConfig) : ℕ := (cfg.ttl + cfg.leeway) * second

/-- `DEFAULT_INTERVAL_SECONDS`, with the defaults of `JWTService`. -/
def dailyRotation : RotationConfig := ⟨24 * 60 * 60, defaultTtlSec, defaultLeewaySec⟩

inductive Scheduler where
  | sleeping (audiences : List String) (since : ℕ)
  /-- In the `for` loop, before these audiences. -/
  | rotating (audiences left : List String)
  | stopped
deriving DecidableEq, Repr

/-- The audience to be rotated next. -/
def Scheduler.due? : Scheduler → Option String
  | .rotating _ (audience :: _) => some audience
  | _ => none

/-- Past that audience. -/
def Scheduler.next : Scheduler → Scheduler
  | .rotating audiences (_ :: left) => .rotating audiences left
  | t => t

/-- A secret that is no longer current, and the time at which it was last. -/
structure Retired where
  audience : String
  secret : String
  time : ℕ
deriving DecidableEq, Repr

/-- `used` lists all secrets that were ever generated. -/
structure Rotations where
  now : ℕ
  store : SecretStore
  retired : List Retired
  used : List String
  schedulers : List Scheduler

inductive RotationStep where
  | seed (audience secret : String)
  /-- An instance has initialised its store. -/
  | launch (audiences : List String)
  | wake (i : ℕ)
  /-- The rotation commits; its transaction began at a time. -/
  | rotate (i : ℕ) (new : String) (began : ℕ)
  /-- The rotation fails, which the loop logs. -/
  | skip (i : ℕ)
  | sleep (i : ℕ)
  | stop (i : ℕ)
  | pass (d : ℕ)

namespace Rotations

/-- `_new_secret` does not repeat itself. -/
def fresh (secret : String) (s : Rotations) : Bool := secret != "" && !s.used.contains secret

/-- The audience whose secret the step replaces. -/
def rotates (s : Rotations) : RotationStep → Option String
  | .rotate i new began =>
      if s.fresh new && decide (began ≤ s.now) then
        s.schedulers[i]?.bind Scheduler.due?
      else none
  | _ => none

/-- The rows after a committed rotation. -/
def rotated (audience new : String) (began : ℕ) (s : Rotations) : Rotations :=
  { s with
    store := s.store.rotate audience new began
    retired := ((s.store.lookup audience).map fun row =>
      ⟨audience, row.current, s.now⟩).toList ++ s.retired
    used := new :: s.used }

def step (cfg : RotationConfig) (s : Rotations) : RotationStep → Option Rotations
  | .seed audience secret =>
      if s.fresh secret then
        some { s with
          store := s.store.seed audience secret s.now
          used := secret :: s.used }
      else none
  | .launch audiences =>
      some { s with schedulers := s.schedulers ++ [.sleeping audiences s.now] }
  | .wake i =>
      match s.schedulers[i]? with
      | some (.sleeping audiences since) =>
          if since + cfg.interval * second ≤ s.now then
            some { s with schedulers := s.schedulers.set i (.rotating audiences audiences) }
          else none
      | _ => none
  | .rotate i new began =>
      (s.rotates (.rotate i new began)).map fun audience =>
        { s.rotated audience new began with
          schedulers := s.schedulers.modify i Scheduler.next }
  | .skip i =>
      some { s with schedulers := s.schedulers.modify i Scheduler.next }
  | .sleep i =>
      match s.schedulers[i]? with
      | some (.rotating audiences []) =>
          some { s with schedulers := s.schedulers.set i (.sleeping audiences s.now) }
      | _ => none
  | .stop i => some { s with schedulers := s.schedulers.set i .stopped }
  | .pass d => some { s with now := s.now + d }

end Rotations

def rotationSystem (cfg : RotationConfig) : System Rotations RotationStep where
  start := fun s => s.store = ∅ ∧ s.retired = [] ∧ s.used = [] ∧ s.schedulers = []
  step := Rotations.step cfg

/-! ## §2  Secrets that outlive their tokens -/

/-- The row still has each secret that was current a moment ago. -/
def Kept (cfg : RotationConfig) (s : Rotations) : Prop :=
  ∀ r ∈ s.retired, s.now < r.time + cfg.window →
    ∃ row, s.store.lookup r.audience = some row ∧
      (row.current = r.secret ∨ row.previous = some r.secret)

/-- The secret was current at a time that is past. -/
def CurrentAt (s : Rotations) (audience secret : String) (time : ℕ) : Prop :=
  (∃ row, s.store.lookup audience = some row ∧ row.current = secret) ∨
    ∃ r ∈ s.retired, r.audience = audience ∧ r.secret = secret ∧ time ≤ r.time

/-- Signed while its secret was current, for no longer than the lifetime. -/
def SignedInTime (lib : PyJwt) (cfg : RotationConfig) (s : Rotations)
    (audience token : String) (payload : Params) : Prop :=
  ∃ secret mintedAt exp, CurrentAt s audience secret mintedAt ∧ mintedAt ≤ s.now ∧
    lib.unsign token secret = some payload ∧
    validClaims audience cfg.leeway mintedAt payload = true ∧
    intClaim "exp" payload = some exp ∧
    exp * second ≤ mintedAt + cfg.ttl * second

/-- A service with the store's bundle. -/
def RotationConfig.service (cfg : RotationConfig) (b : SecretBundle) : JwtService :=
  ⟨b.audience, b, false, cfg.ttl, cfg.leeway⟩

structure Seamless (lib : PyJwt) (cfg : RotationConfig) (s : Rotations) : Prop where
  kept : Kept cfg s
  verifies : ∀ audience token payload, SignedInTime lib cfg s audience token payload →
    beforeExpiry cfg.leeway s.now payload = true →
    ∃ b, s.store.getBundle audience = some b ∧
      decodeWithRotation lib (cfg.service b) token s.now = some payload

/-- All earlier rotations of the audience are a window or more in the past. -/
def Spaced (cfg : RotationConfig) (s : Rotations) (l : RotationStep) : Prop :=
  ∀ audience, s.rotates l = some audience →
    ∀ r ∈ s.retired, r.audience = audience → r.time + cfg.window ≤ s.now

/-- Secrets are not used twice. -/
structure Rotations.Inv (s : Rotations) : Prop where
  nonempty : ∀ secret ∈ s.used, secret ≠ ""
  current : ∀ audience row, s.store.lookup audience = some row → row.current ∈ s.used
  retired : ∀ r ∈ s.retired, r.secret ∈ s.used
  gone : ∀ r ∈ s.retired, ∀ row, s.store.lookup r.audience = some row →
    row.current ≠ r.secret

section

variable {lib : PyJwt} {cfg : RotationConfig} {s s' : Rotations} {l : RotationStep}

namespace Rotations

theorem fresh_iff {secret : String} :
    s.fresh secret = true ↔ secret ≠ "" ∧ secret ∉ s.used := by
  simp [fresh]

/-- A rotation takes a new secret. -/
theorem rotates_some {audience : String} (h : s.rotates l = some audience) :
    ∃ i new began, l = .rotate i new began ∧ s.fresh new = true := by
  cases l with
  | rotate i new began =>
      simp only [rotates] at h
      split at h
      · rename_i hguard
        exact ⟨i, new, began, rfl, (Bool.and_eq_true_iff.mp hguard).1⟩
      · cases h
  | _ => cases h

/-- What a step does to the table: a rotation, a new row at most, or nothing. -/
theorem step_cases (h : s.step cfg l = some s') :
    (∃ audience new began schedulers, s.rotates l = some audience ∧ s.fresh new = true ∧
      s' = { s.rotated audience new began with schedulers := schedulers }) ∨
    (s.rotates l = none ∧ ((∃ audience secret, s.fresh secret = true ∧
        s' = { s with
          store := s.store.seed audience secret s.now
          used := secret :: s.used }) ∨
      ∃ d schedulers, s' = { s with now := s.now + d, schedulers := schedulers })) := by
  cases l with
  | seed audience secret =>
      simp only [Rotations.step] at h
      split at h
      · rename_i hfresh
        obtain rfl := Option.some.inj h
        exact .inr ⟨rfl, .inl ⟨audience, secret, hfresh, rfl⟩⟩
      · cases h
  | launch audiences =>
      obtain rfl := Option.some.inj h
      exact .inr ⟨rfl, .inr ⟨0, _, rfl⟩⟩
  | wake i =>
      simp only [Rotations.step] at h
      split at h
      · split at h
        · obtain rfl := Option.some.inj h
          exact .inr ⟨rfl, .inr ⟨0, _, rfl⟩⟩
        · cases h
      · cases h
  | rotate i new began =>
      -- a scheduler that rotates has fetched a fresh secret
      obtain ⟨audience, hrotates, rfl⟩ := Option.map_eq_some_iff.mp h
      obtain ⟨_, _, _, heq, hfresh⟩ := rotates_some hrotates
      cases heq
      exact .inl ⟨audience, new, began, _, hrotates, hfresh, rfl⟩
  | skip i =>
      obtain rfl := Option.some.inj h
      exact .inr ⟨rfl, .inr ⟨0, _, rfl⟩⟩
  | sleep i =>
      simp only [Rotations.step] at h
      split at h
      · obtain rfl := Option.some.inj h
        exact .inr ⟨rfl, .inr ⟨0, _, rfl⟩⟩
      · cases h
  | stop i =>
      obtain rfl := Option.some.inj h
      exact .inr ⟨rfl, .inr ⟨0, _, rfl⟩⟩
  | pass d =>
      obtain rfl := Option.some.inj h
      exact .inr ⟨rfl, .inr ⟨d, _, rfl⟩⟩

theorem lookup_seed_some {audience secret other : String} {now : ℕ} {store : SecretStore}
    {row : SecretRow} (h : (store.seed audience secret now).lookup other = some row) :
    store.lookup other = some row ∨ store.lookup other = none ∧ row.current = secret := by
  by_cases hother : other = audience
  · subst hother
    rw [SecretStore.lookup_seed] at h
    cases hold : store.lookup other with
    | some old =>
        rw [hold] at h
        exact .inl h
    | none =>
        rw [hold] at h
        obtain rfl := Option.some.inj h
        exact .inr ⟨rfl, rfl⟩
  · rw [SecretStore.lookup_seed_ne hother] at h
    exact .inl h

theorem lookup_seed_of_some {audience secret other : String} {now : ℕ} {store : SecretStore}
    {row : SecretRow} (h : store.lookup other = some row) :
    (store.seed audience secret now).lookup other = some row := by
  by_cases hother : other = audience
  · subst hother
    rw [SecretStore.lookup_seed, h]
    rfl
  · rw [SecretStore.lookup_seed_ne hother, h]

theorem mem_retired_rotated (audience new : String) (began : ℕ) {r : Retired} :
    r ∈ (s.rotated audience new began).retired ↔
      (∃ row, s.store.lookup audience = some row ∧ r = ⟨audience, row.current, s.now⟩) ∨
        r ∈ s.retired := by
  simp only [rotated, List.mem_append, Option.mem_toList, Option.map_eq_some_iff,
    eq_comm (a := r)]

/-- The invariant over a rotation. -/
theorem Inv.rotated (h : s.Inv) {audience new : String} (hfresh : s.fresh new = true)
    (began : ℕ) : (s.rotated audience new began).Inv := by
  obtain ⟨hne, hnew⟩ := fresh_iff.mp hfresh
  constructor
  · intro secret hsecret
    rcases List.mem_cons.mp hsecret with rfl | hsecret
    · exact hne
    · exact h.nonempty secret hsecret
  · intro other row hrow
    by_cases hother : other = audience
    · subst hother
      have hrow' := (SecretStore.lookup_rotate (s := s.store)).symm.trans hrow
      obtain rfl := Option.some.inj hrow'
      exact List.mem_cons_self
    · have hrow' := (SecretStore.lookup_rotate_ne hother).symm.trans hrow
      exact List.mem_cons_of_mem _ (h.current other row hrow')
  · intro r hr
    rcases (mem_retired_rotated audience new began).mp hr with ⟨row, hrow, rfl⟩ | hr
    · exact List.mem_cons_of_mem _ (h.current audience row hrow)
    · exact List.mem_cons_of_mem _ (h.retired r hr)
  · intro r hr row hrow heq
    -- a retired secret has been in use, and the new one has not
    have hused : r.secret ∈ s.used := by
      rcases (mem_retired_rotated audience new began).mp hr with ⟨old, hold, rfl⟩ | hr
      · exact h.current audience old hold
      · exact h.retired r hr
    by_cases hother : r.audience = audience
    · have hrow' := (SecretStore.lookup_rotate (s := s.store)).symm.trans (hother ▸ hrow)
      obtain rfl := Option.some.inj hrow'
      have hsame : new = r.secret := heq
      exact hnew (hsame ▸ hused)
    · have hrow' := (SecretStore.lookup_rotate_ne hother).symm.trans hrow
      rcases (mem_retired_rotated audience new began).mp hr with ⟨old, hold, rfl⟩ | hr
      · exact hother rfl
      · exact h.gone r hr row hrow' heq

theorem Inv.step (h : s.Inv) (hstep : s.step cfg l = some s') : s'.Inv := by
  rcases step_cases hstep with ⟨audience, new, began, schedulers, -, hfresh, rfl⟩ |
    ⟨-, ⟨audience, secret, hfresh, rfl⟩ | ⟨d, schedulers, rfl⟩⟩
  · exact { h.rotated hfresh began with }
  · obtain ⟨hne, hnew⟩ := fresh_iff.mp hfresh
    constructor
    · intro secret' hsecret'
      rcases List.mem_cons.mp hsecret' with rfl | hsecret'
      · exact hne
      · exact h.nonempty secret' hsecret'
    · intro other row hrow
      rcases lookup_seed_some hrow with hrow | ⟨-, rfl⟩
      · exact List.mem_cons_of_mem _ (h.current other row hrow)
      · exact List.mem_cons_self
    · exact fun r hr => List.mem_cons_of_mem _ (h.retired r hr)
    · intro r hr row hrow heq
      rcases lookup_seed_some hrow with hrow | ⟨-, rfl⟩
      · exact h.gone r hr row hrow heq
      · exact hnew (heq ▸ h.retired r hr)
  · exact { h with }

end Rotations

/-- Of the other steps only a new row touches the table, and it is no row's loss. -/
theorem Kept.other (h : Kept cfg s) (hrotates : s.rotates l = none)
    (hstep : s.step cfg l = some s') : Kept cfg s' := by
  rcases Rotations.step_cases hstep with ⟨audience, new, began, schedulers, hsome, -, rfl⟩ |
    ⟨-, ⟨audience, secret, -, rfl⟩ | ⟨d, schedulers, rfl⟩⟩
  · cases hrotates.symm.trans hsome
  · intro r hr hnow
    obtain ⟨row, hrow, hpair⟩ := h r hr hnow
    exact ⟨row, Rotations.lookup_seed_of_some hrow, hpair⟩
  · intro r hr hnow
    exact h r hr ((Nat.le_add_right _ _).trans_lt hnow)

/-- The rotation drops the secret before the current one, and no other of its row. -/
theorem kept_rotated_iff (hinv : s.Inv) (hkept : Kept cfg s) (audience : String)
    {new : String} (began : ℕ) (hfresh : s.fresh new = true) :
    Kept cfg (s.rotated audience new began) ↔
      ∀ r ∈ s.retired, r.audience = audience → r.time + cfg.window ≤ s.now := by
  constructor
  · intro hafter r hr haudience
    by_contra hsoon
    subst haudience
    obtain ⟨row, hrow, hpair⟩ := hkept r hr (not_le.mp hsoon)
    obtain ⟨row', hrow', hpair'⟩ :=
      hafter r ((Rotations.mem_retired_rotated r.audience new began).mpr (.inr hr))
        (not_le.mp hsoon)
    have hnew := (SecretStore.lookup_rotate (s := s.store)).symm.trans hrow'
    obtain rfl := Option.some.inj hnew
    rcases hpair' with hcurrent | hprevious
    · have hsame : new = r.secret := hcurrent
      exact (Rotations.fresh_iff.mp hfresh).2 (hsame ▸ hinv.retired r hr)
    · rw [hrow] at hprevious
      exact hinv.gone r hr row hrow (Option.some.inj hprevious)
  · intro hspaced r hr hnow
    rcases (Rotations.mem_retired_rotated audience new began).mp hr with ⟨row, hrow, rfl⟩ | hr
    · refine ⟨_, SecretStore.lookup_rotate, .inr ?_⟩
      rw [hrow]
      rfl
    · by_cases haudience : r.audience = audience
      · exact absurd (hspaced r hr haudience) (not_le.mpr hnow)
      · obtain ⟨row, hrow, hpair⟩ := hkept r hr hnow
        exact ⟨row, (SecretStore.lookup_rotate_ne haudience).trans hrow, hpair⟩

/-- A step keeps the secrets that are needed just when it is spaced. -/
theorem spaced_iff (hinv : s.Inv) (hkept : Kept cfg s) :
    Spaced cfg s l ↔ ∀ s', s.step cfg l = some s' → Kept cfg s' := by
  cases hrotates : s.rotates l with
  | none =>
      refine iff_of_true ?_ fun s' hstep => hkept.other hrotates hstep
      intro audience hsome
      cases hrotates.symm.trans hsome
  | some audience =>
      obtain ⟨i, new, began, rfl, hfresh⟩ := Rotations.rotates_some hrotates
      have hstep : s.step cfg (.rotate i new began) = some { s.rotated audience new began with
          schedulers := s.schedulers.modify i Scheduler.next } := by
        rw [Rotations.step, hrotates]
        rfl
      have hiff := kept_rotated_iff hinv hkept audience began hfresh
      constructor
      · intro hspaced s' hs'
        obtain rfl := Option.some.inj (hstep.symm.trans hs')
        exact hiff.mpr (hspaced audience hrotates)
      · intro hafter audience' hsome
        obtain rfl := Option.some.inj (hrotates.symm.trans hsome)
        have hkept' := hafter _ hstep
        exact hiff.mp hkept'

theorem Rotations.Inv.of_start (h : (rotationSystem cfg).start s) : s.Inv := by
  obtain ⟨hstore, hretired, hused, -⟩ := h
  constructor
  · simp [hused]
  · intro audience row hrow
    rw [hstore] at hrow
    cases hrow
  · simp [hretired]
  · simp [hretired]

theorem Kept.of_start (h : (rotationSystem cfg).start s) : Kept cfg s := by
  obtain ⟨-, hretired, -⟩ := h
  simp [Kept, hretired]

/-- **What the table keeps, it verifies.** -/
theorem seamless_of_kept (hinv : s.Inv) (hkept : Kept cfg s) : Seamless lib cfg s where
  kept := hkept
  verifies := by
    rintro audience token payload
      ⟨secret, mintedAt, exp, hcurrent, hpast, hun, hclaims, hexp, hlife⟩ hlive
    obtain ⟨exp', hexp', hnow⟩ := (Option.any_eq_true _ _).mp hlive
    obtain rfl := Option.some.inj (hexp.symm.trans hexp')
    have hnow := of_decide_eq_true hnow
    -- the row still has the secret of the token
    obtain ⟨row, hrow, hpair, hused⟩ : ∃ row, s.store.lookup audience = some row ∧
        (row.current = secret ∨ row.previous = some secret) ∧ secret ∈ s.used := by
      rcases hcurrent with ⟨row, hrow, rfl⟩ | ⟨r, hr, rfl, rfl, htime⟩
      · exact ⟨row, hrow, .inl rfl, hinv.current _ row hrow⟩
      · have hsoon : s.now < r.time + cfg.window := by
          unfold RotationConfig.window
          rw [add_mul] at hnow ⊢
          omega
        obtain ⟨row, hrow, hpair⟩ := hkept r hr hsoon
        exact ⟨row, hrow, hpair, hinv.retired r hr⟩
    obtain ⟨svc, hsvc⟩ : ∃ svc, svc = cfg.service ⟨audience, row.current, row.previous⟩ :=
      ⟨_, rfl⟩
    have hsigned : signedByBundle lib svc token = true := by
      rw [hsvc]
      refine List.any_eq_true.mpr ⟨secret, List.mem_filter.mpr ⟨?_, ?_⟩, by rw [hun]; rfl⟩
      · rcases hpair with rfl | hprevious
        · exact List.mem_cons_self
        · exact List.mem_cons_of_mem _ (by simp [RotationConfig.service, hprevious])
      · simpa using hinv.nonempty secret hused
    have hdecode : decodeWithRotation lib svc token s.now = some payload := by
      refine (decode_later hun (by rw [hsvc]; exact hclaims) hpast).trans (if_pos ?_)
      rw [hsigned, hsvc]
      exact hlive
    exact ⟨⟨audience, row.current, row.previous⟩, by simp [SecretStore.getBundle, hrow],
      hsvc ▸ hdecode⟩

/-- **When several schedulers are safe**: just when no rotation follows another of its
audience within the life of a token. -/
theorem seamless_iff_spaced {steps : List RotationStep}
    (hstart : (rotationSystem cfg).start s) :
    (rotationSystem cfg).Throughout (Seamless lib cfg) s steps ↔
      (rotationSystem cfg).Meets (Spaced cfg) s steps := by
  have hinv : s.Inv := .of_start hstart
  refine System.throughout_iff_meets (I := Rotations.Inv) ?_ ?_ hinv
    (seamless_of_kept hinv (.of_start hstart))
  · exact fun s l s' hstep h => h.step hstep
  · intro s l h hseamless
    refine (spaced_iff h hseamless.kept).trans ⟨?_, ?_⟩
    · intro hafter s' hstep
      exact seamless_of_kept (h.step hstep) (hafter s' hstep)
    · intro hafter s' hstep
      exact (hafter s' hstep).kept

/-! ## §3  One scheduler -/

/-- An instance is launched when no other runs, for audiences that differ. -/
def Alone (s : Rotations) : RotationStep → Prop
  | .launch audiences => audiences.Nodup ∧ ∀ t ∈ s.schedulers, t = .stopped
  | _ => True

/-- What a scheduler leaves between rotations. -/
def Paced (cfg : RotationConfig) (s : Rotations) : Scheduler → Prop
  | .sleeping audiences since => audiences.Nodup ∧ ∀ r ∈ s.retired, r.time ≤ since
  | .rotating audiences left => audiences.Nodup ∧ left.Nodup ∧
      ∀ r ∈ s.retired, r.audience ∈ left → r.time + cfg.window ≤ s.now
  | .stopped => True

/-- At most one scheduler has not stopped. -/
structure OneRuns (cfg : RotationConfig) (s : Rotations) : Prop where
  past : ∀ r ∈ s.retired, r.time ≤ s.now
  one : ∀ (i j : ℕ) (t u : Scheduler), s.schedulers[i]? = some t →
    s.schedulers[j]? = some u → t ≠ .stopped → u ≠ .stopped → i = j
  paced : ∀ (i : ℕ) (t : Scheduler), s.schedulers[i]? = some t → Paced cfg s t

theorem Scheduler.due?_eq_some {t : Scheduler} {audience : String} (h : t.due? = some audience) :
    ∃ audiences left, t = .rotating audiences (audience :: left) := by
  unfold Scheduler.due? at h
  split at h
  · obtain rfl := Option.some.inj h
    exact ⟨_, _, rfl⟩
  · cases h

theorem OneRuns.spaced (h : OneRuns cfg s) : Spaced cfg s l := by
  intro audience hrotates r hr haudience
  obtain ⟨i, new, began, rfl, -⟩ := Rotations.rotates_some hrotates
  simp only [Rotations.rotates] at hrotates
  split at hrotates
  · obtain ⟨t, ht, hdue⟩ := Option.bind_eq_some_iff.mp hrotates
    obtain ⟨audiences, left, rfl⟩ := Scheduler.due?_eq_some hdue
    exact (h.paced i _ ht).2.2 r hr (haudience ▸ List.mem_cons_self)
  · cases hrotates

theorem Paced.mono {t : Scheduler} (h : Paced cfg s t) (hretired : s'.retired = s.retired)
    (hnow : s.now ≤ s'.now) : Paced cfg s' t := by
  cases t with
  | sleeping audiences since =>
      rw [Paced, hretired]
      exact h
  | rotating audiences left =>
      rw [Paced, hretired]
      exact ⟨h.1, h.2.1, fun r hr hleft => (h.2.2 r hr hleft).trans hnow⟩
  | stopped => trivial

/-- Every scheduler comes from one at the same place. -/
theorem OneRuns.of_moves (h : OneRuns cfg s) (hpast : ∀ r ∈ s'.retired, r.time ≤ s'.now)
    (hmoves : ∀ (i : ℕ) (u : Scheduler), s'.schedulers[i]? = some u →
      ∃ t, s.schedulers[i]? = some t ∧ (t = .stopped → u = .stopped) ∧ Paced cfg s' u) :
    OneRuns cfg s' where
  past := hpast
  one := by
    intro i j t u ht hu hts hus
    obtain ⟨t', ht', hstopped, -⟩ := hmoves i t ht
    obtain ⟨u', hu', hstopped', -⟩ := hmoves j u hu
    exact h.one i j t' u' ht' hu' (mt hstopped hts) (mt hstopped' hus)
  paced := by
    intro i t ht
    obtain ⟨-, -, -, hpaced⟩ := hmoves i t ht
    exact hpaced

/-- One of them is replaced, and nothing else changes. -/
theorem OneRuns.set (h : OneRuns cfg s) {i : ℕ} {t u : Scheduler}
    (ht : s.schedulers[i]? = some t) (hstopped : t = .stopped → u = .stopped)
    (hu : Paced cfg s u) : OneRuns cfg { s with schedulers := s.schedulers.set i u } := by
  refine h.of_moves h.past ?_
  intro j v hv
  rw [List.getElem?_set] at hv
  split at hv
  · rename_i hij
    subst hij
    split at hv
    · obtain rfl := Option.some.inj hv
      exact ⟨t, ht, hstopped, hu⟩
    · cases hv
  · exact ⟨v, hv, id, h.paced j v hv⟩

/-- The first instance, or one after the others stopped. -/
theorem OneRuns.launch (h : OneRuns cfg s) {audiences : List String}
    (halone : Alone s (.launch audiences)) :
    OneRuns cfg { s with schedulers := s.schedulers ++ [.sleeping audiences s.now] } := by
  obtain ⟨hnodup, hall⟩ := halone
  -- the schedulers before it have stopped
  have hlast : ∀ (i : ℕ) (t : Scheduler),
      (s.schedulers ++ [Scheduler.sleeping audiences s.now])[i]? = some t →
      t = .stopped ∨ i = s.schedulers.length ∧ t = .sleeping audiences s.now := by
    intro i t ht
    rw [List.getElem?_append] at ht
    split at ht
    · exact .inl (hall t (List.mem_of_getElem? ht))
    · rename_i hlen
      obtain ⟨hi, rfl⟩ := List.getElem?_eq_some_iff.mp ht
      have hi' : i - s.schedulers.length = 0 := by simpa using hi
      exact .inr ⟨by omega, by simp⟩
  refine ⟨h.past, ?_, ?_⟩
  · intro i j t u ht hu hts hus
    obtain ⟨rfl, -⟩ := (hlast i t ht).resolve_left hts
    obtain ⟨rfl, -⟩ := (hlast j u hu).resolve_left hus
    rfl
  · intro i t ht
    rcases hlast i t ht with rfl | ⟨-, rfl⟩
    · trivial
    · exact ⟨hnodup, h.past⟩

/-- The scheduler that runs rotates the audience it is at. -/
theorem OneRuns.rotated (h : OneRuns cfg s) {i : ℕ} {audience : String}
    {audiences left : List String}
    (ht : s.schedulers[i]? = some (.rotating audiences (audience :: left)))
    (new : String) (began : ℕ) :
    OneRuns cfg { s.rotated audience new began with
      schedulers := s.schedulers.modify i Scheduler.next } := by
  obtain ⟨hnodup, hleft, hspaced⟩ := h.paced i _ ht
  have hpast : ∀ r ∈ (s.rotated audience new began).retired, r.time ≤ s.now := by
    intro r hr
    rcases (Rotations.mem_retired_rotated audience new began).mp hr with
      ⟨row, -, rfl⟩ | hr
    · exact le_rfl
    · exact h.past r hr
  refine h.of_moves hpast ?_
  intro j u hu
  rw [List.getElem?_modify] at hu
  split at hu
  · rename_i hij
    subst hij
    rw [ht] at hu
    obtain rfl := Option.some.inj hu
    refine ⟨_, ht, (fun hstopped => by cases hstopped), hnodup,
      (List.nodup_cons.mp hleft).2, ?_⟩
    intro r hr hmem
    rcases (Rotations.mem_retired_rotated audience new began).mp hr with
      ⟨row, -, rfl⟩ | hr
    · exact absurd hmem (List.nodup_cons.mp hleft).1
    · exact hspaced r hr (List.mem_cons_of_mem _ hmem)
  · -- any other scheduler has stopped
    rename_i hij
    have hu : s.schedulers[j]? = some u := by simpa using hu
    by_cases hstopped : u = .stopped
    · subst hstopped
      exact ⟨_, hu, id, trivial⟩
    · exact absurd (h.one i j _ u ht hu (by rintro ⟨⟩) hstopped) hij

/-- A rotation that fails is left behind. -/
theorem OneRuns.skip (h : OneRuns cfg s) (i : ℕ) :
    OneRuns cfg { s with schedulers := s.schedulers.modify i Scheduler.next } := by
  refine h.of_moves h.past ?_
  intro j u hu
  rw [List.getElem?_modify] at hu
  obtain ⟨t, ht, rfl⟩ := Option.map_eq_some_iff.mp hu
  split
  · refine ⟨t, ht, fun hstopped => by rw [hstopped]; rfl, ?_⟩
    unfold Scheduler.next
    split
    · obtain ⟨hnodup, hleft, hspaced⟩ := h.paced j _ ht
      exact ⟨hnodup, (List.nodup_cons.mp hleft).2,
        fun r hr hmem => hspaced r hr (List.mem_cons_of_mem _ hmem)⟩
    · exact h.paced j _ ht
  · exact ⟨t, ht, id, h.paced j t ht⟩

theorem OneRuns.step (hlong : cfg.window ≤ cfg.interval * second) (h : OneRuns cfg s)
    (halone : Alone s l) (hstep : s.step cfg l = some s') : OneRuns cfg s' := by
  cases l with
  | seed audience secret =>
      simp only [Rotations.step] at hstep
      split at hstep
      · obtain rfl := Option.some.inj hstep
        exact h.of_moves h.past fun i t ht => ⟨t, ht, id, h.paced i t ht⟩
      · cases hstep
  | launch audiences =>
      obtain rfl := Option.some.inj hstep
      exact h.launch halone
  | wake i =>
      simp only [Rotations.step] at hstep
      split at hstep
      · rename_i audiences since ht
        split at hstep
        · rename_i hawake
          obtain rfl := Option.some.inj hstep
          obtain ⟨hnodup, hsince⟩ := h.paced i _ ht
          refine h.set ht (fun hstopped => by cases hstopped) ⟨hnodup, hnodup, ?_⟩
          rintro r hr -
          exact (Nat.add_le_add (hsince r hr) hlong).trans hawake
        · cases hstep
      · cases hstep
  | rotate i new began =>
      obtain ⟨audience, hrotates, rfl⟩ := Option.map_eq_some_iff.mp hstep
      simp only [Rotations.rotates] at hrotates
      split at hrotates
      · obtain ⟨t, ht, hdue⟩ := Option.bind_eq_some_iff.mp hrotates
        obtain ⟨audiences, left, rfl⟩ := Scheduler.due?_eq_some hdue
        exact h.rotated ht new began
      · cases hrotates
  | skip i =>
      obtain rfl := Option.some.inj hstep
      exact h.skip i
  | sleep i =>
      simp only [Rotations.step] at hstep
      split at hstep
      · rename_i audiences ht
        obtain rfl := Option.some.inj hstep
        exact h.set ht (fun hstopped => by cases hstopped) ⟨(h.paced i _ ht).1, h.past⟩
      · cases hstep
  | stop i =>
      obtain rfl := Option.some.inj hstep
      cases ht : s.schedulers[i]? with
      | some t => exact h.set ht (fun _ => rfl) trivial
      | none =>
          rw [List.set_eq_of_length_le (List.getElem?_eq_none_iff.mp ht)]
          exact h
  | pass d =>
      obtain rfl := Option.some.inj hstep
      apply h.of_moves
      · exact fun r hr => (h.past r hr).trans (Nat.le_add_right _ _)
      · exact fun i t ht => ⟨t, ht, id, (h.paced i t ht).mono rfl (Nat.le_add_right _ _)⟩

/-- **One scheduler is safe** when its interval is no shorter than the life of a token. -/
theorem one_scheduler_seamless (hlong : cfg.window ≤ cfg.interval * second)
    (hs : (rotationSystem cfg).Reached Alone s) : Seamless lib cfg s := by
  have hall : s.Inv ∧ Kept cfg s ∧ OneRuns cfg s := by
    apply hs.invariant (P := fun s => s.Inv ∧ Kept cfg s ∧ OneRuns cfg s)
    · intro s hstart
      refine ⟨.of_start hstart, .of_start hstart, ?_⟩
      obtain ⟨-, hretired, -, hschedulers⟩ := hstart
      constructor
      · simp [hretired]
      · simp [hschedulers]
      · simp [hschedulers]
    · rintro s l s' ⟨hinv, hkept, hone⟩ halone hstep
      exact ⟨hinv.step hstep, (spaced_iff hinv hkept).mp hone.spaced s' hstep,
        hone.step hlong halone hstep⟩
  exact seamless_of_kept hall.1 hall.2.1

end

/-! ## §4  Two schedulers -/

def noRotations : Rotations := ⟨0, ∅, [], [], []⟩

/-- The second instance is launched ten seconds after the first, and each rotates once. -/
def tenSecondsApart : List RotationStep :=
  [.seed "worker" "k0", .launch ["worker"], .pass (10 * second), .launch ["worker"],
    .pass ((24 * 60 * 60 - 10) * second), .wake 0, .rotate 0 "k1" 0, .pass (10 * second),
    .wake 1, .rotate 1 "k2" 0]

theorem seamless_iff_spaced_two :
    (rotationSystem dailyRotation).Throughout (Seamless (standardPyJwt joinMac) dailyRotation)
        noRotations tenSecondsApart ↔
      (rotationSystem dailyRotation).Meets (Spaced dailyRotation) noRotations
        tenSecondsApart :=
  seamless_iff_spaced ⟨rfl, rfl, rfl, rfl⟩

/-- A secret that was current ten seconds ago is in no row. -/
theorem second_drops_first (lib : PyJwt) :
    ¬ ∀ steps, (rotationSystem dailyRotation).Throughout (Seamless lib dailyRotation)
      noRotations steps := by
  intro hall
  have hrun := System.Throughout.last (hall tenSecondsApart) rfl
  obtain ⟨row, hrow, hpair⟩ := hrun.kept ⟨"worker", "k0", 24 * 60 * 60 * second⟩
    (by decide) (by decide)
  have hrow' := hrow.symm.trans (show _ = some (SecretRow.mk "k2" (some "k1") 0) from rfl)
  obtain rfl := Option.some.inj hrow'
  revert hpair
  decide

theorem second_scheduler_drops :
    ¬ ∀ steps, (rotationSystem dailyRotation).Throughout
      (Seamless (standardPyJwt joinMac) dailyRotation) noRotations steps :=
  second_drops_first (standardPyJwt joinMac)

end AlertTriage
