import AlertTriage.Runtime.SecretStore
import AlertTriage.Runtime.VerifyCache

/-!
# Soundness of `verify`

A process holds a bundle for each audience, read from the secret store at some time,
and verifies tokens for one of them. Between the two halves of a call anything else
can happen: rotations, refreshes, other calls, which fill the cache and evict from it.

What a call vouches for is settled before its await: the bundle and the cache hold
only secrets that were current at some time (`Inv.held`, `Inv.cache`), and the cache
only payloads that met the claim checks. The rest of the call adds the answer of the
deny-list.
-/

namespace AlertTriage

open Library

/-! ## §1  A process that verifies -/

structure VerifyConfig where
  audience : String
  hasRevoked : Bool
  ttl : ℕ
  leeway : ℕ

/-- `revoked_jti_checker` during a call. -/
abbrev Checker : Type := Json → RevokedAnswer

/-- The checker is asked about the `jti`, if there is one. -/
def Checker.ask (checker : Checker) (p : Pending) : RevokedAnswer :=
  ((claim "jti" p.payload).map checker).getD (.answer false)

inductive CallState where
  /-- At the deny-list. -/
  | waiting (p : Pending)
  | returned (p : Pending) (checker : Checker) (auth : AuthContext)
  | raised

structure VerifyCall where
  token : String
  startedAt : ℕ
  state : CallState

/-- `history` lists the secrets that have been current, each with its audience, and
`signed` the tokens that somebody has signed, each with the secret. -/
structure Process where
  store : SecretStore
  history : List (String × String)
  signed : List (String × String)
  bundles : AList fun _ : String => SecretBundle
  /-- A refresh has read this row and not assigned it yet. -/
  reading : Option SecretBundle
  world : World
  calls : List VerifyCall

inductive ProcessStep where
  | seed (audience secret : String)
  | rotate (audience new : String)
  | sign (token secret : String)
  | readBundle (audience : String)
  | setBundle
  | start (token : String)
  /-- The checker answers the call at this place. -/
  | answer (i : ℕ) (checker : Checker)
  | pass (d : ℕ)

namespace Process

/-- The service with the present bundle. Before one is loaded no secret is tried. -/
def service (cfg : VerifyConfig) (s : Process) : JwtService where
  audience := cfg.audience
  bundle := (s.bundles.lookup cfg.audience).getD ⟨cfg.audience, "", none⟩
  hasRevoked := cfg.hasRevoked
  ttl := cfg.ttl
  leeway := cfg.leeway

/-- The store after a transaction on one audience. -/
def stored (audience : String) (store : SecretStore) (s : Process) : Process :=
  { s with
    store := store
    history := ((store.lookup audience).map fun row => (audience, row.current)).toList
      ++ s.history }

/-- The first half of a call; `_provider` raises when there is no bundle. -/
def startCall (lib : PyJwt) (cfg : VerifyConfig) (token : String) (s : Process) :
    CallState :=
  if (cachedEntry token s.world).isNone && (s.bundles.lookup cfg.audience).isNone then
    .raised
  else
    match (lookUp lib (s.service cfg) token s.world).1 with
    | .ok p => .waiting p
    | .error _ => .raised

/-- The second half. -/
def endCall (cfg : VerifyConfig) (checker : Checker) (token : String) (p : Pending)
    (s : Process) : CallState :=
  match (finish (s.service cfg) (checker.ask p) token p s.world).1 with
  | .ok auth => .returned p checker auth
  | .error _ => .raised

def step (lib : PyJwt) (cfg : VerifyConfig) (s : Process) :
    ProcessStep → Option Process
  | .seed audience secret =>
      some (s.stored audience (s.store.seed audience secret s.world.now))
  | .rotate audience new =>
      some (s.stored audience (s.store.rotate audience new s.world.now))
  | .sign token secret => some { s with signed := (token, secret) :: s.signed }
  | .readBundle audience =>
      -- `_refresh_lock` is held from here to the assignment
      if s.reading.isSome then none
      else (s.store.getBundle audience).map fun bundle =>
        { s with reading := some bundle }
  | .setBundle =>
      s.reading.map fun bundle =>
        { s with
          bundles := s.bundles.insert bundle.audience bundle
          reading := none }
  | .start token =>
      some { s with
        calls := s.calls ++ [⟨token, s.world.now, s.startCall lib cfg token⟩] }
  | .answer i checker =>
      match s.calls[i]? with
      | some ⟨token, startedAt, .waiting p⟩ =>
          some { s with
            world := (finish (s.service cfg) (checker.ask p) token p s.world).2
            calls := s.calls.set i ⟨token, startedAt, s.endCall cfg checker token p⟩ }
      | _ => none
  | .pass d => some { s with world := s.world.advance d }

end Process

def processSystem (lib : PyJwt) (cfg : VerifyConfig) : System Process ProcessStep where
  start := fun s => s.store = ∅ ∧ s.history = [] ∧ s.signed = [] ∧ s.bundles = ∅ ∧
    s.reading = none ∧ s.world.jwtCache = [] ∧ s.calls = []
  step := Process.step lib cfg

/-- What is assumed of keys and signatures. A new secret is no other audience's, and a
token that verifies under a secret has been signed with it. -/
def KeysSound (lib : PyJwt) (s : Process) : ProcessStep → Prop
  | .seed audience secret => ∀ p ∈ s.history, p.2 = secret → p.1 = audience
  | .rotate audience new => ∀ p ∈ s.history, p.2 = new → p.1 = audience
  | .start token => ∀ secret, (lib.unsign token secret).isSome = true →
      (token, secret) ∈ s.signed
  | _ => True

/-! ## §2  What a call vouches for -/

/-- Known of the payload from the start of the call. An `exp` before 1970 is rounded
towards 1970. -/
structure Vouched (lib : PyJwt) (cfg : VerifyConfig) (s : Process) (token : String)
    (startedAt : ℕ) (payload : Params) : Prop where
  signed : ∃ secret, lib.unsign token secret = some payload ∧
    (token, secret) ∈ s.signed ∧ (cfg.audience, secret) ∈ s.history ∧
    ∀ audience, (audience, secret) ∈ s.history → audience = cfg.audience
  audience : claim "aud" payload = some (.str cfg.audience)
  inTime : ∃ t, (claim "exp" payload).bind pyMicros = some t ∧
    (startedAt : ℤ) < max 0 t + cfg.leeway * second
  present : ∀ key ∈ ["sub", "tid", "jti", "iat"], (claim key payload).isSome = true

/-- The deny-list was asked about the `jti` and did not answer that it is revoked. -/
def NotRevoked (cfg : VerifyConfig) (payload : Params) (checker : Checker) : Prop :=
  cfg.hasRevoked = true → ∀ jti, claim "jti" payload = some jti → jti.truthy = true →
    checker jti = .raised ∨ checker jti = .answer false

/-- The context of a call that returned. -/
structure SoundAnswer (lib : PyJwt) (cfg : VerifyConfig) (s : Process) (call : VerifyCall)
    (p : Pending) (checker : Checker) (auth : AuthContext) : Prop where
  vouched : Vouched lib cfg s call.token call.startedAt p.payload
  notRevoked : NotRevoked cfg p.payload checker
  userId : auth.userId = claim "sub" p.payload
  tenantId : ∃ tid, claim "tid" p.payload = some tid ∧ auth.tenantId = pyStr tid
  audience : auth.audience = cfg.audience

/-! ## §3  Lemmas for the two halves -/

/-- PyJWT reads `exp` as an integer, the cache as a number. -/
theorem pyMicros_of_pyInt {j : Json} {i : ℤ} (h : pyInt j = some i) :
    ∃ t, pyMicros j = some t ∧ i * second ≤ max 0 t := by
  unfold pyMicros
  split
  · rename_i m k
    obtain rfl := Option.some.inj h
    exact ⟨_, rfl, le_max_right _ _⟩
  · rename_i m k
    obtain rfl := Option.some.inj h
    refine ⟨_, rfl, ?_⟩
    rcases le_total 0 m with hm | hm
    · -- cutting off the fraction makes a positive number smaller
      apply le_max_of_le_right
      rw [Int.tdiv_eq_ediv_of_nonneg hm,
        Int.tdiv_eq_ediv_of_nonneg (mul_nonneg hm (Int.natCast_nonneg _))]
      apply Int.le_ediv_of_mul_le (by positivity)
      rw [mul_right_comm]
      exact mul_le_mul_of_nonneg_right (Int.ediv_mul_le _ (by positivity))
        (Int.natCast_nonneg _)
    · refine le_max_of_le_left (mul_nonpos_of_nonpos_of_nonneg ?_ (Int.natCast_nonneg _))
      have hneg : 0 ≤ (-m).tdiv (10 ^ (k + 1)) :=
        Int.tdiv_nonneg (neg_nonneg.mpr hm) (by positivity)
      rw [Int.neg_tdiv] at hneg
      exact neg_nonneg.mp hneg
  · exact ⟨i * second, by rw [h]; rfl, le_max_right _ _⟩

theorem before_exp {leeway now : ℕ} {payload : Params}
    (h : beforeExpiry leeway now payload = true) :
    ∃ t, (claim "exp" payload).bind pyMicros = some t ∧
      (now : ℤ) < max 0 t + leeway * second := by
  obtain ⟨i, hi, hlt⟩ := (Option.any_eq_true _ _).mp h
  obtain ⟨j, hj, hi⟩ := Option.bind_eq_some_iff.mp hi
  obtain ⟨t, ht, hle⟩ := pyMicros_of_pyInt hi
  refine ⟨t, by rw [hj]; exact ht, (of_decide_eq_true hlt).trans_le ?_⟩
  rw [add_mul]
  exact Int.add_le_add_right hle _

theorem checkRevocation_ok {svc : JwtService} {e : RevokedAnswer} {payload : Params}
    {w : World} (h : (checkRevocation svc e (claim "jti" payload) w).1 = .ok ()) :
    svc.hasRevoked = true → ∀ jti, claim "jti" payload = some jti →
      jti.truthy = true → e = .raised ∨ e = .answer false := by
  intro hasRevoked jti hjti htruthy
  simp only [checkRevocation, hjti, htruthy, hasRevoked, Bool.not_true, Bool.or_self,
    Bool.false_eq_true, if_false] at h
  cases e with
  | answer revoked =>
      cases revoked with
      | false => exact .inr rfl
      | true => cases h
  | raised => exact .inl rfl
  | killed => cases h

/-- A call that returns has passed the deny-list and hands out its payload. -/
theorem finish_ok {svc : JwtService} {e : RevokedAnswer} {token : String} {p : Pending}
    {w : World} {auth : AuthContext} (h : (finish svc e token p w).1 = .ok auth) :
    (checkRevocation svc e (claim "jti" p.payload) w).1 = .ok () ∧
      auth = toAuth p.payload p.audience := by
  unfold finish at h
  rw [Run.bind_apply] at h
  split at h
  · rename_i w' heq
    refine ⟨by rw [heq], ?_⟩
    split at h
    · exact (Except.ok.inj h).symm
    · rw [Run.bind_apply] at h
      split at h
      · exact (Except.ok.inj h).symm
      · cases h
  · cases h

theorem remember_now (svc : JwtService) (token : String) (payload : Params) (w : World) :
    (remember svc token payload w).2.now = w.now := by
  unfold remember
  split <;> rfl

theorem finish_now (svc : JwtService) (e : RevokedAnswer) (token : String) (p : Pending)
    (w : World) : (finish svc e token p w).2.now = w.now := by
  have hcheck := (checkRevocation_cache svc e (claim "jti" p.payload) w).1
  unfold finish
  rw [Run.bind_apply]
  split
  · rename_i w' heq
    rw [heq] at hcheck
    split
    · exact hcheck
    · have hremember := remember_now svc token p.payload w'
      rw [Run.bind_apply]
      split
      · rename_i heq'
        rw [heq'] at hremember
        exact hremember.trans hcheck
      · rename_i heq'
        rw [heq'] at hremember
        exact hremember.trans hcheck
  · rename_i heq
    rw [heq] at hcheck
    exact hcheck

theorem str_of_asStr {j : Option Json} {text : String}
    (h : j.bind Json.asStr? = some text) : j = some (.str text) := by
  obtain ⟨j, rfl, hj⟩ := Option.bind_eq_some_iff.mp h
  cases j with
  | str text' =>
      obtain rfl := Option.some.inj hj
      rfl
  | _ => cases hj

/-! ## §4  The invariant -/

/-- The bundle is the audience's and holds secrets that were current. -/
def CurrentOnce (history : List (String × String)) (audience : String) (b : SecretBundle) : Prop :=
  b.audience = audience ∧
    ∀ secret, secret = b.current ∨ b.previous = some secret → (audience, secret) ∈ history

/-- Secrets of different audiences differ. -/
def OneOwner (history : List (String × String)) : Prop :=
  ∀ p ∈ history, ∀ q ∈ history, p.2 = q.2 → p.1 = q.1

namespace Process

/-- The state has gone on. -/
structure Grows (s s' : Process) : Prop where
  history : s.history ⊆ s'.history
  signed : s.signed ⊆ s'.signed
  now : s.world.now ≤ s'.world.now

/-- What is known of a call. -/
def CallOk (lib : PyJwt) (cfg : VerifyConfig) (s : Process) (call : VerifyCall) : Prop :=
  match call.state with
  | .waiting p => Vouched lib cfg s call.token call.startedAt p.payload ∧
      p.Ready lib (s.service cfg) (fun secret => (cfg.audience, secret) ∈ s.history)
        s.world.now call.token
  | .returned p checker auth => SoundAnswer lib cfg s call p checker auth
  | .raised => True

structure Inv (lib : PyJwt) (cfg : VerifyConfig) (s : Process) : Prop where
  stored : ∀ audience b, s.store.getBundle audience = some b → CurrentOnce s.history audience b
  reading : ∀ b, s.reading = some b → CurrentOnce s.history b.audience b
  held : ∀ audience b, s.bundles.lookup audience = some b → CurrentOnce s.history audience b
  separate : OneOwner s.history
  cache : EarnedCache lib (s.service cfg)
    (fun secret => (cfg.audience, secret) ∈ s.history) s.world
  calls : ∀ call ∈ s.calls, s.CallOk lib cfg call

end Process

theorem CurrentOnce.mono {history history' : List (String × String)} {audience : String}
    {b : SecretBundle} (h : CurrentOnce history audience b) (hsub : history ⊆ history') :
    CurrentOnce history' audience b :=
  ⟨h.1, fun secret hsecret => hsub (h.2 secret hsecret)⟩

section

variable {lib : PyJwt} {cfg : VerifyConfig} {s s' : Process}

theorem Vouched.mono {token : String} {startedAt : ℕ} {payload : Params}
    (h : Vouched lib cfg s token startedAt payload) (hgrows : s.Grows s')
    (hseparate : OneOwner s'.history) : Vouched lib cfg s' token startedAt payload := by
  obtain ⟨secret, hun, hsigned, hpast, -⟩ := h.signed
  refine { h with signed := ⟨secret, hun, hgrows.signed hsigned, hgrows.history hpast, ?_⟩ }
  intro audience haudience
  exact hseparate _ haudience _ (hgrows.history hpast) rfl

namespace Process

/-- A state with the same tokens, secrets and clock. -/
theorem Grows.same {bundles : AList fun _ : String => SecretBundle}
    {reading : Option SecretBundle} {calls : List VerifyCall} :
    s.Grows { s with bundles := bundles, reading := reading, calls := calls } :=
  ⟨fun _ hp => hp, fun _ hp => hp, le_rfl⟩

theorem CallOk.mono {call : VerifyCall} (h : s.CallOk lib cfg call) (hgrows : s.Grows s')
    (hseparate : OneOwner s'.history) : s'.CallOk lib cfg call := by
  unfold CallOk at h ⊢
  split at h
  · obtain ⟨hvouched, hchecked, haudience⟩ := h
    refine ⟨hvouched.mono hgrows hseparate, ?_, haudience⟩
    exact hchecked.mono (fun _ hs => hgrows.history hs) hgrows.now
  · exact { h with vouched := h.vouched.mono hgrows hseparate }
  · trivial

theorem cache_mono
    (h : EarnedCache lib (s.service cfg)
      (fun secret => (cfg.audience, secret) ∈ s.history) s.world)
    (hgrows : s.Grows s') (hcache : s'.world.jwtCache = s.world.jwtCache) :
    EarnedCache lib (s'.service cfg)
      (fun secret => (cfg.audience, secret) ∈ s'.history) s'.world := by
  intro p hp
  rw [hcache] at hp
  exact (h p hp).mono (fun _ hs => hgrows.history hs) hgrows.now

/-- Verification tries no other secrets than those held. -/
theorem Inv.secrets (h : s.Inv lib cfg) :
    ∀ secret ∈ (s.service cfg).bundle.secrets, (cfg.audience, secret) ∈ s.history := by
  intro secret hsecret
  obtain ⟨hmem, hne⟩ := List.mem_filter.mp hsecret
  unfold service at hmem
  cases hb : s.bundles.lookup cfg.audience with
  | none =>
      rw [hb] at hmem
      obtain rfl : secret = "" := by simpa using hmem
      simp at hne
  | some b =>
      rw [hb] at hmem
      refine (h.held _ _ hb).2 secret ?_
      simpa [Option.mem_toList, Option.mem_def] using hmem

/-- **The first half of a call** vouches for the payload. -/
theorem Inv.startCall_ok (h : s.Inv lib cfg) {token : String} {p : Pending}
    (hsound : KeysSound lib s (.start token))
    (hp : (lookUp lib (s.service cfg) token s.world).1 = .ok p) :
    Vouched lib cfg s token s.world.now p.payload ∧
      p.Ready lib (s.service cfg) (fun secret => (cfg.audience, secret) ∈ s.history)
        s.world.now token := by
  have hready := lookUp_ready h.cache h.secrets hp
  refine ⟨?_, hready⟩
  obtain ⟨secret, hpast, hun⟩ := hready.1.signed
  obtain ⟨t, ht, hclaims⟩ := hready.1.claims
  have hrequired := required_of_valid hclaims
  constructor
  · refine ⟨secret, hun, hsound secret (by rw [hun]; rfl), hpast, ?_⟩
    intro audience haudience
    exact h.separate _ haudience _ hpast rfl
  · exact str_of_asStr hready.1.audience
  · rcases lookUp_ok hp with ⟨entry, hentry, rfl⟩ | ⟨payload, -, hdecode, haud, rfl⟩
    · -- an entry is used before `exp`, without the leeway
      obtain ⟨hearned, hlive⟩ := earned_of_cachedEntry h.cache hentry
      refine ⟨entry.expiresAt, hearned.expiresAt, hlive.trans_le ?_⟩
      refine (le_max_right 0 entry.expiresAt).trans ?_
      exact le_add_of_nonneg_right (by positivity)
    · have hvalid := (checked_of_decode hdecode haud).2
      rw [validClaims_later hvalid le_rfl] at hvalid
      exact before_exp hvalid
  · intro key hkey
    rw [List.any_eq_false] at hrequired
    have hsome := hrequired key (by
      simp only [List.mem_cons, List.not_mem_nil, or_false] at hkey ⊢
      tauto)
    simpa [Option.isSome_iff_ne_none] using hsome

/-- A transaction on one audience, whose new secret is no other's. -/
theorem Inv.of_shifts (h : s.Inv lib cfg) {audience new : String} {store : SecretStore}
    (hshift : SecretStore.Shifts audience new s.store store)
    (hfresh : ∀ p ∈ s.history, p.2 = new → p.1 = audience) :
    (s.stored audience store).Inv lib cfg := by
  obtain ⟨row, hrow, hcases⟩ := hshift.row
  have hhistory : (s.stored audience store).history =
      (audience, row.current) :: s.history := by
    simp [Process.stored, hrow]
  have hgrows : s.Grows (s.stored audience store) :=
    ⟨by rw [hhistory]; exact List.subset_cons_self _ _, fun _ hp => hp, le_rfl⟩
  -- the new secret has no owner yet, or this one
  have hseparate : OneOwner (s.stored audience store).history := by
    have hhead : ∀ p ∈ s.history, p.2 = row.current → p.1 = audience := by
      intro p hp heq
      rcases hcases with hold | ⟨hnew, -⟩
      · have hheld := h.stored audience ⟨audience, row.current, row.previous⟩ (by
          simp [SecretStore.getBundle, hold])
        exact h.separate p hp _ (hheld.2 row.current (.inl rfl)) heq
      · exact hfresh p hp (heq.trans hnew)
    rw [hhistory]
    intro p hp q hq heq
    rcases List.mem_cons.mp hp with rfl | hp
    · rcases List.mem_cons.mp hq with rfl | hq
      · rfl
      · exact (hhead q hq heq.symm).symm
    · rcases List.mem_cons.mp hq with rfl | hq
      · exact hhead p hp heq
      · exact h.separate p hp q hq heq
  constructor
  · intro other b hb
    obtain ⟨row', hrow', rfl⟩ := Option.map_eq_some_iff.mp hb
    by_cases hother : other = audience
    · subst hother
      obtain rfl := Option.some.inj (hrow.symm.trans hrow')
      refine ⟨rfl, ?_⟩
      rintro secret (rfl | hprevious)
      · rw [hhistory]
        exact List.mem_cons_self
      · apply hgrows.history
        rcases hcases with hold | ⟨-, hkept⟩
        · exact (h.stored other ⟨other, row.current, row.previous⟩ (by
            simp [SecretStore.getBundle, hold])).2 secret (.inr hprevious)
        · -- the secret before the new one was current
          obtain ⟨old, hold, rfl⟩ := Option.map_eq_some_iff.mp (hkept ▸ hprevious)
          exact (h.stored other ⟨other, old.current, old.previous⟩ (by
            simp [SecretStore.getBundle, hold])).2 old.current (.inl rfl)
    · have hkept : s.store.lookup other = some row' := hshift.others other hother ▸ hrow'
      exact (h.stored other ⟨other, row'.current, row'.previous⟩ (by
        simp [SecretStore.getBundle, hkept])).mono hgrows.history
  · exact fun b hb => (h.reading b hb).mono hgrows.history
  · exact fun other b hb => (h.held other b hb).mono hgrows.history
  · exact hseparate
  · exact cache_mono h.cache hgrows rfl
  · exact fun call hcall => (h.calls call hcall).mono hgrows hseparate

theorem Inv.answered (h : s.Inv lib cfg) {token : String} {startedAt i : ℕ} {p : Pending}
    {checker : Checker} (hcall : s.calls[i]? = some ⟨token, startedAt, .waiting p⟩) :
    Process.Inv lib cfg { s with
      world := (finish (s.service cfg) (checker.ask p) token p s.world).2
      calls := s.calls.set i ⟨token, startedAt, s.endCall cfg checker token p⟩ } := by
  obtain ⟨hvouched, hready⟩ := h.calls _ (List.mem_of_getElem? hcall)
  have hgrows : ∀ calls, s.Grows { s with
      world := (finish (s.service cfg) (checker.ask p) token p s.world).2
      calls := calls } := fun _ => ⟨fun _ hp => hp, fun _ hp => hp, (finish_now ..).ge⟩
  refine { h with cache := finish_earned h.cache hready _, calls := ?_ }
  intro call hmem
  rcases List.mem_or_eq_of_mem_set hmem with hmem | rfl
  · exact (h.calls call hmem).mono (hgrows _) h.separate
  · unfold CallOk endCall
    dsimp only
    split
    · rename_i auth hstate
      split at hstate
      · cases hstate
      · cases hstate
    · -- a call that returns has passed the check, and names a tenant
      rename_i p' checker' auth hstate
      split at hstate
      · rename_i auth' hok
        cases hstate
        obtain ⟨hpassed, rfl⟩ := finish_ok hok
        obtain ⟨tid, htid⟩ :=
          Option.isSome_iff_exists.mp (hvouched.present "tid" (by simp))
        refine ⟨hvouched.mono (hgrows _) h.separate, ?_, rfl, ⟨tid, htid, ?_⟩, hready.2⟩
        · intro hasRevoked jti hjti htruthy
          have hasked : checker.ask p = checker jti := by
            rw [Checker.ask, hjti]
            rfl
          rw [← hasked]
          exact checkRevocation_ok hpassed hasRevoked jti hjti htruthy
        · simp [toAuth, htid]
      · cases hstate
    · trivial

/-- A step of the process. -/
theorem Inv.step {l : ProcessStep} (h : s.Inv lib cfg) (hsound : KeysSound lib s l)
    (hstep : s.step lib cfg l = some s') : s'.Inv lib cfg := by
  cases l with
  | seed audience secret =>
      obtain rfl := Option.some.inj hstep
      exact h.of_shifts SecretStore.seed_shifts hsound
  | rotate audience new =>
      obtain rfl := Option.some.inj hstep
      exact h.of_shifts SecretStore.rotate_shifts hsound
  | sign token secret =>
      obtain rfl := Option.some.inj hstep
      refine { h with calls := ?_ }
      intro call hcall
      refine (h.calls call hcall).mono ⟨fun _ hp => hp, ?_, le_rfl⟩ h.separate
      exact List.subset_cons_self _ _
  | readBundle audience =>
      simp only [Process.step] at hstep
      split at hstep
      · cases hstep
      · obtain ⟨b, hb, rfl⟩ := Option.map_eq_some_iff.mp hstep
        refine { h with reading := ?_, calls := ?_ }
        · rintro b' hb'
          obtain rfl := Option.some.inj hb'
          have hheld := h.stored audience b hb
          exact ⟨rfl, hheld.1.symm ▸ hheld.2⟩
        · exact fun call hcall => (h.calls call hcall).mono .same h.separate
  | setBundle =>
      -- the store may have rotated since, but the secrets stay in the history
      obtain ⟨b, hb, rfl⟩ := Option.map_eq_some_iff.mp hstep
      refine { h with reading := ?_, held := ?_, calls := ?_ }
      · intro b' hb'
        cases hb'
      · intro audience b' hb'
        by_cases haudience : audience = b.audience
        · subst haudience
          rw [AList.lookup_insert] at hb'
          obtain rfl := Option.some.inj hb'
          exact h.reading b hb
        · rw [AList.lookup_insert_ne haudience] at hb'
          exact h.held audience b' hb'
      · exact fun call hcall => (h.calls call hcall).mono .same h.separate
  | start token =>
      obtain rfl := Option.some.inj hstep
      have hnew : s.CallOk lib cfg ⟨token, s.world.now, s.startCall lib cfg token⟩ := by
        unfold CallOk startCall
        split_ifs
        · trivial
        · cases hp : (lookUp lib (s.service cfg) token s.world).1 with
          | ok p => exact h.startCall_ok hsound hp
          | error x => trivial
      refine { h with calls := ?_ }
      intro call hcall
      rcases List.mem_append.mp hcall with hcall | hcall
      · exact (h.calls call hcall).mono .same h.separate
      · rw [List.mem_singleton.mp hcall]
        exact hnew.mono .same h.separate
  | answer i checker =>
      simp only [Process.step] at hstep
      split at hstep
      · rename_i token startedAt p hcall
        obtain rfl := Option.some.inj hstep
        exact h.answered hcall
      · cases hstep
  | pass d =>
      obtain rfl := Option.some.inj hstep
      have hgrows : s.Grows { s with world := s.world.advance d } :=
        ⟨fun _ hp => hp, fun _ hp => hp, Nat.le_add_right _ _⟩
      refine { h with cache := cache_mono h.cache hgrows rfl, calls := ?_ }
      exact fun call hcall => (h.calls call hcall).mono hgrows h.separate

theorem Inv.of_start (h : (processSystem lib cfg).start s) : s.Inv lib cfg := by
  obtain ⟨hstore, hhistory, -, hbundles, hreading, hcache, hcalls⟩ := h
  constructor
  · intro audience b hb
    rw [hstore] at hb
    cases hb
  · intro b hb
    cases hreading.symm.trans hb
  · intro audience b hb
    rw [hbundles] at hb
    cases hb
  · intro p hp
    rw [hhistory] at hp
    cases hp
  · intro p hp
    rw [hcache] at hp
    cases hp
  · intro call hcall
    rw [hcalls] at hcall
    cases hcall

end Process

end

/-- **Verification is sound**: in every history, what a returned context vouches for. -/
theorem verification_sound {lib : PyJwt} {cfg : VerifyConfig} {s : Process}
    (hs : (processSystem lib cfg).Reached (KeysSound lib) s) {call : VerifyCall}
    (hcall : call ∈ s.calls) {p : Pending} {checker : Checker} {auth : AuthContext}
    (hreturned : call.state = .returned p checker auth) :
    SoundAnswer lib cfg s call p checker auth := by
  have hinv : s.Inv lib cfg := hs.invariant (fun _ h => .of_start h)
    (fun _ _ _ h hsound hstep => h.step hsound hstep)
  have hok := hinv.calls call hcall
  unfold Process.CallOk at hok
  rw [hreturned] at hok
  exact hok

def sampleConfig : VerifyConfig := ⟨"worker", true, defaultTtlSec, defaultLeewaySec⟩

/-- A deny-list without entries. -/
def noneRevoked : Checker := fun _ => .answer false

/-- A process with its first bundle, and a token signed under it. -/
def loadedProcess (token : String) : Process where
  store := SecretStore.seed "worker" "k1" 0 ∅
  history := [("worker", "k1")]
  signed := [(token, "k1")]
  bundles := (∅ : AList fun _ : String => SecretBundle).insert "worker"
    ⟨"worker", "k1", none⟩
  reading := none
  world := World.fresh
  calls := []

def freshPending : Pending := ⟨freshClaims, "worker", false⟩

theorem loadedProcess_reached (lib : PyJwt) (token : String) :
    (processSystem lib sampleConfig).Reached (KeysSound lib) (loadedProcess token) := by
  have h0 : (processSystem lib sampleConfig).Reached (KeysSound lib)
      ⟨∅, [], [], ∅, none, World.fresh, []⟩ :=
    .start ⟨rfl, rfl, rfl, rfl, rfl, rfl, rfl⟩
  have hfresh : KeysSound lib ⟨∅, [], [], ∅, none, World.fresh, []⟩
      (ProcessStep.seed "worker" "k1") := fun p hp => by cases hp
  have h1 := h0.step hfresh rfl
  have h2 := h1.step (a := ProcessStep.sign token "k1") (by trivial) rfl
  have h3 := h2.step (a := ProcessStep.readBundle "worker") (by trivial) rfl
  exact h3.step (a := ProcessStep.setBundle) (by trivial) rfl

/-- The token goes through the first half of a call. -/
theorem loadedProcess_startCall {lib : PyJwt} {token : String}
    (hun : lib.unsign token "k1" = some freshClaims) :
    (loadedProcess token).startCall lib sampleConfig token = .waiting freshPending := by
  have hservice : (loadedProcess token).service sampleConfig = sampleVerifier.svc := rfl
  have hworld : (loadedProcess token).world = World.fresh := rfl
  unfold Process.startCall
  rw [hservice, hworld, sampleVerifier_lookUp hun]
  rfl

/-- After the call. -/
def checkedProcess (token : String) : Process :=
  { loadedProcess token with
    world := { World.fresh with
      jwtCache := [(token, ⟨freshClaims, "worker", defaultTtlSec * second⟩)] }
    calls := [⟨token, 0, .returned freshPending noneRevoked (toAuth freshClaims "worker")⟩] }

theorem checkedProcess_reached {lib : PyJwt} {token : String}
    (hun : lib.unsign token "k1" = some freshClaims)
    (hother : ∀ secret, (lib.unsign token secret).isSome = true → secret = "k1") :
    (processSystem lib sampleConfig).Reached (KeysSound lib) (checkedProcess token) := by
  have hstart : (processSystem lib sampleConfig).Reached (KeysSound lib)
      { loadedProcess token with calls := [⟨token, 0, .waiting freshPending⟩] } := by
    refine (loadedProcess_reached lib token).step (a := .start token) ?_ ?_
    · intro secret hsecret
      obtain rfl := hother secret hsecret
      exact List.mem_cons_self
    · simp only [processSystem, Process.step, loadedProcess_startCall hun]
      rfl
  exact hstart.step (a := .answer 0 noneRevoked) trivial rfl

theorem freshToken_secret (secret : String)
    (h : ((standardPyJwt joinMac).unsign (freshToken joinMac) secret).isSome = true) :
    secret = "k1" := by
  by_contra hne
  rw [freshToken_unsign_other] at h
  · cases h
  · intro hbytes
    have htext := congrArg ofUtf8 hbytes
    rw [ofUtf8_utf8, ofUtf8_utf8] at htext
    exact hne (Option.some.inj htext).symm

theorem verification_sound_fresh :
    SoundAnswer (standardPyJwt joinMac) sampleConfig (checkedProcess (freshToken joinMac))
      ⟨freshToken joinMac, 0, .returned freshPending noneRevoked
        (toAuth freshClaims "worker")⟩
      freshPending noneRevoked (toAuth freshClaims "worker") :=
  verification_sound (checkedProcess_reached freshToken_unsign freshToken_secret)
    List.mem_cons_self rfl

end AlertTriage
