import AlertTriage.Runtime.TokenLifetime

/-!
# The verify cache

`verify` has one await, at the deny-list. Before it a token is looked up or decoded
(`lookUp`), after it the call ends and a decoded token goes to the cache (`finish`).
Every entry of the cache was signed under a secret that the service had and met the
claim checks then (`Earned`). An entry is used until its own `exp` without another
look at the secrets, so a service with an empty cache answers otherwise for a token
whose secret has been rotated out since, and for no other (`cache_transparent_iff`).
-/

namespace AlertTriage

open Library

/-! ## §1  Two halves of `verify` -/

/-- A token on its way through `verify`, from the cache or decoded. -/
structure Pending where
  payload : Params
  audience : String
  cached : Bool

/-- Up to the await. -/
def lookUp (lib : PyJwt) (svc : JwtService) (token : String) : Io Pending := do
  let w ← Run.get
  match cachedEntry token w with
  | some entry => return ⟨entry.payload, entry.audience, true⟩
  | none =>
      match decodeWithRotation lib svc token w.now with
      | none => Run.throw (.jwtError "token verification failed")
      | some payload =>
          if (claim "aud" payload).bind Json.asStr? ≠ some svc.audience then
            Run.throw (.jwtError "audience mismatch")
          else if ["sub", "tid", "jti", "iat", "exp"].any
              fun key => (claim key payload).isNone then
            Run.throw (.jwtError "missing required claim")
          else return ⟨payload, svc.audience, false⟩

/-- From the await on. -/
def finish (svc : JwtService) (e : RevokedAnswer) (token : String) (p : Pending) :
    Io AuthContext := do
  checkRevocation svc e (claim "jti" p.payload)
  if p.cached then return toAuth p.payload p.audience
  else do
    remember svc token p.payload
    return toAuth p.payload p.audience

theorem verify_eq (lib : PyJwt) (svc : JwtService) (e : RevokedAnswer) (token : String) :
    verify lib svc e token = lookUp lib svc token >>= finish svc e token := by
  funext w
  simp only [verify, lookUp, Run.bind_apply, Run.get_apply]
  cases cachedEntry token w with
  | some entry => rfl
  | none =>
      dsimp only
      cases decodeWithRotation lib svc token w.now with
      | none => rfl
      | some payload =>
          dsimp only
          split
          · rfl
          · split <;> rfl

/-! ## §2  What is in the cache -/

/-- The payload was signed under a secret and met all checks at a time that is past. -/
structure Checked (lib : PyJwt) (audience : String) (leeway : ℕ) (P : String → Prop)
    (now : ℕ) (token : String) (payload : Params) : Prop where
  signed : ∃ secret, P secret ∧ lib.unsign token secret = some payload
  claims : ∃ t ≤ now, validClaims audience leeway t payload = true
  audience : (claim "aud" payload).bind Json.asStr? = some audience

/-- An entry is the checked payload with its own `exp`. -/
structure Earned (lib : PyJwt) (audience : String) (leeway : ℕ) (P : String → Prop)
    (now : ℕ) (token : String) (entry : JwtCacheEntry) : Prop where
  checked : Checked lib audience leeway P now token entry.payload
  audience : entry.audience = audience
  expiresAt : (claim "exp" entry.payload).bind pyMicros = some entry.expiresAt

/-- All entries are earned, under secrets that meet `P`. -/
def EarnedCache (lib : PyJwt) (svc : JwtService) (P : String → Prop) (w : World) : Prop :=
  ∀ p ∈ w.jwtCache, Earned lib svc.audience svc.leeway P w.now p.1 p.2

theorem Checked.mono {lib : PyJwt} {audience token : String} {leeway now now' : ℕ}
    {P P' : String → Prop} {payload : Params}
    (h : Checked lib audience leeway P now token payload) (hP : ∀ s, P s → P' s)
    (hnow : now ≤ now') : Checked lib audience leeway P' now' token payload := by
  obtain ⟨secret, hsecret, hun⟩ := h.signed
  obtain ⟨t, ht, hclaims⟩ := h.claims
  exact ⟨⟨secret, hP secret hsecret, hun⟩, ⟨t, ht.trans hnow, hclaims⟩, h.audience⟩

theorem Earned.mono {lib : PyJwt} {audience token : String} {leeway now now' : ℕ}
    {P P' : String → Prop} {entry : JwtCacheEntry}
    (h : Earned lib audience leeway P now token entry) (hP : ∀ s, P s → P' s)
    (hnow : now ≤ now') : Earned lib audience leeway P' now' token entry :=
  ⟨h.checked.mono hP hnow, h.audience, h.expiresAt⟩

theorem mem_of_mem_maybeEvict {now : ℕ} {cache : List (String × JwtCacheEntry)}
    {p : String × JwtCacheEntry} (h : p ∈ maybeEvict now cache) : p ∈ cache := by
  unfold maybeEvict at h
  split at h
  · exact h
  · dsimp only at h
    split at h
    · exact List.mem_of_mem_filter (List.mem_of_mem_filter h)
    · exact List.mem_of_mem_filter h

theorem earned_of_cachedEntry {lib : PyJwt} {svc : JwtService} {P : String → Prop}
    {w : World} {token : String} {entry : JwtCacheEntry} (h : EarnedCache lib svc P w)
    (hentry : cachedEntry token w = some entry) :
    Earned lib svc.audience svc.leeway P w.now token entry ∧
      (w.now : ℤ) < entry.expiresAt := by
  unfold cachedEntry at hentry
  split at hentry
  · rename_i entry' hlookup
    split at hentry
    · rename_i hlive
      obtain rfl := Option.some.inj hentry
      exact ⟨h _ (Json.mem_of_lookup hlookup), hlive⟩
    · cases hentry
  · cases hentry

theorem checked_of_decode {lib : PyJwt} {svc : JwtService} {token : String} {now : ℕ}
    {payload : Params} (h : decodeWithRotation lib svc token now = some payload)
    (haud : (claim "aud" payload).bind Json.asStr? = some svc.audience) :
    Checked lib svc.audience svc.leeway (· ∈ svc.bundle.secrets) now token payload ∧
      validClaims svc.audience svc.leeway now payload = true := by
  obtain ⟨secret, hsecret, hdecode⟩ := List.exists_of_findSome?_eq_some h
  rw [lib.decode_eq, Option.filter_eq_some_iff] at hdecode
  obtain ⟨hun, hclaims⟩ := hdecode
  exact ⟨⟨⟨secret, hsecret, hun⟩, ⟨now, le_rfl, hclaims⟩, haud⟩, hclaims⟩

/-- Looking up touches nothing. -/
theorem lookUp_world (lib : PyJwt) (svc : JwtService) (token : String) (w : World) :
    (lookUp lib svc token w).2 = w := by
  simp only [lookUp, Run.bind_apply, Run.get_apply]
  cases cachedEntry token w with
  | some entry => rfl
  | none =>
      dsimp only
      cases decodeWithRotation lib svc token w.now with
      | none => rfl
      | some payload =>
          dsimp only
          split
          · rfl
          · split <;> rfl

/-- Where a pending token comes from. -/
theorem lookUp_ok {lib : PyJwt} {svc : JwtService} {token : String} {w : World}
    {p : Pending} (h : (lookUp lib svc token w).1 = .ok p) :
    (∃ entry, cachedEntry token w = some entry ∧
      p = ⟨entry.payload, entry.audience, true⟩) ∨
    ∃ payload, cachedEntry token w = none ∧
      decodeWithRotation lib svc token w.now = some payload ∧
      (claim "aud" payload).bind Json.asStr? = some svc.audience ∧
      p = ⟨payload, svc.audience, false⟩ := by
  simp only [lookUp, Run.bind_apply, Run.get_apply] at h
  cases hentry : cachedEntry token w with
  | some entry =>
      rw [hentry] at h
      exact .inl ⟨entry, rfl, (Except.ok.inj h).symm⟩
  | none =>
      rw [hentry] at h
      dsimp only at h
      cases hdecode : decodeWithRotation lib svc token w.now with
      | none =>
          rw [hdecode] at h
          cases h
      | some payload =>
          rw [hdecode] at h
          dsimp only at h
          split at h
          · cases h
          · rename_i haud
            split at h
            · cases h
            · exact .inr ⟨payload, rfl, rfl, not_not.mp haud, (Except.ok.inj h).symm⟩

/-- The deny-list may make the cache forget a key. -/
theorem checkRevocation_cache (svc : JwtService) (e : RevokedAnswer) (jti : Option Json)
    (w : World) :
    (checkRevocation svc e jti w).2.now = w.now ∧
      ∀ p ∈ (checkRevocation svc e jti w).2.jwtCache, p ∈ w.jwtCache := by
  unfold checkRevocation
  split
  · exact ⟨rfl, fun _ hp => hp⟩
  split
  · exact ⟨rfl, fun _ hp => hp⟩
  split
  · exact ⟨rfl, fun _ hp => hp⟩
  · exact ⟨rfl, fun _ hp => hp⟩
  · exact ⟨rfl, fun _ hp => hp⟩
  · exact ⟨rfl, fun _ hp => List.mem_of_mem_filter hp⟩

/-- What a pending token must be for the cache to take it. -/
def Pending.Ready (lib : PyJwt) (svc : JwtService) (P : String → Prop) (now : ℕ)
    (token : String) (p : Pending) : Prop :=
  Checked lib svc.audience svc.leeway P now token p.payload ∧ p.audience = svc.audience

theorem lookUp_ready {lib : PyJwt} {svc : JwtService} {P : String → Prop} {w : World}
    {token : String} {p : Pending} (hcache : EarnedCache lib svc P w)
    (hP : ∀ s ∈ svc.bundle.secrets, P s) (h : (lookUp lib svc token w).1 = .ok p) :
    p.Ready lib svc P w.now token := by
  rcases lookUp_ok h with ⟨entry, hentry, rfl⟩ | ⟨payload, -, hdecode, haud, rfl⟩
  · have hearned := (earned_of_cachedEntry hcache hentry).1
    exact ⟨hearned.checked, hearned.audience⟩
  · exact ⟨(checked_of_decode hdecode haud).1.mono hP le_rfl, rfl⟩

theorem finish_earned {lib : PyJwt} {svc : JwtService} {P : String → Prop} {w : World}
    {token : String} {p : Pending} (hcache : EarnedCache lib svc P w)
    (hready : p.Ready lib svc P w.now token) (e : RevokedAnswer) :
    EarnedCache lib svc P (finish svc e token p w).2 := by
  obtain ⟨hnow, hkept⟩ := checkRevocation_cache svc e (claim "jti" p.payload) w
  have hafter : EarnedCache lib svc P (checkRevocation svc e (claim "jti" p.payload) w).2 := by
    intro q hq
    rw [hnow]
    exact hcache q (hkept q hq)
  unfold finish
  rw [Run.bind_apply]
  split
  · rename_i w' heq
    rw [heq] at hafter hnow
    dsimp only at hafter hnow
    split
    · exact hafter
    · rw [Run.bind_apply]
      -- the entry written is the token's own, checked just now
      have hremember : EarnedCache lib svc P (remember svc token p.payload w').2 := by
        unfold remember
        split
        · exact hafter
        · rename_i t ht
          intro q hq
          rcases Json.mem_upsert hq with rfl | hq
          · refine ⟨?_, rfl, ht⟩
            have hchecked := hready.1
            rw [← hnow] at hchecked
            exact hchecked
          · exact hafter q (mem_of_mem_maybeEvict hq)
      split
      · rename_i heq'
        rw [heq'] at hremember
        exact hremember
      · rename_i heq'
        rw [heq'] at hremember
        exact hremember
  · rename_i heq
    rw [heq] at hafter
    exact hafter

theorem verify_earned {lib : PyJwt} {svc : JwtService} {P : String → Prop} {w : World}
    (hcache : EarnedCache lib svc P w) (hP : ∀ s ∈ svc.bundle.secrets, P s)
    (e : RevokedAnswer) (token : String) :
    EarnedCache lib svc P (verify lib svc e token w).2 := by
  have hworld := lookUp_world lib svc token w
  rw [verify_eq, Run.bind_apply]
  split
  · rename_i p w' heq
    rw [heq] at hworld
    obtain rfl : w' = w := hworld
    exact finish_earned hcache (lookUp_ready hcache hP (by rw [heq])) e
  · rename_i x w' heq
    rw [heq] at hworld
    obtain rfl : w' = w := hworld
    exact hcache

/-! ## §3  Histories of a service -/

/-- A `JWTService` with the bundle that its authority holds at present. -/
structure Verifier where
  svc : JwtService
  world : World

inductive VerifierStep where
  | mint (subject tenantId targetAudience : String) (role : Option String)
      (extra : Params) (jti : String)
  /-- A call, with what the deny-list answers in it. -/
  | verify (e : RevokedAnswer) (token : String)
  | refresh (bundle : SecretBundle)
  | pass (d : ℕ)

def Verifier.step (lib : PyJwt) (v : Verifier) : VerifierStep → Option Verifier
  | .mint _ _ _ _ _ _ => some v
  | .verify e token => some { v with world := (verify lib v.svc e token v.world).2 }
  | .refresh bundle =>
      if bundle.audience = v.svc.audience then
        some { v with svc := { v.svc with bundle := bundle } }
      else none
  | .pass d => some { v with world := v.world.advance d }

def verifierSystem (lib : PyJwt) : System Verifier VerifierStep where
  start := fun v => v.world.jwtCache = []
  step := Verifier.step lib

theorem earned_of_reachable {lib : PyJwt} {v : Verifier}
    (hv : (verifierSystem lib).Reachable v) :
    EarnedCache lib v.svc (fun _ => True) v.world := by
  refine hv.invariant (P := fun v => EarnedCache lib v.svc (fun _ => True) v.world) ?_ ?_
  · intro v hstart p hp
    rw [show v.world.jwtCache = [] from hstart] at hp
    cases hp
  · rintro v l v' hinv - hstep
    cases l with
    | mint subject tenantId targetAudience role extra jti =>
        obtain rfl := Option.some.inj hstep
        exact hinv
    | verify e token =>
        obtain rfl := Option.some.inj hstep
        exact verify_earned hinv (fun _ _ => trivial) e token
    | refresh bundle =>
        simp only [verifierSystem, Verifier.step] at hstep
        split at hstep
        · obtain rfl := Option.some.inj hstep
          exact hinv
        · cases hstep
    | pass d =>
        obtain rfl := Option.some.inj hstep
        intro p hp
        exact (hinv p hp).mono (fun _ hs => hs) (Nat.le_add_right _ _)

/-! ## §4  With and without the cache -/

/-- The same process with nothing cached. -/
def World.uncached (w : World) : World := { w with jwtCache := [] }

/-- Both calls return the same context, or both raise a `JWTError`. -/
def SameAnswer (x y : Except (Unwind PyExn) AuthContext) : Prop :=
  x = y ∨ ∃ reason reason', x = .error (.exception (.jwtError reason)) ∧
    y = .error (.exception (.jwtError reason'))

/-- The token is in the cache with its `exp` ahead and is not revoked, and the present
bundle does not verify it. -/
def RotatedOut (lib : PyJwt) (svc : JwtService) (e : RevokedAnswer) (token : String)
    (w : World) : Prop :=
  ∃ entry, cachedEntry token w = some entry ∧ isRevoked svc e entry.payload = false ∧
    (signedByBundle lib svc token = false ∨
      beforeExpiry svc.leeway w.now entry.payload = false)

theorem cachedEntry_uncached (token : String) (w : World) :
    cachedEntry token w.uncached = none := rfl

theorem checkRevocation_answer (svc : JwtService) {e : RevokedAnswer} (he : e ≠ .killed)
    (payload : Params) (w : World) :
    (isRevoked svc e payload = true ∧ ∃ reason w',
        checkRevocation svc e (claim "jti" payload) w =
          (.error (.exception (.jwtError reason)), w')) ∨
      (isRevoked svc e payload = false ∧
        checkRevocation svc e (claim "jti" payload) w = (.ok (), w)) := by
  rcases checkRevocation_result svc e payload w with hrevoked | ⟨hnot, hok | hkill⟩
  · exact .inl hrevoked
  · exact .inr ⟨hnot, hok⟩
  · exfalso
    unfold checkRevocation at hkill
    split at hkill
    · cases hkill
    split at hkill
    · cases hkill
    split at hkill
    · exact he rfl
    · cases hkill
    · cases hkill
    · cases hkill

/-- What the rest of a call returns that finds its payload good. -/
theorem finish_answer {svc : JwtService} {e : RevokedAnswer} (he : e ≠ .killed)
    (token : String) {p : Pending} {t : ℤ}
    (ht : (claim "exp" p.payload).bind pyMicros = some t) (w : World) :
    (isRevoked svc e p.payload = true ∧ ∃ reason,
        (finish svc e token p w).1 = .error (.exception (.jwtError reason))) ∨
      (isRevoked svc e p.payload = false ∧
        (finish svc e token p w).1 = .ok (toAuth p.payload p.audience)) := by
  rcases checkRevocation_answer svc he p.payload w with
    ⟨hrevoked, reason, w', hc⟩ | ⟨hnot, hc⟩
  · refine .inl ⟨hrevoked, reason, ?_⟩
    rw [finish, Run.bind_apply, hc]
  · refine .inr ⟨hnot, ?_⟩
    rw [finish, Run.bind_apply, hc]
    dsimp only
    split
    · rfl
    · rw [Run.bind_apply, remember, ht]
      rfl

/-- The rest of a call returns the same whatever else is cached. -/
theorem finish_congr (svc : JwtService) (e : RevokedAnswer) (token : String) (p : Pending)
    (w w' : World) : (finish svc e token p w).1 = (finish svc e token p w').1 := by
  have hcheck : (checkRevocation svc e (claim "jti" p.payload) w).1 =
      (checkRevocation svc e (claim "jti" p.payload) w').1 := by
    unfold checkRevocation
    split
    · rfl
    split
    · rfl
    split <;> rfl
  have hremember : ∀ w w' : World,
      (remember svc token p.payload w).1 = (remember svc token p.payload w').1 := by
    intro w w'
    unfold remember
    split <;> rfl
  unfold finish
  refine Run.bind_fst_congr hcheck fun _ t t' => ?_
  split
  · rfl
  · exact Run.bind_fst_congr (hremember t t') fun _ _ _ => rfl

/-- Without an entry for the token the rest of the cache does not matter. -/
theorem verify_uncached {lib : PyJwt} {svc : JwtService} {e : RevokedAnswer}
    {token : String} {w : World} (h : cachedEntry token w = none) :
    (verify lib svc e token w).1 = (verify lib svc e token w.uncached).1 := by
  have hlookUp : (lookUp lib svc token w).1 = (lookUp lib svc token w.uncached).1 := by
    have hnow : w.uncached.now = w.now := rfl
    simp only [lookUp, Run.bind_apply, Run.get_apply, h, cachedEntry_uncached, hnow]
    cases decodeWithRotation lib svc token w.now with
    | none => rfl
    | some payload =>
        dsimp only
        split
        · rfl
        · split <;> rfl
  rw [verify_eq]
  exact Run.bind_fst_congr hlookUp fun p t t' => finish_congr svc e token p t t'

/-- A decoded token with an empty cache. -/
theorem verify_decoded {lib : PyJwt} {svc : JwtService} {e : RevokedAnswer}
    {token : String} {w : World} {payload : Params}
    (hdecode : decodeWithRotation lib svc token w.now = some payload)
    (haud : (claim "aud" payload).bind Json.asStr? = some svc.audience) :
    (verify lib svc e token w.uncached).1 =
      (finish svc e token ⟨payload, svc.audience, false⟩ w.uncached).1 := by
  have hrequired := required_of_valid (checked_of_decode hdecode haud).2
  have hdecode' : decodeWithRotation lib svc token w.uncached.now = some payload := hdecode
  rw [verify_eq, Run.bind_apply]
  simp only [lookUp, Run.bind_apply, Run.get_apply, cachedEntry_uncached, hdecode', haud,
    ne_eq, not_true_eq_false, if_false, hrequired, Bool.false_eq_true, Run.pure_apply]

/-- **The cache is transparent** but for tokens whose secret has been rotated out. -/
theorem cache_transparent_iff {lib : PyJwt} {v : Verifier}
    (hv : (verifierSystem lib).Reachable v) {e : RevokedAnswer} (he : e ≠ .killed)
    (token : String) :
    SameAnswer (verify lib v.svc e token v.world).1
        (verify lib v.svc e token v.world.uncached).1 ↔
      ¬ RotatedOut lib v.svc e token v.world := by
  cases hentry : cachedEntry token v.world with
  | none =>
      refine iff_of_true (.inl (verify_uncached hentry)) ?_
      rintro ⟨entry, hsome, -⟩
      cases hentry.symm.trans hsome
  | some entry =>
      obtain ⟨hearned, -⟩ := earned_of_cachedEntry (earned_of_reachable hv) hentry
      obtain ⟨secret, -, hun⟩ := hearned.checked.signed
      obtain ⟨t, ht, hclaims⟩ := hearned.checked.claims
      have hdecode := decode_later hun hclaims ht
      have hcached : (verify lib v.svc e token v.world).1 =
          (finish v.svc e token ⟨entry.payload, entry.audience, true⟩ v.world).1 := by
        rw [verify_eq, Run.bind_apply]
        simp only [lookUp, Run.bind_apply, Run.get_apply, hentry, Run.pure_apply]
      -- without its entry the token is decoded again, under the secrets of now
      by_cases hverifies : signedByBundle lib v.svc token = true ∧
          beforeExpiry v.svc.leeway v.world.now entry.payload = true
      · rw [if_pos (by simp [hverifies.1, hverifies.2])] at hdecode
        have hother := verify_decoded (e := e) hdecode hearned.checked.audience
        apply iff_of_true
        · rw [hcached, hother]
          rcases finish_answer (p := ⟨entry.payload, entry.audience, true⟩) he token
            hearned.expiresAt v.world with ⟨hrevoked, reason, hc⟩ | ⟨hnot, hc⟩
          · rcases finish_answer (p := ⟨entry.payload, v.svc.audience, false⟩) he token
              hearned.expiresAt v.world.uncached with ⟨-, reason', hc'⟩ | ⟨hnot, -⟩
            · exact .inr ⟨reason, reason', hc, hc'⟩
            · cases hrevoked.symm.trans hnot
          · rcases finish_answer (p := ⟨entry.payload, v.svc.audience, false⟩) he token
              hearned.expiresAt v.world.uncached with ⟨hrevoked, -⟩ | ⟨-, hc'⟩
            · cases hrevoked.symm.trans hnot
            · left
              rw [hc, hc', hearned.audience]
        · rintro ⟨entry', hsome, -, hout⟩
          obtain rfl := Option.some.inj (hentry.symm.trans hsome)
          rcases hout with hout | hout
          · exact absurd hverifies.1 (by simp [hout])
          · exact absurd hverifies.2 (by simp [hout])
      · rw [if_neg (by simpa using hverifies)] at hdecode
        have hrefused : (verify lib v.svc e token v.world.uncached).1 =
            .error (.exception (.jwtError "token verification failed")) := by
          have hdecode' : decodeWithRotation lib v.svc token v.world.uncached.now = none :=
            hdecode
          simp only [verify, Run.bind_apply, Run.get_apply, cachedEntry_uncached, hdecode',
            Run.throw_apply]
        rcases finish_answer (p := ⟨entry.payload, entry.audience, true⟩) he token
          hearned.expiresAt v.world with ⟨hrevoked, reason, hc⟩ | ⟨hnot, hc⟩
        · apply iff_of_true (.inr ⟨reason, _, hcached.trans hc, hrefused⟩)
          rintro ⟨entry', hsome, hnot, -⟩
          obtain rfl := Option.some.inj (hentry.symm.trans hsome)
          cases hrevoked.symm.trans hnot
        · refine iff_of_false ?_ (not_not.mpr ⟨entry, hentry, hnot, ?_⟩)
          · rw [hcached, hc, hrefused]
            rintro (heq | ⟨reason, reason', herror, -⟩)
            · cases heq
            · cases herror
          · rw [not_and_or, Bool.not_eq_true, Bool.not_eq_true] at hverifies
            exact hverifies

def sampleVerifier : Verifier :=
  ⟨⟨"worker", ⟨"worker", "k1", none⟩, true, defaultTtlSec, defaultLeewaySec⟩, World.fresh⟩

/-- A token is verified, and its secret is rotated out of the bundle. -/
def twoRotations (token : String) : List VerifierStep :=
  [.verify (.answer false) token, .refresh ⟨"worker", "k2", some "k1"⟩,
    .refresh ⟨"worker", "k3", some "k2"⟩]

/-- The service after them. -/
def staleVerifier (token : String) : Verifier :=
  ⟨{ sampleVerifier.svc with bundle := ⟨"worker", "k3", some "k2"⟩ },
    { World.fresh with
      jwtCache := [(token, ⟨freshClaims, "worker", defaultTtlSec * second⟩)] }⟩

/-- The token is decoded under the first secret. -/
theorem sampleVerifier_lookUp {lib : PyJwt} {token : String}
    (hun : lib.unsign token "k1" = some freshClaims) :
    lookUp lib sampleVerifier.svc token World.fresh =
      (.ok ⟨freshClaims, "worker", false⟩, World.fresh) := by
  have hsigned : signedByBundle lib sampleVerifier.svc token = true := by
    simp [signedByBundle, SecretBundle.secrets, sampleVerifier, hun]
  have hdecode : decodeWithRotation lib sampleVerifier.svc token World.fresh.now =
      some freshClaims := by
    refine (decode_later (t := 0) hun (by decide) le_rfl).trans ?_
    rw [hsigned]
    rfl
  have hmiss : cachedEntry token World.fresh = none := rfl
  simp only [lookUp, Run.bind_apply, Run.get_apply, hmiss, hdecode]
  rfl

theorem twoRotations_run {lib : PyJwt} {token : String}
    (hun : lib.unsign token "k1" = some freshClaims) :
    (verifierSystem lib).run sampleVerifier (twoRotations token) =
      some (staleVerifier token) := by
  have hverify : (verify lib sampleVerifier.svc (.answer false) token World.fresh).2 =
      (staleVerifier token).world := by
    rw [verify_eq, Run.bind_ok (sampleVerifier_lookUp hun)]
    rfl
  simp only [twoRotations, System.run, verifierSystem, Verifier.step]
  change some (Verifier.mk _ (verify lib sampleVerifier.svc (.answer false) token
    World.fresh).2) = _
  rw [hverify]
  rfl

theorem freshToken_unsign :
    (standardPyJwt joinMac).unsign (freshToken joinMac) "k1" = some freshClaims :=
  standardPyJwt_unsign joinMac "k1" (by simp [freshClaims, Json.Distinct, Json.DistinctFields])

theorem staleVerifier_reachable :
    (verifierSystem (standardPyJwt joinMac)).Reachable (staleVerifier (freshToken joinMac)) :=
  System.reached_of_run (System.Reached.start (s := sampleVerifier) rfl)
    (twoRotations_run freshToken_unsign)

theorem cache_transparent_iff_stale :
    SameAnswer
        (verify (standardPyJwt joinMac) (staleVerifier (freshToken joinMac)).svc
          (.answer false) (freshToken joinMac) (staleVerifier (freshToken joinMac)).world).1
        (verify (standardPyJwt joinMac) (staleVerifier (freshToken joinMac)).svc
          (.answer false) (freshToken joinMac)
          (staleVerifier (freshToken joinMac)).world.uncached).1 ↔
      ¬ RotatedOut (standardPyJwt joinMac) (staleVerifier (freshToken joinMac)).svc
        (.answer false) (freshToken joinMac) (staleVerifier (freshToken joinMac)).world :=
  cache_transparent_iff staleVerifier_reachable (by rintro ⟨⟩) (freshToken joinMac)

/-- A service that has seen the token takes it, and one with an empty cache refuses it. -/
theorem answers_differ {lib : PyJwt} {token : String}
    (h2 : lib.unsign token "k2" = none) (h3 : lib.unsign token "k3" = none) :
    ¬ SameAnswer
      (verify lib (staleVerifier token).svc (.answer false) token (staleVerifier token).world).1
      (verify lib (staleVerifier token).svc (.answer false) token
        (staleVerifier token).world.uncached).1 := by
  have hhit : cachedEntry token (staleVerifier token).world =
      some ⟨freshClaims, "worker", defaultTtlSec * second⟩ := by
    simp [cachedEntry, staleVerifier, Json.lookup, World.fresh, defaultTtlSec, second]
  have hdecode : decodeWithRotation lib (staleVerifier token).svc token
      (staleVerifier token).world.uncached.now = none := by
    simp [decodeWithRotation, staleVerifier, SecretBundle.secrets, lib.decode_eq, h2, h3]
  have htaken : (verify lib (staleVerifier token).svc (.answer false) token
      (staleVerifier token).world).1 = .ok (toAuth freshClaims "worker") := by
    simp only [verify, Run.bind_apply, Run.get_apply, hhit]
    rfl
  have hrefused : (verify lib (staleVerifier token).svc (.answer false) token
      (staleVerifier token).world.uncached).1 =
        .error (.exception (.jwtError "token verification failed")) := by
    simp only [verify, Run.bind_apply, Run.get_apply, cachedEntry_uncached, hdecode,
      Run.throw_apply]
  rw [htaken, hrefused]
  rintro (heq | ⟨reason, reason', herror, -⟩)
  · cases heq
  · cases herror

theorem unsign_of_not_signedBy {mac : Mac} {token secret : String}
    (h : ¬ Jws.signedBy mac token secret = true) :
    (standardPyJwt mac).unsign token secret = none := by
  simp [standardPyJwt, h]

theorem freshToken_unsign_other {secret : String} (h : utf8 "k1" ≠ utf8 secret) :
    (standardPyJwt joinMac).unsign (freshToken joinMac) secret = none := by
  apply unsign_of_not_signedBy
  intro hsigned
  have hmac := (Jws.signedBy_sign_iff joinMac _ _ _ "k1" secret).mp hsigned
  unfold joinMac at hmac
  exact h (List.append_cancel_right hmac)

theorem stale_token_taken :
    ∃ v, (verifierSystem (standardPyJwt joinMac)).Reachable v ∧
      ¬ SameAnswer
        (verify (standardPyJwt joinMac) v.svc (.answer false) (freshToken joinMac) v.world).1
        (verify (standardPyJwt joinMac) v.svc (.answer false) (freshToken joinMac)
          v.world.uncached).1 :=
  ⟨_, staleVerifier_reachable, answers_differ (freshToken_unsign_other (by decide))
    (freshToken_unsign_other (by decide))⟩

end AlertTriage
