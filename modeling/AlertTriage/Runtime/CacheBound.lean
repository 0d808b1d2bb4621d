import AlertTriage.Runtime.VerifyCache

/-!
# The bound of the verify cache

Any number of calls of `verify` wait at the deny-list at once, and go on in any order
while time passes and the bundle is rotated. The cache is written after the await alone,
and there eviction and insertion are one step (`finish_cache`). Eviction makes room
whenever the cache is full: the expired entries go, and a quarter of the rest when that
is not enough (`length_maybeEvict_lt`). So the cache stays within `cacheMaxEntries`
(`verifyCache_bounded`).
-/

namespace AlertTriage

open Library

/-! ## §1  Calls side by side -/

/-- A service with the calls that wait at the deny-list, each with its token. -/
structure VerifyCalls where
  svc : JwtService
  world : World
  awaiting : List (String × Pending)

inductive CallsStep where
  /-- `verify(token)`, up to the await. -/
  | call (token : String)
  /-- The call at this place goes on, with the answer of the deny-list. -/
  | resume (i : ℕ) (e : RevokedAnswer)
  /-- The call at this place is cancelled at the await. -/
  | cancel (i : ℕ)
  | refresh (bundle : SecretBundle)
  | pass (d : ℕ)

def VerifyCalls.step (lib : PyJwt) (s : VerifyCalls) : CallsStep → Option VerifyCalls
  | .call token =>
      match lookUp lib s.svc token s.world with
      | (.ok p, w) => some { s with world := w, awaiting := s.awaiting ++ [(token, p)] }
      | (.error _, w) => some { s with world := w }
  | .resume i e =>
      (s.awaiting[i]?).map fun c =>
        { s with
          world := (finish s.svc e c.1 c.2 s.world).2
          awaiting := s.awaiting.eraseIdx i }
  | .cancel i => some { s with awaiting := s.awaiting.eraseIdx i }
  | .refresh bundle => some { s with svc := { s.svc with bundle := bundle } }
  | .pass d => some { s with world := s.world.advance d }

def verifyCalls (lib : PyJwt) : System VerifyCalls CallsStep where
  start := fun s => s.world.jwtCache = [] ∧ s.awaiting = []
  step := VerifyCalls.step lib

/-! ## §2  Eviction -/

section Eviction

variable {now : ℕ} {cache : List (String × JwtCacheEntry)}

theorem maybeEvict_sublist : (maybeEvict now cache).Sublist cache := by
  unfold maybeEvict
  split
  · exact List.Sublist.refl cache
  · dsimp only
    split
    · exact List.filter_sublist.trans List.filter_sublist
    · exact List.filter_sublist

/-- A quarter of a full cache is at least one entry. -/
theorem quarter_removed {kept oldest : List (String × JwtCacheEntry)}
    (hperm : oldest.Perm kept) (hfull : cacheMaxEntries ≤ kept.length) :
    (kept.filter fun p => !((oldest.take (oldest.length / 4)).map Prod.fst).contains p.1).length <
      kept.length := by
  have hquarter : 0 < oldest.length / 4 := by
    rw [hperm.length_eq]
    unfold cacheMaxEntries at hfull
    omega
  have hlt : 0 < oldest.length := by omega
  have hfirst : oldest[0] ∈ oldest.take (oldest.length / 4) :=
    List.mem_take_iff_getElem.mpr ⟨0, by omega, rfl⟩
  refine List.length_filter_lt_length_iff_exists.mpr
    ⟨oldest[0], hperm.subset (List.getElem_mem hlt), ?_⟩
  have hgone := List.mem_map_of_mem (f := Prod.fst) hfirst
  simpa using hgone

/-- **Eviction makes room**: at the limit, at least one slot is free afterwards. -/
theorem length_maybeEvict_lt (h : cache.length ≤ cacheMaxEntries) :
    (maybeEvict now cache).length < cacheMaxEntries := by
  unfold maybeEvict
  split
  · assumption
  · dsimp only
    have hkept := List.length_filter_le (fun p => decide ((now : ℤ) < p.2.expiresAt)) cache
    split
    · rename_i hfull
      refine (quarter_removed (List.mergeSort_perm _ _) hfull).trans_le ?_
      exact hkept.trans h
    · rename_i hroom
      exact Nat.lt_of_not_le hroom

/-- An unexpired entry goes only after all expired ones. -/
theorem maybeEvict_expired {p q : String × JwtCacheEntry} (hp : p ∈ cache)
    (hgone : p ∉ maybeEvict now cache) (hq : q ∈ maybeEvict now cache) :
    (now : ℤ) < q.2.expiresAt := by
  unfold maybeEvict at hgone hq
  split at hq
  · rename_i hroom
    rw [if_pos hroom] at hgone
    exact absurd hp hgone
  · dsimp only at hq
    split at hq
    · exact of_decide_eq_true (List.mem_filter.mp (List.mem_of_mem_filter hq)).2
    · exact of_decide_eq_true (List.mem_filter.mp hq).2

end Eviction

/-! ## §3  What a call does to the cache -/

theorem length_upsert_le {α : Type} (key : String) (v : α) (fields : List (String × α)) :
    (Json.upsert key v fields).length ≤ fields.length + 1 := by
  have hlength := congrArg List.length (Json.keys_upsert key v fields)
  rw [List.length_map] at hlength
  rw [hlength]
  split
  · rw [List.length_map]
    exact Nat.le_succ _
  · rw [List.length_append, List.length_map]
    rfl

theorem nodup_keys_upsert {α : Type} {key : String} {v : α} {fields : List (String × α)}
    (h : (fields.map Prod.fst).Nodup) : ((Json.upsert key v fields).map Prod.fst).Nodup := by
  rw [Json.keys_upsert]
  split
  · exact h
  · rename_i hnew
    rw [← List.concat_eq_append]
    exact h.concat hnew

/-- The rest of a call takes entries away, or evicts and inserts in one step. -/
theorem finish_cache (svc : JwtService) (e : RevokedAnswer) (token : String) (p : Pending)
    (w : World) :
    (finish svc e token p w).2.now = w.now ∧
      ((finish svc e token p w).2.jwtCache.Sublist w.jwtCache ∨
        ∃ entry, (finish svc e token p w).2.jwtCache =
          Json.upsert token entry (maybeEvict w.now w.jwtCache)) := by
  have hcheck : (checkRevocation svc e (claim "jti" p.payload) w).1 = .ok () →
      (checkRevocation svc e (claim "jti" p.payload) w).2 = w := by
    unfold checkRevocation
    split
    · exact fun _ => rfl
    split
    · exact fun _ => rfl
    split
    · exact fun _ => rfl
    · exact fun _ => rfl
    · exact fun _ => rfl
    · intro h
      cases h
  -- a revoked token loses its entry, and nothing else goes
  have hpop : (checkRevocation svc e (claim "jti" p.payload) w).2.now = w.now ∧
      (checkRevocation svc e (claim "jti" p.payload) w).2.jwtCache.Sublist w.jwtCache := by
    unfold checkRevocation
    split
    · exact ⟨rfl, List.Sublist.refl _⟩
    split
    · exact ⟨rfl, List.Sublist.refl _⟩
    split
    · exact ⟨rfl, List.Sublist.refl _⟩
    · exact ⟨rfl, List.Sublist.refl _⟩
    · exact ⟨rfl, List.Sublist.refl _⟩
    · exact ⟨rfl, List.filter_sublist⟩
  unfold finish
  rw [Run.bind_apply]
  split
  · rename_i u w' heq
    rw [heq] at hcheck
    obtain rfl : w' = w := hcheck rfl
    split
    · exact ⟨rfl, .inl (List.Sublist.refl _)⟩
    · rw [Run.bind_apply, remember]
      cases (claim "exp" p.payload).bind pyMicros with
      | none => exact ⟨rfl, .inl (List.Sublist.refl _)⟩
      | some t => exact ⟨rfl, .inr ⟨_, rfl⟩⟩
  · rename_i heq
    rw [heq] at hpop
    exact ⟨hpop.1, .inl hpop.2⟩

/-! ## §4  The invariant -/

structure CallsInv (lib : PyJwt) (s : VerifyCalls) : Prop where
  earned : EarnedCache lib s.svc (fun _ => True) s.world
  ready : ∀ c ∈ s.awaiting, c.2.Ready lib s.svc (fun _ => True) s.world.now c.1
  keys : (s.world.jwtCache.map Prod.fst).Nodup
  bounded : s.world.jwtCache.length ≤ cacheMaxEntries

theorem Pending.Ready.mono {lib : PyJwt} {svc : JwtService} {P : String → Prop} {now now' : ℕ}
    {token : String} {p : Pending} (h : p.Ready lib svc P now token) (hnow : now ≤ now') :
    p.Ready lib svc P now' token :=
  ⟨h.1.mono (fun _ hs => hs) hnow, h.2⟩

/-- The two halves of the bound: taking entries away, and inserting after eviction. -/
theorem finish_bounded (svc : JwtService) (e : RevokedAnswer) (token : String) (p : Pending)
    {w : World} (hkeys : (w.jwtCache.map Prod.fst).Nodup)
    (hbounded : w.jwtCache.length ≤ cacheMaxEntries) :
    ((finish svc e token p w).2.jwtCache.map Prod.fst).Nodup ∧
      (finish svc e token p w).2.jwtCache.length ≤ cacheMaxEntries := by
  obtain ⟨-, hsub | ⟨entry, heq⟩⟩ := finish_cache svc e token p w
  · exact ⟨(hsub.map Prod.fst).nodup hkeys, hsub.length_le.trans hbounded⟩
  · rw [heq]
    refine ⟨nodup_keys_upsert ((maybeEvict_sublist.map Prod.fst).nodup hkeys), ?_⟩
    have hroom : (maybeEvict w.now w.jwtCache).length < cacheMaxEntries :=
      length_maybeEvict_lt hbounded
    exact (length_upsert_le _ _ _).trans hroom

theorem CallsInv.step {lib : PyJwt} {s s' : VerifyCalls} {a : CallsStep} (h : CallsInv lib s)
    (hstep : s.step lib a = some s') : CallsInv lib s' := by
  cases a with
  | call token =>
      have hworld := lookUp_world lib s.svc token s.world
      have hready : ∀ p, (lookUp lib s.svc token s.world).1 = .ok p →
          p.Ready lib s.svc (fun _ => True) s.world.now token := fun p hp =>
        lookUp_ready h.earned (fun _ _ => trivial) hp
      simp only [VerifyCalls.step] at hstep
      split at hstep
      · rename_i p w heq
        rw [heq] at hworld hready
        obtain rfl : w = s.world := hworld
        obtain rfl := Option.some.inj hstep
        refine ⟨h.earned, fun c hc => ?_, h.keys, h.bounded⟩
        rcases List.mem_append.mp hc with hold | hnew
        · exact h.ready c hold
        · obtain rfl := List.mem_singleton.mp hnew
          exact hready p rfl
      · rename_i w heq
        rw [heq] at hworld
        obtain rfl : w = s.world := hworld
        obtain rfl := Option.some.inj hstep
        exact ⟨h.earned, h.ready, h.keys, h.bounded⟩
  | resume i e =>
      -- the call resumes in a world that others have changed since its lookup
      obtain ⟨c, hget, rfl⟩ := Option.map_eq_some_iff.mp hstep
      have hc := h.ready c (List.mem_of_getElem? hget)
      obtain ⟨hkeys, hbounded⟩ := finish_bounded s.svc e c.1 c.2 h.keys h.bounded
      refine ⟨finish_earned h.earned hc e, fun d hd => ?_, hkeys, hbounded⟩
      have hnow := (finish_cache s.svc e c.1 c.2 s.world).1
      exact (h.ready d (List.mem_of_mem_eraseIdx hd)).mono hnow.ge
  | cancel i =>
      obtain rfl := Option.some.inj hstep
      exact ⟨h.earned, fun c hc => h.ready c (List.mem_of_mem_eraseIdx hc), h.keys, h.bounded⟩
  | refresh bundle =>
      obtain rfl := Option.some.inj hstep
      exact ⟨h.earned, h.ready, h.keys, h.bounded⟩
  | pass d =>
      obtain rfl := Option.some.inj hstep
      refine ⟨fun p hp => ?_, fun c hc => ?_, h.keys, h.bounded⟩
      · exact (h.earned p hp).mono (fun _ hs => hs) (Nat.le_add_right _ _)
      · exact (h.ready c hc).mono (Nat.le_add_right _ _)

theorem callsInv_of_reachable {lib : PyJwt} {s : VerifyCalls}
    (hs : (verifyCalls lib).Reachable s) : CallsInv lib s := by
  apply hs.invariant
  · rintro s ⟨hcache, hawaiting⟩
    refine ⟨fun p hp => ?_, fun c hc => ?_, ?_, ?_⟩
    · rw [hcache] at hp
      cases hp
    · rw [hawaiting] at hc
      cases hc
    · rw [hcache]
      exact List.nodup_nil
    · rw [hcache]
      exact Nat.zero_le _
  · exact fun _ _ _ hinv _ hstep => hinv.step hstep

/-- **The cache is bounded**: however calls run side by side and time passes, the cache has
at most `cacheMaxEntries` entries, each under the token that it was decoded from and with
that token's `exp`; at the limit an eviction frees a slot, and it takes no unexpired entry
while an expired one stays. -/
theorem verifyCache_bounded {lib : PyJwt} {s : VerifyCalls}
    (hs : (verifyCalls lib).Reachable s) :
    s.world.jwtCache.length ≤ cacheMaxEntries ∧
    (s.world.jwtCache.map Prod.fst).Nodup ∧
    (∀ p ∈ s.world.jwtCache,
      (∃ secret, ∃ t ≤ s.world.now,
        lib.decode p.1 secret s.svc.audience s.svc.leeway t = some p.2.payload) ∧
      (claim "exp" p.2.payload).bind pyMicros = some p.2.expiresAt) ∧
    (maybeEvict s.world.now s.world.jwtCache).length < cacheMaxEntries ∧
    ∀ p ∈ s.world.jwtCache, p ∉ maybeEvict s.world.now s.world.jwtCache →
      (s.world.now : ℤ) < p.2.expiresAt →
        ∀ q ∈ maybeEvict s.world.now s.world.jwtCache,
          (s.world.now : ℤ) < q.2.expiresAt := by
  have hinv := callsInv_of_reachable hs
  refine ⟨hinv.bounded, hinv.keys, fun p hp => ?_, length_maybeEvict_lt hinv.bounded,
    fun p hp hgone _ q hq => maybeEvict_expired hp hgone hq⟩
  have hearned := hinv.earned p hp
  obtain ⟨secret, -, hun⟩ := hearned.checked.signed
  obtain ⟨t, ht, hclaims⟩ := hearned.checked.claims
  refine ⟨⟨secret, t, ht, ?_⟩, hearned.expiresAt⟩
  rw [lib.decode_eq, hun]
  exact Option.filter_some_pos hclaims

/-- A service that has verified one token. -/
def oneVerified (token : String) : VerifyCalls :=
  ⟨sampleVerifier.svc,
    { World.fresh with
      jwtCache := [(token, ⟨freshClaims, "worker", defaultTtlSec * second⟩)] }, []⟩

theorem oneVerified_run {lib : PyJwt} {token : String}
    (hun : lib.unsign token "k1" = some freshClaims) :
    (verifyCalls lib).run ⟨sampleVerifier.svc, World.fresh, []⟩
      [.call token, .resume 0 (.answer false)] = some (oneVerified token) := by
  have hcall : (verifyCalls lib).step ⟨sampleVerifier.svc, World.fresh, []⟩ (.call token) =
      some ⟨sampleVerifier.svc, World.fresh, [(token, ⟨freshClaims, "worker", false⟩)]⟩ := by
    simp only [verifyCalls, VerifyCalls.step, sampleVerifier_lookUp hun]
    rfl
  rw [System.run, hcall]
  rfl

/-- One entry is far from the limit. -/
theorem verifyCache_bounded_one :
    (oneVerified (freshToken joinMac)).world.jwtCache.length ≤ cacheMaxEntries ∧
      (maybeEvict (oneVerified (freshToken joinMac)).world.now
        (oneVerified (freshToken joinMac)).world.jwtCache).length < cacheMaxEntries := by
  have hreached : (verifyCalls (standardPyJwt joinMac)).Reachable
      (oneVerified (freshToken joinMac)) :=
    System.reached_of_run (System.Reached.start ⟨rfl, rfl⟩) (oneVerified_run freshToken_unsign)
  obtain ⟨hbounded, -, -, hroom, -⟩ := verifyCache_bounded hreached
  exact ⟨hbounded, hroom⟩

end AlertTriage
