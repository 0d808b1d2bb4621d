import AlertTriage.Auth.SessionCalls

/-!
# The keys a refresh touches

The family of a refresh token is whatever text stands before its first dot. It
goes into three kinds of keys, and a burn puts it into the pattern of a `SCAN`
as it is. A refresh touches the keys of its own family alone exactly when its key
is there, or nothing but the family's own tokens matches that pattern
(`touches_only_own_iff`); a star burns everybody's (`star_burns_all`).
-/

namespace AlertTriage.Auth

open Library

/-! ## §1  What a burn removes -/

/-- Some entries of the `own` keys are gone, and nothing else has changed. -/
structure Scrubbed (own : String → Prop) (r r' : Redis) : Prop where
  clock : r'.clock = r.clock
  entries : ∀ key, r'.store.lookup key = r.store.lookup key ∨
    own key ∧ r'.store.lookup key = none

namespace Scrubbed

variable {own : String → Prop} {r r' r'' : Redis}

theorem refl (own : String → Prop) (r : Redis) : Scrubbed own r r :=
  ⟨rfl, fun _ => .inl rfl⟩

theorem trans (h : Scrubbed own r r') (h' : Scrubbed own r' r'') : Scrubbed own r r'' := by
  refine ⟨h'.clock.trans h.clock, ?_⟩
  intro key
  rcases h'.entries key with hsame | hgone
  · rw [hsame]
    exact h.entries key
  · exact .inr hgone

theorem del {keys : List String} (h : ∀ key ∈ keys, own key) : Scrubbed own r (r.del keys) := by
  refine ⟨rfl, ?_⟩
  intro key
  by_cases hkey : key ∈ keys
  · exact .inr ⟨h key hkey, (TtlStore.lookup_removeAll keys r.store).trans (if_pos hkey)⟩
  · exact .inl ((TtlStore.lookup_removeAll keys r.store).trans (if_neg hkey))

/-- What is there afterwards was there before. -/
theorem get_isSome (h : Scrubbed own r r') {key : String} (hkey : (r'.get key).isSome = true) :
    (r.get key).isSome = true := by
  obtain ⟨value, hvalue⟩ := Option.isSome_iff_exists.mp hkey
  obtain ⟨e, he, hlive, rfl⟩ := lookup_of_get hvalue
  rcases h.entries key with hsame | ⟨-, hgone⟩
  · change (TtlStore.get r.clock key r.store).isSome = true
    rw [TtlStore.get, ← hsame, he, ← h.clock]
    simp [hlive]
  · cases he.symm.trans hgone

theorem frame (h : Scrubbed own r r') {key : String} (hkey : ¬ own key) :
    r'.store.lookup key = r.store.lookup key := by
  rcases h.entries key with hsame | ⟨hown, -⟩
  · exact hsame
  · exact absurd hown hkey

end Scrubbed

/-- If all the keys that match are `own`, a burn removes no other. -/
theorem burnBatches_scrubs {own : String → Prop} {r : Redis} {pattern : String}
    (h : ∀ key, (r.get key).isSome = true → Glob.globMatch pattern key = true → own key)
    (envs : ℕ → Environment) (n : ℕ) {w : Redis × ℕ} (hw : Scrubbed own r w.1) :
    Scrubbed own r ((burnBatches pattern n).run (atOnce envs) w).2.1 := by
  induction n generalizing w with
  | zero => exact hw
  | succ n ih =>
      rw [burnBatches, run_scan]
      split
      · exact ih hw
      · rw [run_del]
        refine ih (hw.trans (Scrubbed.del ?_))
        intro key hkey
        obtain ⟨-, hmatch⟩ := List.mem_filter.mp hkey
        rw [Bool.and_eq_true] at hmatch
        exact h key (hw.get_isSome hmatch.2) hmatch.1

theorem burnFamily_scrubs {own : String → Prop} {r : Redis} {familyId : String}
    (hindex : own (familyIndexKey familyId))
    (h : ∀ key, (r.get key).isSome = true →
      Glob.globMatch (refreshKey familyId "*") key = true → own key)
    (envs : ℕ → Environment) {w : Redis × ℕ} (hw : Scrubbed own r w.1) :
    Scrubbed own r ((burnFamily familyId).run (atOnce envs) w).2.1 := by
  rw [burnFamily, run_del, run_scanStream]
  refine burnBatches_scrubs h envs _ (hw.trans (Scrubbed.del ?_))
  intro key hkey
  obtain rfl := List.mem_singleton.mp hkey
  exact hindex

/-! ## §2  The family's own keys -/

/-- The part of the token before its first dot. -/
def cookieFamily (token : String) : String :=
  String.ofList ((token.toList.splitOn '.').headD [])

theorem cookieFamily_of_splitToken {token familyId jti : String}
    (h : splitToken token = some (familyId, jti)) : cookieFamily token = familyId := by
  unfold splitToken at h
  unfold cookieFamily
  split at h
  · rename_i f j rest hparts
    rw [hparts]
    split at h
    · cases h
    · exact (Prod.mk.inj (Option.some.inj h)).1
  · cases h

/-- The keys of a family: its index, its refresh tokens, and the record of the user
whom the index names. -/
def OwnKey (r : Redis) (familyId key : String) : Prop :=
  key = familyIndexKey familyId ∨ (∃ jti, key = refreshKey familyId jti) ∨
    ∃ userId, r.get (familyIndexKey familyId) = some (.text userId) ∧ key = sessionKey userId

/-- `rotateRefresh` without interruption. -/
def refreshed (cfg : Config) (envs : ℕ → Environment) (token : String) (r : Redis) :
    Option RefreshResult × Redis :=
  let out := (rotateRefresh cfg token).run (atOnce envs) (r, 0)
  (out.1, out.2.1)

/-- Whatever Redis replies, the entries of all keys but those of the token's own
family stay as they are. -/
def TouchesOnlyOwn (cfg : Config) (r : Redis) (token : String) : Prop :=
  ∀ envs key, ¬ OwnKey r (cookieFamily token) key →
    (refreshed cfg envs token r).2.store.lookup key = r.store.lookup key

/-- Everything that the pattern of the family's burn matches is a token of it. -/
def MatchesOwn (r : Redis) (familyId : String) : Prop :=
  ∀ key, (r.get key).isSome = true → Glob.globMatch (refreshKey familyId "*") key = true →
    ∃ jti, key = refreshKey familyId jti

theorem literal_refresh : ∀ c ∈ "refresh:".toList, Glob.isLiteral c = true :=
  List.all_eq_true.mp (by decide)

theorem literal_colon : ∀ c ∈ ":".toList, Glob.isLiteral c = true :=
  List.all_eq_true.mp (by decide)

/-- A family without pattern characters matches its own tokens. -/
theorem matchesOwn_of_literal (r : Redis) {familyId : String}
    (h : ∀ c ∈ familyId.toList, Glob.isLiteral c = true) : MatchesOwn r familyId := by
  rintro key - hmatch
  have hpattern : refreshKey familyId "*" = ("refresh:" ++ familyId ++ ":") ++ "*" := by
    simp only [refreshKey, String.append_assoc]
  rw [hpattern, Glob.globMatch_prefix] at hmatch
  · obtain ⟨rest, hrest⟩ := hmatch
    refine ⟨String.ofList rest, String.toList_injective ?_⟩
    rw [← hrest]
    simp [refreshKey]
  · intro c hc
    simp only [String.toList_append, List.mem_append] at hc
    rcases hc with (hc | hc) | hc
    · exact literal_refresh c hc
    · exact h c hc
    · exact literal_colon c hc

/-! ## §3  What a refresh touches -/

theorem run_burn (familyId : String) (result : RefreshResult) (envs : ℕ → Environment)
    (w : Redis × ℕ) :
    (Async.run (atOnce envs) (do burnFamily familyId; pure result) w).2 =
      ((burnFamily familyId).run (atOnce envs) w).2 := by
  rw [Async.run_bind]
  split
  · rename_i heq
    rw [heq]
    rfl
  · rename_i heq
    rw [heq]

/-- A burn within a frame. -/
theorem burn_frame {familyId : String} {r : Redis} (h : MatchesOwn r familyId)
    (envs : ℕ → Environment) {w : Redis × ℕ} (hw : Scrubbed (OwnKey r familyId) r w.1)
    {key : String} (hkey : ¬ OwnKey r familyId key) :
    ((burnFamily familyId).run (atOnce envs) w).2.1.store.lookup key =
      r.store.lookup key := by
  refine (burnFamily_scrubs (.inl rfl) ?_ envs hw).frame hkey
  intro key hlive hmatch
  exact .inr (.inl (h key hlive hmatch))

theorem afterConsume_frame (cfg : Config) {familyId oldJti : String}
    (envs : ℕ → Environment) {w : Redis × ℕ} (h : MatchesOwn w.1 familyId) {key : String}
    (hkey : ¬ OwnKey w.1 familyId key) :
    ((afterConsume cfg familyId oldJti).run (atOnce envs) w).2.1.store.lookup key =
      w.1.store.lookup key := by
  have hburn : ∀ n, (Async.run (atOnce envs)
      (do burnFamily familyId; pure (RefreshResult.failed .reused)) (w.1, n)).2.1.store.lookup key =
        w.1.store.lookup key := by
    intro n
    rw [run_burn]
    exact burn_frame (w := (w.1, n)) h envs (Scrubbed.refl _ _) hkey
  rw [afterConsume, run_findUserIdByFamily]
  rcases hindex : w.1.get (familyIndexKey familyId) with _ | _ | userId
  · rfl
  · rfl
  dsimp only [userOf]
  split
  · rfl
  rw [run_get]
  rcases w.1.get (sessionKey userId) with _ | session | _
  · rfl
  · dsimp only
    split
    · exact hburn _
    · have hrecord : key ≠ sessionKey userId := by
        rintro rfl
        exact hkey (.inr (.inr ⟨userId, hindex, rfl⟩))
      have htoken : ∀ jti, key ≠ refreshKey familyId jti := by
        rintro jti rfl
        exact hkey (.inr (.inl ⟨jti, rfl⟩))
      rw [reissue, run_makeId, run_epochSeconds, run_set, run_setEx, run_pure]
      exact (AList.lookup_insert_ne (htoken _)).trans (AList.lookup_insert_ne hrecord)
  · exact hburn _

theorem get_index_del_token (r : Redis) (familyId jti : String) :
    (r.del [refreshKey familyId jti]).get (familyIndexKey familyId) =
      r.get (familyIndexKey familyId) := by
  apply TtlStore.get_removeAll_of_notMem
  simp

/-- A refresh whose burn, if there is one, stays in the family touches the keys of the
family alone. -/
theorem touches_only_own {cfg : Config} {s : Fleet} (hs : Sound s) {token : String}
    (h : ∀ familyId jti, splitToken token = some (familyId, jti) →
      s.redis.get (refreshKey familyId jti) = none → MatchesOwn s.redis familyId) :
    TouchesOnlyOwn cfg s.redis token := by
  intro envs key hkey
  simp only [refreshed, rotateRefresh]
  cases hsplit : splitToken token with
  | none => rfl
  | some pair =>
      obtain ⟨familyId, jti⟩ := pair
      rw [cookieFamily_of_splitToken hsplit] at hkey
      dsimp only
      rw [run_del]
      have hdel : Scrubbed (OwnKey s.redis familyId) s.redis
          (s.redis.del [refreshKey familyId jti]) := by
        apply Scrubbed.del
        intro key hmem
        obtain rfl := List.mem_singleton.mp hmem
        exact .inr (.inl ⟨jti, rfl⟩)
      cases hget : s.redis.get (refreshKey familyId jti) with
      | none =>
          rw [if_pos (by simp [hget]), run_burn]
          exact burn_frame (h familyId jti hsplit hget) envs hdel hkey
      | some value =>
          obtain ⟨e, he, -⟩ := lookup_of_get hget
          have hplain := (hs.plain_of_lookup he).1
          have hown : MatchesOwn (s.redis.del [refreshKey familyId jti]) familyId :=
            matchesOwn_of_literal _ fun c hc => (hplain c hc).2.2
          have hkey' : ¬ OwnKey (s.redis.del [refreshKey familyId jti]) familyId key := by
            intro hown
            rw [OwnKey, get_index_del_token] at hown
            exact hkey hown
          rw [if_neg (by simp [hget])]
          exact (afterConsume_frame cfg envs hown hkey').trans (hdel.frame hkey)

theorem not_ownKey_of_match {r : Redis} {familyId key : String}
    (hmatch : Glob.globMatch (refreshKey familyId "*") key = true)
    (hkey : ¬ ∃ jti, key = refreshKey familyId jti) : ¬ OwnKey r familyId key := by
  have hprefix : "refresh:".toList <+: key.toList := by
    exact Glob.prefix_of_globMatch literal_refresh hmatch
  rintro (rfl | hjti | ⟨userId, -, rfl⟩)
  · obtain ⟨rest, hrest⟩ := hprefix
    simp [familyIndexKey] at hrest
  · exact hkey hjti
  · obtain ⟨rest, hrest⟩ := hprefix
    simp [sessionKey] at hrest

/-- The token is not there, so its family is burnt, and a `SCAN` may bring any key
that its pattern matches. -/
theorem burns_match (cfg : Config) {r : Redis} {token familyId jti key : String}
    (hsplit : splitToken token = some (familyId, jti))
    (hnone : r.get (refreshKey familyId jti) = none) (hlive : (r.get key).isSome = true)
    (hmatch : Glob.globMatch (refreshKey familyId "*") key = true)
    (hkey : ¬ ∃ jti, key = refreshKey familyId jti) :
    (refreshed cfg (fun _ => ⟨sampleBytes 0, 1, [key]⟩) token r).2.store.lookup key = none := by
  have hother := not_ownKey_of_match (r := r) hmatch hkey
  have hindex : key ≠ familyIndexKey familyId := fun h => hother (.inl h)
  have htoken : key ≠ refreshKey familyId jti := fun h => hkey ⟨jti, h⟩
  have hstill : (((r.del [refreshKey familyId jti]).del
      [familyIndexKey familyId]).get key).isSome = true := by
    have hget : ((r.del [refreshKey familyId jti]).del [familyIndexKey familyId]).get key =
        r.get key :=
      (TtlStore.get_removeAll_of_notMem (by simpa using hindex)).trans
        (TtlStore.get_removeAll_of_notMem (by simpa using htoken))
    rw [hget, hlive]
  simp only [refreshed, rotateRefresh, hsplit]
  rw [run_del, if_pos (by simp [hnone]), run_burn, burnFamily, run_del, run_scanStream,
    burnBatches, run_scan, if_neg (by simp [hstill, hmatch]), run_del]
  refine (TtlStore.lookup_removeAll _ _).trans (if_pos ?_)
  simp [hstill, hmatch]

/-- **A refresh touches only its own family** exactly when its token is there, or
nothing but the family's own tokens matches the pattern of the burn. -/
theorem touches_only_own_iff {cfg : Config} {s : Fleet}
    (hs : (fleetSystem cfg).Reachable s) (token : String) :
    TouchesOnlyOwn cfg s.redis token ↔
      ∀ familyId jti, splitToken token = some (familyId, jti) →
        s.redis.get (refreshKey familyId jti) = none → MatchesOwn s.redis familyId := by
  refine ⟨?_, touches_only_own (sound hs)⟩
  intro htouches familyId jti hsplit hnone key hlive hmatch
  by_contra hkey
  have hburnt := burns_match cfg hsplit hnone hlive hmatch hkey
  have hother := not_ownKey_of_match (r := s.redis) hmatch hkey
  rw [← cookieFamily_of_splitToken hsplit] at hother
  have hsame := htouches (fun _ => ⟨sampleBytes 0, 1, [key]⟩) key hother
  obtain ⟨value, hvalue⟩ := Option.isSome_iff_exists.mp hlive
  obtain ⟨e, he, -⟩ := lookup_of_get hvalue
  cases he.symm.trans (hsame.symm.trans hburnt)

def twoLogins : List Label := sampleLogin alice 0 0 ++ sampleLogin bob 1 2

/-- The refresh token that Bob has got. -/
def bobKey : String := refreshKey (sampleId 2) (sampleId 3)

def starEnv (_ : ℕ) : Environment := ⟨sampleBytes 0, 1, [bobKey]⟩

theorem star_run :
    ((fleetSystem .default).run Fleet.start twoLogins).any (fun s =>
      (s.redis.get bobKey).isSome &&
        ((refreshed .default starEnv "*.x" s.redis).2.store.lookup bobKey).isNone) = true := by
  decide +kernel

theorem touches_only_own_iff_logins :
    ∃ s, (fleetSystem .default).run Fleet.start twoLogins = some s ∧
      (TouchesOnlyOwn .default s.redis "*.x" ↔
        ∀ familyId jti, splitToken "*.x" = some (familyId, jti) →
          s.redis.get (refreshKey familyId jti) = none → MatchesOwn s.redis familyId) := by
  obtain ⟨s, hs, -⟩ := (Option.any_eq_true _ _).mp star_run
  exact ⟨s, hs, touches_only_own_iff (System.reached_of_run (.start rfl) hs) "*.x"⟩

/-- Whoever sends `*.x` burns the newest token of a user whose name the text does not
have. -/
theorem star_burns_all :
    ∃ s, (fleetSystem .default).Reachable s ∧ (s.redis.get bobKey).isSome = true ∧
      (refreshed .default starEnv "*.x" s.redis).2.get bobKey = none ∧
      ¬ TouchesOnlyOwn .default s.redis "*.x" := by
  obtain ⟨s, hs, hrun⟩ := (Option.any_eq_true _ _).mp star_run
  rw [Bool.and_eq_true, Option.isNone_iff_eq_none] at hrun
  obtain ⟨hlive, hgone⟩ := hrun
  refine ⟨s, System.reached_of_run (.start rfl) hs, hlive, ?_, ?_⟩
  · change TtlStore.get _ bobKey _ = none
    rw [TtlStore.get, hgone]
  · intro htouches
    have hother : ¬ OwnKey s.redis (cookieFamily "*.x") bobKey := by
      have hfamily : cookieFamily "*.x" = "*" := by decide
      rw [hfamily]
      rintro (hindex | ⟨jti, htoken⟩ | ⟨userId, -, hrecord⟩)
      · exact refreshKey_ne_familyIndexKey _ _ _ hindex
      · have hstar : "*" = sampleId 2 :=
          (eq_of_refreshKey (fun _ => newId_plain) (fun _ => newId_plain) htoken.symm).1
        revert hstar
        decide
      · exact refreshKey_ne_sessionKey _ _ _ hrecord
    obtain ⟨value, hvalue⟩ := Option.isSome_iff_exists.mp hlive
    obtain ⟨e, he, -⟩ := lookup_of_get hvalue
    cases he.symm.trans ((htouches starEnv bobKey hother).symm.trans hgone)

/-- A family that was made by `newId`, or has no pattern characters at all, touches
nothing else. -/
theorem literal_touches_only_own {cfg : Config} {s : Fleet}
    (hs : (fleetSystem cfg).Reachable s) {token : String}
    (h : ∀ c ∈ (cookieFamily token).toList, Glob.isLiteral c = true) :
    TouchesOnlyOwn cfg s.redis token := by
  apply touches_only_own (sound hs)
  rintro familyId jti hsplit -
  rw [cookieFamily_of_splitToken hsplit] at h
  exact matchesOwn_of_literal _ h

end AlertTriage.Auth
