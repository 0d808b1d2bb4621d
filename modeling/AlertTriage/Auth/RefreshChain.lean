import AlertTriage.Auth.RefreshFrame

/-!
# A client that refreshes on and on

One login, and from then on always the newest token, in time. Each refresh writes
the record and a new token key with a new lifetime; the family index keeps the
lifetime of the login. So the refreshes succeed as long as the login is younger
than one lifetime of a refresh token, and no longer (`never_logged_out_iff`).
-/

namespace AlertTriage.Auth

open Library

/-! ## §1  The client -/

structure Client where
  redis : Redis
  userId : String
  familyId : String
  /-- When `startSession` ran. -/
  loginAt : ℕ
  /-- The newest token that the client has received, and when. -/
  token : String
  issuedAt : ℕ
  /-- Some refresh has not succeeded. -/
  refused : Bool

/-- A login at the present time. -/
def Client.login (cfg : Config) (args : Login) (envs : ℕ → Environment) (r : Redis) :
    Option Client :=
  let out := (startSession cfg args).run (atOnce envs) (r, 0)
  out.1.map fun started =>
    { redis := out.2.1
      userId := args.userId
      familyId := started.familyId
      loginAt := r.clock
      token := started.refreshToken
      issuedAt := r.clock
      refused := false }

/-- The keys of the client: the record, the index, and the tokens of its family. -/
def Client.holds (c : Client) (key : String) : Bool :=
  key == sessionKey c.userId || key == familyIndexKey c.familyId ||
    (refreshKey c.familyId "").toList.isPrefixOf key.toList

/-- The store differs from the present one in the keys of others only. -/
def Client.undisturbed (c : Client) (store : TtlStore Stored) : Bool :=
  (c.redis.store.keys ++ store.keys).all fun key =>
    !c.holds key || decide (c.redis.store.lookup key = store.lookup key)

inductive ClientLabel where
  /-- The client presents its newest token. -/
  | refresh (envs : ℕ → Environment)
  /-- Others have written, each under keys of their own. -/
  | others (store : TtlStore Stored)
  | pass (d : ℕ)

def Client.refresh (cfg : Config) (c : Client) (envs : ℕ → Environment) : Client :=
  let out := refreshed cfg envs c.token c.redis
  match out.1 with
  | some (.ok _ newRefreshToken) =>
      { c with redis := out.2, token := newRefreshToken, issuedAt := c.redis.clock }
  | _ => { c with redis := out.2, refused := true }

/-- The token is presented less than its lifetime after it was issued. -/
def Client.inTime (cfg : Config) (c : Client) : Bool :=
  decide (c.redis.clock < c.issuedAt + cfg.refreshTokenTtlSeconds * second)

def Client.step (cfg : Config) (c : Client) : ClientLabel → Option Client
  | .refresh envs => if c.inTime cfg then some (c.refresh cfg envs) else none
  | .others store =>
      if c.undisturbed store then some { c with redis := { c.redis with store := store } }
      else none
  | .pass d => some { c with redis := c.redis.pass d }

/-- The runs of well-behaved clients. -/
def clientSystem (cfg : Config) : System Client ClientLabel where
  start := fun c => ∃ args envs r, Client.login cfg args envs r = some c
  step := Client.step cfg

/-! ## §2  What a refresh needs -/

/-- The record, the index and the key of the newest token are as the login and the
last refresh have written them. -/
structure Client.Alive (cfg : Config) (c : Client) (jti : String) : Prop where
  family : Plain c.familyId ∧ c.familyId ≠ ""
  newest : Plain jti ∧ jti ≠ ""
  token : c.token = c.familyId ++ "." ++ jti
  record : ∃ session, c.redis.store.lookup (sessionKey c.userId) =
      some ⟨.record session, none⟩ ∧
    session.family_id = c.familyId ∧ session.refresh_jti = jti
  index : c.redis.store.lookup (familyIndexKey c.familyId) =
    some ⟨.text c.userId, some (c.loginAt + cfg.refreshTokenTtlSeconds * second)⟩
  key : c.redis.store.lookup (refreshKey c.familyId jti) =
    some ⟨.text "1", some (c.issuedAt + cfg.refreshTokenTtlSeconds * second)⟩

theorem splitToken_join {familyId jti : String} (hf : Plain familyId ∧ familyId ≠ "")
    (hj : Plain jti ∧ jti ≠ "") :
    splitToken (familyId ++ "." ++ jti) = some (familyId, jti) := by
  have hdot : ∀ id : String, Plain id → '.' ∉ id.toList := by
    intro id hid hmem
    exact (hid '.' hmem).2.1 rfl
  have hparts : (familyId ++ "." ++ jti).toList.splitOn '.' =
      [familyId.toList, jti.toList] := by
    have hjoin : (['.'].intercalate [familyId.toList, jti.toList]).splitOn '.' =
        [familyId.toList, jti.toList] :=
      List.splitOn_intercalate '.' (by simp [hdot _ hf.1, hdot _ hj.1]) (by simp)
    simpa [List.intercalate, List.intersperse] using hjoin
  have hne : ∀ id : String, id ≠ "" → id.toList ≠ [] := by
    intro id hid hnil
    exact hid (String.toList_injective hnil)
  unfold splitToken
  rw [hparts]
  simp [hne _ hf.2, hne _ hj.2]

theorem get_of_lookup {r : Redis} {key : String} {value : Stored} {deadline : Option ℕ}
    (h : r.store.lookup key = some ⟨value, deadline⟩) :
    r.get key = if Entry.live r.clock (⟨value, deadline⟩ : Entry Stored) then some value
      else none := by
  change TtlStore.get r.clock key r.store = _
  rw [TtlStore.get, h]

theorem login_alive {cfg : Config} {args : Login} {envs : ℕ → Environment} {r : Redis}
    {c : Client} (h : Client.login cfg args envs r = some c) :
    c.refused = false ∧ ∃ jti, c.Alive cfg jti := by
  simp only [Client.login, startSession, run_makeId, run_epochSeconds, run_set, run_setEx,
    run_pure, Option.map_some, Option.some.injEq] at h
  subst h
  refine ⟨rfl, newId (envs 1).bytes, ?_⟩
  refine ⟨⟨fun _ => newId_plain, newId_ne_empty _⟩,
    ⟨fun _ => newId_plain, newId_ne_empty _⟩, rfl, ?_, ?_, ?_⟩
  · let session : SessionRecord :=
      { user_id := args.userId
        tenant_id := args.tenantId
        role := args.role
        family_id := newId (envs 0).bytes
        refresh_jti := newId (envs 1).bytes
        ip := args.ip
        ua := args.ua
        last_seen_epoch := r.clock / second }
    refine ⟨session, ?_, rfl, rfl⟩
    simp [TtlStore.setEx, TtlStore.set, AList.lookup_insert_ne, session]
  · simp [TtlStore.setEx, TtlStore.set, AList.lookup_insert_ne]
  · simp [TtlStore.setEx, TtlStore.set]

/-! ## §3  One refresh -/

/-- The user has an id, and the login is younger than the lifetime of a refresh token. -/
def Client.youngLogin (cfg : Config) (c : Client) : Bool :=
  c.userId ≠ "" && decide (c.redis.clock < c.loginAt + cfg.refreshTokenTtlSeconds * second)

section Refresh

variable {cfg : Config} {c : Client} {jti : String}

/-- The token is there, so it is consumed and the rotation goes on. -/
theorem Client.Alive.refreshed_eq (h : c.Alive cfg jti) (htime : c.inTime cfg = true)
    (envs : ℕ → Environment) :
    refreshed cfg envs c.token c.redis =
      (((afterConsume cfg c.familyId jti).run (atOnce envs)
          (c.redis.del [refreshKey c.familyId jti], 1)).1,
        ((afterConsume cfg c.familyId jti).run (atOnce envs)
          (c.redis.del [refreshKey c.familyId jti], 1)).2.1) := by
  have hthere : (c.redis.get (refreshKey c.familyId jti)).isSome = true := by
    rw [get_of_lookup h.key]
    simp only [Entry.live]
    rw [Client.inTime] at htime
    simp [htime]
  simp only [refreshed, rotateRefresh, h.token, splitToken_join h.family h.newest]
  rw [run_del, if_neg (by simp [hthere])]

theorem Client.Alive.get_index (h : c.Alive cfg jti) :
    (c.redis.del [refreshKey c.familyId jti]).get (familyIndexKey c.familyId) =
      if c.redis.clock < c.loginAt + cfg.refreshTokenTtlSeconds * second
        then some (.text c.userId) else none := by
  rw [get_index_del_token, get_of_lookup h.index]
  simp [Entry.live]

/-- Without its index the family has no user any more. -/
theorem Client.Alive.refused (h : c.Alive cfg jti) (htime : c.inTime cfg = true)
    (hold : c.youngLogin cfg = false) (envs : ℕ → Environment) :
    (c.refresh cfg envs).refused = true := by
  have hunknown : ((afterConsume cfg c.familyId jti).run (atOnce envs)
      (c.redis.del [refreshKey c.familyId jti], 1)).1 = some (.failed .user_unknown) := by
    rw [afterConsume, run_findUserIdByFamily, h.get_index]
    by_cases hclock : c.redis.clock < c.loginAt + cfg.refreshTokenTtlSeconds * second
    · have hempty : c.userId = "" := by
        by_contra hname
        simp [Client.youngLogin, hclock, hname] at hold
      rw [if_pos hclock]
      dsimp only [userOf]
      rw [if_pos hempty]
      rfl
    · rw [if_neg hclock]
      rfl
  rw [Client.refresh, h.refreshed_eq htime, hunknown]

theorem Client.Alive.goes_on (h : c.Alive cfg jti) (htime : c.inTime cfg = true)
    (hyoung : c.youngLogin cfg = true) (envs : ℕ → Environment) :
    (c.refresh cfg envs).refused = c.refused ∧ ∃ jti', (c.refresh cfg envs).Alive cfg jti' := by
  obtain ⟨hname, hclock⟩ : c.userId ≠ "" ∧
      c.redis.clock < c.loginAt + cfg.refreshTokenTtlSeconds * second := by
    simpa [Client.youngLogin] using hyoung
  obtain ⟨session, hrecord, hfamily, hjti⟩ := h.record
  have hget : (c.redis.del [refreshKey c.familyId jti]).get (sessionKey c.userId) =
      some (.record session) := by
    have hsame : (c.redis.del [refreshKey c.familyId jti]).get (sessionKey c.userId) =
        c.redis.get (sessionKey c.userId) := by
      apply TtlStore.get_removeAll_of_notMem
      simp
    rw [hsame, get_of_lookup hrecord]
    rfl
  have hrun := h.refreshed_eq htime envs
  rw [afterConsume, run_findUserIdByFamily, h.get_index, if_pos hclock] at hrun
  dsimp only [userOf] at hrun
  rw [if_neg hname, run_get, hget] at hrun
  dsimp only at hrun
  rw [if_neg (by simp [hfamily, hjti]), reissue, run_makeId, run_epochSeconds, run_set,
    run_setEx, run_pure] at hrun
  rw [Client.refresh, hrun]
  refine ⟨rfl, newId (envs 3).bytes, h.family, ⟨fun _ => newId_plain, newId_ne_empty _⟩,
    rfl, ?_, ?_, ?_⟩
  · refine ⟨{ session with
      refresh_jti := newId (envs 3).bytes
      last_seen_epoch := c.redis.clock / second }, ?_, hfamily, rfl⟩
    simp [TtlStore.setEx, TtlStore.set, AList.lookup_insert_ne, Redis.del]
  · have hkept : (c.redis.store.removeAll [refreshKey c.familyId jti]).lookup
        (familyIndexKey c.familyId) = c.redis.store.lookup (familyIndexKey c.familyId) := by
      rw [TtlStore.lookup_removeAll, if_neg (by simp)]
    simp [TtlStore.setEx, TtlStore.set, AList.lookup_insert_ne, Redis.del, hkept, h.index]
  · simp [TtlStore.setEx, TtlStore.set, Redis.del]

end Refresh

/-- Others leave an entry of the client as it is. -/
theorem Client.lookup_of_undisturbed {c : Client} {store : TtlStore Stored}
    (h : c.undisturbed store = true) {key : String} (hkey : c.holds key = true) :
    store.lookup key = c.redis.store.lookup key := by
  simp only [Client.undisturbed, List.all_eq_true] at h
  by_cases hmem : key ∈ c.redis.store.keys ++ store.keys
  · have hsame := h key hmem
    simp only [hkey, Bool.not_true, Bool.false_or, decide_eq_true_eq] at hsame
    exact hsame.symm
  · have hboth : key ∉ c.redis.store.keys ∧ key ∉ store.keys := by
      simpa only [List.mem_append, not_or] using hmem
    rw [AList.lookup_eq_none.mpr hboth.1, AList.lookup_eq_none.mpr hboth.2]

theorem Client.Alive.others {cfg : Config} {c : Client} {jti : String}
    {store : TtlStore Stored} (h : c.Alive cfg jti) (hstore : c.undisturbed store = true) :
    ({ c with redis := { c.redis with store := store } } : Client).Alive cfg jti := by
  obtain ⟨session, hrecord, hsession⟩ := h.record
  refine ⟨h.family, h.newest, h.token, ⟨session, ?_, hsession⟩, ?_, ?_⟩
  · exact (Client.lookup_of_undisturbed hstore (by simp [Client.holds])).trans hrecord
  · exact (Client.lookup_of_undisturbed hstore (by simp [Client.holds])).trans h.index
  · exact (Client.lookup_of_undisturbed hstore
      (by simp [Client.holds, refreshKey])).trans h.key

/-! ## §4  All refreshes -/

/-- A refresh whose token is in time finds the login in time as well. -/
def Client.keepsUp (cfg : Config) (c : Client) : ClientLabel → Prop
  | .refresh _ => c.inTime cfg = true → c.youngLogin cfg = true
  | _ => True

theorem Client.refused_refresh (cfg : Config) {c : Client} (h : c.refused = true)
    (envs : ℕ → Environment) : (c.refresh cfg envs).refused = true := by
  dsimp only [Client.refresh]
  split
  · exact h
  · rfl

/-- Until a refresh has failed, the client has all its keys. -/
def Client.Held (cfg : Config) (c : Client) : Prop :=
  c.refused = false → ∃ jti, c.Alive cfg jti

theorem held_step {cfg : Config} {c c' : Client} {l : ClientLabel}
    (hstep : c.step cfg l = some c') (h : c.Held cfg) : c'.Held cfg := by
  cases l with
  | refresh envs =>
      simp only [Client.step] at hstep
      split at hstep
      · rename_i htime
        obtain rfl := Option.some.inj hstep
        intro hok
        cases hrefused : c.refused with
        | true => cases hok.symm.trans (Client.refused_refresh cfg hrefused envs)
        | false =>
            obtain ⟨jti, halive⟩ := h hrefused
            cases hyoung : c.youngLogin cfg with
            | true => exact (halive.goes_on htime hyoung envs).2
            | false => cases hok.symm.trans (halive.refused htime hyoung envs)
      · cases hstep
  | others store =>
      simp only [Client.step] at hstep
      split at hstep
      · rename_i hstore
        obtain rfl := Option.some.inj hstep
        intro hok
        obtain ⟨jti, halive⟩ := h hok
        exact ⟨jti, halive.others hstore⟩
      · cases hstep
  | pass d =>
      obtain rfl := Option.some.inj hstep
      intro hok
      obtain ⟨jti, halive⟩ := h hok
      exact ⟨jti, halive.family, halive.newest, halive.token, halive.record, halive.index,
        halive.key⟩

theorem keepsUp_iff {cfg : Config} {c : Client} (h : c.Held cfg) (hok : c.refused = false)
    (l : ClientLabel) :
    c.keepsUp cfg l ↔ ∀ c', c.step cfg l = some c' → c'.refused = false := by
  obtain ⟨jti, halive⟩ := h hok
  cases l with
  | refresh envs =>
      simp only [Client.keepsUp, Client.step]
      constructor
      · rintro hkeeps c' hstep
        split at hstep
        · rename_i htime
          obtain rfl := Option.some.inj hstep
          exact (halive.goes_on htime (hkeeps htime) envs).1.trans hok
        · cases hstep
      · intro hall htime
        by_contra hold
        have hrefused := halive.refused htime (Bool.not_eq_true _ ▸ hold) envs
        cases hrefused.symm.trans (hall _ (if_pos htime))
  | others store =>
      apply iff_of_true trivial
      intro c' hstep
      simp only [Client.step] at hstep
      split at hstep
      · obtain rfl := Option.some.inj hstep
        exact hok
      · cases hstep
  | pass d =>
      apply iff_of_true trivial
      intro c' hstep
      obtain rfl := Option.some.inj hstep
      exact hok

/-- **A well-behaved client is never logged out** exactly when every refresh comes
before the login is one lifetime of a refresh token old. -/
theorem never_logged_out_iff {cfg : Config} {c : Client}
    (hc : (clientSystem cfg).start c) (as : List ClientLabel) :
    (clientSystem cfg).Throughout (fun c => c.refused = false) c as ↔
      (clientSystem cfg).Meets (Client.keepsUp cfg) c as := by
  obtain ⟨args, envs, r, hlogin⟩ := hc
  obtain ⟨hok, halive⟩ := login_alive hlogin
  exact System.throughout_iff_meets (I := Client.Held cfg)
    (fun c l c' hstep h => held_step hstep h)
    (fun c l h hok => keepsUp_iff h hok l) (fun _ => halive) hok

def sampleEnvs (n : ℕ) : Environment := ⟨sampleBytes (UInt8.ofNat n), 0, []⟩

def sampleClient : Option Client := Client.login .default alice sampleEnvs ⟨0, ∅⟩

def dayLabel : ClientLabel := .pass (24 * 60 * 60 * second)

/-- One refresh in the first week, and one just after it. -/
def weekLabels : List ClientLabel :=
  [dayLabel, dayLabel, dayLabel, dayLabel, .refresh sampleEnvs, dayLabel, dayLabel, dayLabel,
    .refresh sampleEnvs]

theorem sampleClient_isSome : sampleClient.isSome = true := by decide +kernel

theorem week_run :
    sampleClient.any (fun c =>
      ((clientSystem .default).run c weekLabels).any (fun c' => c'.refused)) = true := by
  decide +kernel

theorem never_logged_out_iff_week :
    ∃ c, sampleClient = some c ∧
      ((clientSystem .default).Throughout (fun c => c.refused = false) c weekLabels ↔
        (clientSystem .default).Meets (Client.keepsUp .default) c weekLabels) := by
  obtain ⟨c, hc⟩ := Option.isSome_iff_exists.mp sampleClient_isSome
  exact ⟨c, hc, never_logged_out_iff ⟨alice, sampleEnvs, ⟨0, ∅⟩, hc⟩ weekLabels⟩

/-- Seven days after the login a refresh fails, with a token that is three days old. -/
theorem logged_out_after_week :
    ∃ c c', (clientSystem .default).start c ∧
      (clientSystem .default).run c weekLabels = some c' ∧ c'.refused = true := by
  obtain ⟨c, hc, hrun⟩ := (Option.any_eq_true _ _).mp week_run
  obtain ⟨c', hc', hrefused⟩ := (Option.any_eq_true _ _).mp hrun
  exact ⟨c, c', ⟨alice, sampleEnvs, ⟨0, ∅⟩, hc⟩, hc', hrefused⟩

end AlertTriage.Auth
