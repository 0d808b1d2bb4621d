import Mathlib.Data.List.Dedup
import AlertTriage.Auth.SessionStore

/-!
# The calls of the session store

What the functions of the session store may ask of Redis, stated once for every
property of calls and replies that fits them (`Allows`, `program_makes`); what one
call does to the entry of a key; the invariant of all runs, that every id in a key or
a record is one of `newId` (`Sound`); and a function that runs without interruption
(`atOnce`).
-/

namespace AlertTriage.Auth

open Library

/-! ## §1  The calls of the programs -/

/-- The calls that write nothing. -/
structure Harmless (C : Call → Prop) : Prop where
  newId : C .newId
  dateNow : C .dateNow
  get : ∀ key, C (.get key)
  del : ∀ keys, C (.del keys)
  scanStream : ∀ pattern, C (.scanStream pattern)
  scan : ∀ pattern, C (.scan pattern)

/-- Replies `A` and calls `C` that go together in every function of the store. -/
structure Allows (cfg : Config) (A : (c : Call) → c.Reply → Prop) (C : Call → Prop) :
    Prop extends Harmless C where
  session : ∀ (f : String) (u : String) (record : SessionRecord),
    (A .newId f ∨ ∃ key r, A (.get key) (some (.record r)) ∧ r.family_id = f) →
      record.family_id = f → C (.set (sessionKey u) (.record record))
  index : ∀ (f u : String), A .newId f →
    C (.setEx (familyIndexKey f) (.text u) cfg.refreshTokenTtlSeconds)
  refresh : ∀ (f j : String),
    (A .newId f ∨ ∃ key r, A (.get key) (some (.record r)) ∧ r.family_id = f) →
      A .newId j →
        C (.setEx (refreshKey f j) (.text "1") cfg.refreshTokenTtlSeconds)

section Programs

variable {cfg : Config} {A : (c : Call) → c.Reply → Prop} {C : Call → Prop}

theorem burnFamily_makes (h : Harmless C) (familyId : String) :
    (burnFamily familyId).Makes A C := by
  have hbatches : ∀ pattern n, (burnBatches pattern n).Makes A C := by
    intro pattern n
    induction n with
    | zero => exact Async.Makes.pure ()
    | succ n ih =>
        refine (Async.Makes.await (h.scan pattern)).bind fun keys => ?_
        split
        · exact ih
        · exact (Async.Makes.await (h.del keys)).bind fun _ => ih
  refine (Async.Makes.await (h.del _)).bind fun _ => ?_
  exact (Async.Makes.await (h.scanStream _)).bind fun n => hbatches _ n

theorem startSession_makes (h : Allows cfg A C) (args : Login) :
    (startSession cfg args).Makes A C := by
  refine Async.Makes.await_bind h.newId fun f hf => ?_
  refine Async.Makes.await_bind h.newId fun j hj => ?_
  refine (Async.Makes.await h.dateNow).bind fun now => ?_
  refine (Async.Makes.await (h.session f _ _ (.inl hf) rfl)).bind fun _ => ?_
  refine (Async.Makes.await (h.index f _ hf)).bind fun _ => ?_
  exact (Async.Makes.await (h.refresh f j (.inl hf) hj)).bind fun _ => Async.Makes.pure _

theorem afterConsume_makes (h : Allows cfg A C) (familyId oldJti : String) :
    (afterConsume cfg familyId oldJti).Makes A C := by
  -- a session that does not match burns the family
  have hburn : (do burnFamily familyId; pure (.failed .reused) :
      Task RefreshResult).Makes A C :=
    (burnFamily_makes h.toHarmless familyId).bind fun _ => Async.Makes.pure _
  refine Async.Makes.bind ?_ fun userId => ?_
  · refine (Async.Makes.await (h.get _)).bind fun value => ?_
    rcases value with _ | _ | _ <;> exact Async.Makes.pure _
  cases userId with
  | none => exact Async.Makes.pure _
  | some userId =>
      dsimp only
      split
      · exact Async.Makes.pure _
      · refine Async.Makes.await_bind (h.get _) fun value hvalue => ?_
        cases value with
        | none => exact Async.Makes.pure _
        | some value =>
            cases value with
            | text t => exact hburn
            | record session =>
                dsimp only
                split
                · exact hburn
                · rename_i hsame
                  have hfamily : session.family_id = familyId := by
                    by_contra hne
                    exact hsame (.inl hne)
                  have hfrom : A .newId familyId ∨
                      ∃ key r, A (.get key) (some (.record r)) ∧ r.family_id = familyId :=
                    .inr ⟨_, session, hvalue, hfamily⟩
                  refine Async.Makes.await_bind h.newId fun j hj => ?_
                  refine (Async.Makes.await h.dateNow).bind fun now => ?_
                  refine (Async.Makes.await (h.session familyId _
                    { session with refresh_jti := j, last_seen_epoch := now }
                    hfrom hfamily)).bind fun _ => ?_
                  exact (Async.Makes.await (h.refresh familyId j hfrom hj)).bind
                    fun _ => Async.Makes.pure _

theorem rotateRefresh_makes (h : Allows cfg A C) (token : String) :
    (rotateRefresh cfg token).Makes A C := by
  unfold rotateRefresh
  cases splitToken token with
  | none => exact Async.Makes.pure _
  | some pair =>
      refine (Async.Makes.await (h.del _)).bind fun consumed => ?_
      split
      · exact (burnFamily_makes h.toHarmless _).bind fun _ => Async.Makes.pure _
      · exact afterConsume_makes h _ _

theorem endSession_makes (h : Harmless C) (userId : String) :
    (endSession userId).Makes A C := by
  refine (Async.Makes.await (h.get _)).bind fun value => ?_
  cases value with
  | none => exact Async.Makes.pure _
  | some value =>
      cases value with
      | text t => trivial
      | record session =>
          refine (Async.Makes.await (h.del _)).attempt.bind fun deleted => ?_
          refine (burnFamily_makes h _).attempt.bind fun burnt => ?_
          rcases deleted with _ | _ <;> rcases burnt with _ | _ <;> trivial

theorem program_makes (h : Allows cfg A C) (op : Operation) :
    (op.program cfg).Makes A C := by
  cases op with
  | startSession args =>
      exact (startSession_makes h args).bind fun _ => Async.Makes.pure _
  | rotateRefresh token =>
      exact (rotateRefresh_makes h token).bind fun _ => Async.Makes.pure _
  | endSession userId =>
      exact (endSession_makes h.toHarmless userId).bind fun _ => Async.Makes.pure _

end Programs

/-! ## §2  What one call does to a key -/

theorem answer_lookup (env : Environment) (c : Call) (r : Redis) {key : String}
    {e : Entry Stored} (h : (answer env c r).2.store.lookup key = some e) :
    r.store.lookup key = some e ∨ c = .set key e.value ∨
      ∃ ttl, c = .setEx key e.value ttl := by
  cases c with
  | set key' value =>
      by_cases hkey : key = key'
      · subst hkey
        have he : Entry.mk value none = e := by
          simpa [answer, TtlStore.set] using h
        subst he
        exact .inr (.inl rfl)
      · left
        simpa [answer, TtlStore.set, AList.lookup_insert_ne hkey] using h
  | setEx key' value ttl =>
      by_cases hkey : key = key'
      · subst hkey
        have he : Entry.mk value (some (r.clock + ttl * second)) = e := by
          simpa [answer, TtlStore.setEx] using h
        subst he
        exact .inr (.inr ⟨ttl, rfl⟩)
      · left
        simpa [answer, TtlStore.setEx, AList.lookup_insert_ne hkey] using h
  | del keys =>
      left
      rw [answer, Redis.del, TtlStore.lookup_removeAll] at h
      split at h
      · cases h
      · exact h
  | _ => exact .inl h

/-! ## §3  Well-formed ids -/

/-- The characters are those of `newId`. -/
def Plain (id : String) : Prop :=
  ∀ c ∈ id.toList, c ≠ ':' ∧ c ≠ '.' ∧ Glob.isLiteral c = true

theorem Plain.colon_notMem {id : String} (h : Plain id) : ':' ∉ id.toList := by
  intro hmem
  exact (h ':' hmem).1 rfl

/-- The key of two such ids is that of no other pair. -/
theorem eq_of_refreshKey {f g j k : String} (hg : Plain g) (hk : Plain k)
    (h : refreshKey f j = refreshKey g k) : f = g ∧ j = k := by
  refine refreshKey_inj ?_ hk.colon_notMem h
  have hcut : f.toList ++ ':' :: j.toList = g.toList ++ ':' :: k.toList := by
    simpa [refreshKey] using congrArg String.toList h
  have hcount := congrArg (List.count ':') hcut
  simp only [List.count_append, List.count_cons_self,
    List.count_eq_zero.mpr hg.colon_notMem,
    List.count_eq_zero.mpr hk.colon_notMem] at hcount
  exact List.count_eq_zero.mp (by omega)

/-- The ids in a reply are those of `newId`. -/
def PlainReply : (c : Call) → c.Reply → Prop
  | .newId, (id : String) => Plain id
  | .get _, (value : Option Stored) =>
      ∀ session, value = some (.record session) → Plain session.family_id
  | _, _ => True

def PlainRecord (key : String) (value : Stored) : Prop :=
  ∃ u session, key = sessionKey u ∧ value = .record session ∧ Plain session.family_id

def PlainIndex (key : String) (value : Stored) : Prop :=
  ∃ f u, Plain f ∧ key = familyIndexKey f ∧ value = .text u

def PlainToken (key : String) (value : Stored) : Prop :=
  ∃ f j, Plain f ∧ Plain j ∧ key = refreshKey f j ∧ value = .text "1"

def PlainCall : Call → Prop
  | .set key value => PlainRecord key value
  | .setEx key value _ => PlainIndex key value ∨ PlainToken key value
  | _ => True

theorem allows_plain (cfg : Config) : Allows cfg PlainReply PlainCall := by
  have hfamily : ∀ f : String,
      (PlainReply .newId f ∨
        ∃ key r, PlainReply (.get key) (some (.record r)) ∧ r.family_id = f) → Plain f := by
    rintro f (hf | ⟨key, r, hr, rfl⟩)
    · exact hf
    · exact hr r rfl
  refine ⟨⟨trivial, trivial, fun _ => trivial, fun _ => trivial, fun _ => trivial,
    fun _ => trivial⟩, ?_, ?_, ?_⟩
  · rintro f u record hf rfl
    exact ⟨u, record, rfl, rfl, hfamily _ hf⟩
  · rintro f u hf
    exact .inl ⟨f, u, hf, rfl, rfl⟩
  · rintro f j hf hj
    exact .inr ⟨f, j, hfamily f hf, hj, rfl, rfl⟩

/-- Everything in Redis and everything still to come has ids of `newId`. -/
structure Sound (s : Fleet) : Prop where
  tasks : ∀ t ∈ s.tasks, t.2.Makes PlainReply PlainCall
  entries : ∀ key e, s.redis.store.lookup key = some e →
    PlainRecord key e.value ∨ PlainIndex key e.value ∨ PlainToken key e.value
  written : ∀ key ∈ s.written, ∃ value, PlainIndex key value ∨ PlainToken key value

theorem lookup_of_get {r : Redis} {key : String} {value : Stored}
    (h : r.get key = some value) :
    ∃ e, r.store.lookup key = some e ∧ e.live r.clock = true ∧ e.value = value := by
  change TtlStore.get r.clock key r.store = some value at h
  unfold TtlStore.get at h
  split at h
  · rename_i e he
    split at h
    · rename_i hlive
      exact ⟨e, he, hlive, Option.some.inj h⟩
    · cases h
  · cases h

theorem plain_answer {s : Fleet} (h : Sound s) (env : Environment) (c : Call) :
    PlainReply c (answer env c s.redis).1 := by
  cases c with
  | newId => exact fun _ => newId_plain
  | get key =>
      rintro session hsession
      obtain ⟨e, he, -, hvalue⟩ := lookup_of_get hsession
      rcases h.entries key e he with ⟨u, r, -, hr, hplain⟩ | ⟨f, u, -, -, htext⟩ |
        ⟨f, j, -, -, -, htext⟩
      · obtain rfl := Stored.record.inj (hvalue.symm.trans hr)
        exact hplain
      · cases hvalue.symm.trans htext
      · cases hvalue.symm.trans htext
  | _ => trivial

theorem Sound.advance {s : Fleet} (h : Sound s) {i : ℕ} {op : Operation}
    {x : Task Result} (hi : s.tasks[i]? = some (op, x)) (env : Environment)
    (o : Outcome) : Sound (s.advance i o env op x) := by
  have hx : x.Makes PlainReply PlainCall := h.tasks _ (List.mem_of_getElem? hi)
  refine ⟨?_, ?_, ?_⟩
  · rintro t ht
    rcases List.mem_or_eq_of_mem_set ht with ht | rfl
    · exact h.tasks t ht
    · exact Async.Makes.resume hx (fun c _ => plain_answer h env c) o
  · rintro key e he
    change (x.resume (answer env) o s.redis).2.store.lookup key = some e at he
    rcases Async.resume_world (answer env) o x s.redis with hsame | ⟨c, hc, -, heffect⟩
    · exact h.entries key e (hsame ▸ he)
    · rw [heffect] at he
      have hcall := Async.Makes.of_awaited hx hc
      rcases answer_lookup env c s.redis he with hbefore | rfl | ⟨ttl, rfl⟩
      · exact h.entries key e hbefore
      · exact .inl hcall
      · exact .inr hcall
  · rintro key hkey
    rcases List.mem_append.mp hkey with hkey | hkey
    · exact h.written key hkey
    · cases hc : x.awaited with
      | none => simp [writtenBy, hc] at hkey
      | some c =>
          have hcall := Async.Makes.of_awaited hx hc
          cases c with
          | setEx key' value ttl =>
              obtain ⟨-, rfl⟩ : o.applied = true ∧ key = key' := by
                simpa [writtenBy, hc] using hkey
              exact ⟨value, hcall⟩
          | _ => simp [writtenBy, hc] at hkey

theorem sound {cfg : Config} {s : Fleet} (hs : (fleetSystem cfg).Reachable s) :
    Sound s := by
  apply hs.invariant
  · rintro s rfl
    exact ⟨by rintro t ⟨⟩, by rintro key e ⟨⟩, by rintro key ⟨⟩⟩
  · rintro s l s' hinv - hstep
    rcases step_cases hstep with ⟨op, -, rfl⟩ | ⟨i, o, env, op, x, -, hi, -, rfl⟩ |
      ⟨d, -, rfl⟩
    · refine ⟨?_, hinv.entries, hinv.written⟩
      rintro t ht
      rcases List.mem_append.mp ht with ht | ht
      · exact hinv.tasks t ht
      · obtain rfl := List.mem_singleton.mp ht
        exact program_makes (allows_plain cfg) op
    · exact hinv.advance hi env o
    · exact ⟨hinv.tasks, hinv.entries, hinv.written⟩

/-- A key of a token that is there was made of two ids. -/
theorem Sound.plain_of_lookup {s : Fleet} (h : Sound s) {f j : String}
    {e : Entry Stored} (he : s.redis.store.lookup (refreshKey f j) = some e) :
    Plain f ∧ Plain j := by
  rcases h.entries _ e he with ⟨u, session, hkey, -, -⟩ | ⟨g, u, -, hkey, -⟩ |
    ⟨g, k, hg, hk, hkey, -⟩
  · exact absurd hkey (refreshKey_ne_sessionKey _ _ _)
  · exact absurd hkey (refreshKey_ne_familyIndexKey _ _ _)
  · obtain ⟨rfl, rfl⟩ := eq_of_refreshKey hg hk hkey
    exact ⟨hg, hk⟩

/-! ## §4  A function without interruption -/

/-- The `n`-th call is answered under the `n`-th environment. -/
def atOnce (envs : ℕ → Environment) : Async.Handler Call Call.Reply (Redis × ℕ) :=
  fun c w => ((answer (envs w.2) c w.1).1, ((answer (envs w.2) c w.1).2, w.2 + 1))

section AtOnce

variable {α : Type} {envs : ℕ → Environment} {w : Redis × ℕ}

@[simp] theorem run_pure (a : α) :
    Async.run (atOnce envs) (pure a : Task α) w = (some a, w) := rfl

@[simp] theorem run_makeId (f : String → Task α) :
    (makeId >>= f).run (atOnce envs) w =
      (f (newId (envs w.2).bytes)).run (atOnce envs) (w.1, w.2 + 1) := rfl

@[simp] theorem run_epochSeconds (f : ℕ → Task α) :
    (epochSeconds >>= f).run (atOnce envs) w =
      (f (w.1.clock / second)).run (atOnce envs) (w.1, w.2 + 1) := rfl

@[simp] theorem run_get (key : String) (f : Option Stored → Task α) :
    (redis.get key >>= f).run (atOnce envs) w =
      (f (w.1.get key)).run (atOnce envs) (w.1, w.2 + 1) := rfl

@[simp] theorem run_set (key : String) (value : Stored) (f : Unit → Task α) :
    (redis.set key value >>= f).run (atOnce envs) w =
      (f ()).run (atOnce envs)
        ({ w.1 with store := w.1.store.set key value }, w.2 + 1) := rfl

@[simp] theorem run_setEx (key : String) (value : Stored) (ttl : ℕ) (f : Unit → Task α) :
    (redis.setEx key value ttl >>= f).run (atOnce envs) w =
      (f ()).run (atOnce envs)
        ({ w.1 with store := w.1.store.setEx w.1.clock key value (ttl * second) },
          w.2 + 1) := rfl

@[simp] theorem run_del (keys : List String) (f : ℕ → Task α) :
    (redis.del keys >>= f).run (atOnce envs) w =
      (f (keys.dedup.filter fun key => (w.1.get key).isSome).length).run (atOnce envs)
        (w.1.del keys, w.2 + 1) := rfl

@[simp] theorem run_scanStream (pattern : String) (f : ℕ → Task α) :
    (redis.scanStream pattern >>= f).run (atOnce envs) w =
      (f (envs w.2).batches).run (atOnce envs) (w.1, w.2 + 1) := rfl

@[simp] theorem run_scan (pattern : String) (f : List String → Task α) :
    (redis.scan pattern >>= f).run (atOnce envs) w =
      (f ((envs w.2).keys.filter fun key =>
        Glob.globMatch pattern key && (w.1.get key).isSome)).run (atOnce envs)
        (w.1, w.2 + 1) := rfl

/-- A text in the index is a user. -/
def userOf : Option Stored → Option String
  | some (.text userId) => some userId
  | _ => none

@[simp] theorem run_findUserIdByFamily (familyId : String) (f : Option String → Task α) :
    (findUserIdByFamily familyId >>= f).run (atOnce envs) w =
      (f (userOf (w.1.get (familyIndexKey familyId)))).run (atOnce envs)
        (w.1, w.2 + 1) := by
  have hfind : (findUserIdByFamily familyId).run (atOnce envs) w =
      (some (userOf (w.1.get (familyIndexKey familyId))), (w.1, w.2 + 1)) := by
    rw [findUserIdByFamily, run_get]
    rcases w.1.get (familyIndexKey familyId) with _ | _ | userId <;> rfl
  rw [Async.run_bind, hfind]

end AtOnce

/-! ## §5  Two users -/

def sampleBytes (n : UInt8) : RandomBytes := ⟨List.replicate 16 n, List.length_replicate⟩

def sampleId (n : UInt8) : String := newId (sampleBytes n)

def sampleToken (m n : UInt8) : String := sampleId m ++ "." ++ sampleId n

/-- The `i`-th call goes on; a new id is made of the byte. -/
def go (i : ℕ) (n : UInt8) : Label := .advance i .returned ⟨sampleBytes n, 0, []⟩

def alice : Login := ⟨"alice", "acme", some "analyst", none, none⟩

def bob : Login := ⟨"bob", "acme", some "analyst", none, none⟩

/-- The `i`-th call is a login from start to end; its ids are made of the byte and the
one after it. -/
def sampleLogin (args : Login) (i : ℕ) (n : UInt8) : List Label :=
  [.begin (.startSession args), go i n, go i (n + 1), go i 0, go i 0, go i 0, go i 0]

end AlertTriage.Auth
