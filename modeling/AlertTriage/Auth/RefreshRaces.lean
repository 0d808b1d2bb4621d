import AlertTriage.Auth.SessionCalls

/-!
# Refresh tokens under races

Any number of logins, refreshes and logouts run side by side, one Redis command
at a time. An id is written once, as a family index or in the key of a refresh
token; a `DEL` finds that key at most as often as it was written, and a rotation
succeeds only if its own `DEL` has found it. So a token makes at most one rotation
succeed. An index that a burn has deleted is never written again, and a rotation
that looks for it then fails (`rotation_safe`).
-/

namespace AlertTriage.Auth

open Library

/-! ## §1  Counting -/

section Counting

open Classical

variable {α : Type} {P Q : α → Prop} {l : List α} {i j : ℕ} {a b : α}

noncomputable def howMany (P : α → Prop) (l : List α) : ℕ := l.countP fun a => decide (P a)

@[simp] theorem howMany_nil : howMany P [] = 0 := rfl

theorem howMany_cons (a : α) (l : List α) :
    howMany P (a :: l) = howMany P l + if P a then 1 else 0 := by
  simp [howMany, List.countP_cons]

theorem howMany_append (l m : List α) :
    howMany P (l ++ m) = howMany P l + howMany P m :=
  List.countP_append

theorem howMany_le_length (l : List α) : howMany P l ≤ l.length :=
  List.countP_le_length

theorem howMany_set (h : l[i]? = some a) (b : α) :
    howMany P (l.set i b) + (if P a then 1 else 0) =
      howMany P l + if P b then 1 else 0 := by
  induction l generalizing i with
  | nil => simp at h
  | cons c l ih =>
      cases i with
      | zero =>
          obtain rfl : c = a := by simpa using h
          rw [List.set_cons_zero, howMany_cons, howMany_cons]
          omega
      | succ i =>
          have hi := ih (i := i) (by simpa using h)
          rw [List.set_cons_succ, howMany_cons, howMany_cons]
          omega

theorem howMany_mono (h : ∀ a ∈ l, P a → Q a) : howMany P l ≤ howMany Q l := by
  apply List.countP_mono_left
  intro a ha hP
  exact decide_eq_true (h a ha (of_decide_eq_true hP))

theorem howMany_pos (h : l[i]? = some a) (ha : P a) : 0 < howMany P l := by
  rw [howMany, List.countP_pos_iff]
  exact ⟨a, List.mem_of_getElem? h, decide_eq_true ha⟩

theorem howMany_eq_zero : howMany P l = 0 ↔ ∀ a ∈ l, ¬ P a := by
  rw [howMany, List.countP_eq_zero]
  simp

/-- Of a property that one entry has at most, two places are one. -/
theorem eq_of_howMany_le_one (h : howMany P l ≤ 1) (hi : l[i]? = some a) (ha : P a)
    (hj : l[j]? = some b) (hb : P b) : i = j := by
  induction l generalizing i j with
  | nil => simp at hi
  | cons c l ih =>
      rw [howMany_cons] at h
      cases i with
      | zero =>
          obtain rfl : c = a := by simpa using hi
          cases j with
          | zero => rfl
          | succ j =>
              have hpos := howMany_pos (P := P) (l := l) (i := j) (by simpa using hj) hb
              rw [if_pos ha] at h
              omega
      | succ i =>
          have hpos := howMany_pos (P := P) (l := l) (i := i) (by simpa using hi) ha
          cases j with
          | zero =>
              obtain rfl : c = b := by simpa using hj
              rw [if_pos hb] at h
              omega
          | succ j =>
              have hle : howMany P l ≤ 1 := by omega
              exact congrArg Nat.succ (ih hle (by simpa using hi) (by simpa using hj))

end Counting

/-! ## §2  What an id is written for -/

/-- An id names a family or a token. -/
inductive Kind where
  | index
  | refresh
deriving DecidableEq, Repr

def Kind.names : Kind → String → String → Prop
  | .index, id, key => key = familyIndexKey id
  | .refresh, id, key => ∃ family, key = refreshKey family id

def WritesId (kind : Kind) (id : String) (c : Call) : Prop :=
  ∃ key value ttl, c = .setEx key value ttl ∧ kind.names id key

/-- The replies of an environment that makes no such id again. -/
def OtherIds (id : String) : (c : Call) → c.Reply → Prop
  | .newId, (r : String) => r ≠ id ∧ ':' ∉ r.toList
  | _, _ => True

/-- The program will not write the id. -/
def Quiet {α : Type} (kind : Kind) (id : String) (x : Task α) : Prop :=
  x.Makes (OtherIds id) fun c => ¬ WritesId kind id c

/-- The program writes no id of the kind at all. -/
def Silent {α : Type} (kind : Kind) (x : Task α) : Prop :=
  x.Makes (fun _ _ => True) fun c => ∀ id, ¬ WritesId kind id c

theorem Silent.quiet {α : Type} {kind : Kind} {x : Task α} (h : Silent kind x)
    (id : String) : Quiet kind id x :=
  h.mono (fun _ _ _ => trivial) fun _ hc => hc id

theorem harmless_silent (kind : Kind) : Harmless fun c => ∀ id, ¬ WritesId kind id c where
  newId := by simp [WritesId]
  dateNow := by simp [WritesId]
  get := by simp [WritesId]
  del := by simp [WritesId]
  scanStream := by simp [WritesId]
  scan := by simp [WritesId]

theorem allows_quiet (cfg : Config) {kind : Kind} {id : String}
    (hid : kind = .refresh → ':' ∉ id.toList) :
    Allows cfg (OtherIds id) fun c => ¬ WritesId kind id c where
  newId := (harmless_silent kind).newId id
  dateNow := (harmless_silent kind).dateNow id
  get := fun key => (harmless_silent kind).get key id
  del := fun keys => (harmless_silent kind).del keys id
  scanStream := fun pattern => (harmless_silent kind).scanStream pattern id
  scan := fun pattern => (harmless_silent kind).scan pattern id
  session := by simp [WritesId]
  index := by
    rintro f u hf ⟨key, value, ttl, hset, hnames⟩
    obtain ⟨rfl, -, -⟩ := Call.setEx.inj hset
    cases kind with
    | index => exact hf.1 (familyIndexKey_inj.mp hnames)
    | refresh =>
        obtain ⟨g, hg⟩ := hnames
        exact familyIndexKey_ne_refreshKey _ _ _ hg
  refresh := by
    rintro f j - hj ⟨key, value, ttl, hset, hnames⟩
    obtain ⟨rfl, -, -⟩ := Call.setEx.inj hset
    cases kind with
    | index => exact refreshKey_ne_familyIndexKey _ _ _ hnames
    | refresh =>
        obtain ⟨g, hg⟩ := hnames
        exact hj.1 (refreshKey_inj hj.2 (hid rfl) hg).2

theorem quiet_program (cfg : Config) {kind : Kind} {id : String}
    (hid : kind = .refresh → ':' ∉ id.toList) (op : Operation) :
    Quiet kind id (op.program cfg) :=
  program_makes (allows_quiet cfg hid) op

/-- Once an id of the kind is written, the program writes no other. -/
def Final {α : Type} (kind : Kind) : Task α → Prop
  | .pure _ => True
  | .raise => True
  | .call c next =>
      ((∃ id, WritesId kind id c) → ∀ r, Silent kind (next r)) ∧ ∀ r, Final kind (next r)

theorem Silent.final {α : Type} {kind : Kind} {x : Task α} (h : Silent kind x) :
    Final kind x := by
  induction x with
  | pure a => trivial
  | raise => trivial
  | call c next ih =>
      refine ⟨fun hwrites => ?_, ?_⟩
      · obtain ⟨id, hid⟩ := hwrites
        exact absurd hid (h.1 id)
      · intro r
        cases r with
        | none => exact ih none h.2.1
        | some r => exact ih (some r) (h.2.2 r trivial)

theorem Final.bind {α β : Type} {kind : Kind} {x : Task α} {f : α → Task β}
    (hx : Silent kind x) (hf : ∀ a, Final kind (f a)) : Final kind (x >>= f) := by
  induction x with
  | pure a => exact hf a
  | raise => trivial
  | call c next ih =>
      refine ⟨fun hwrites => ?_, ?_⟩
      · obtain ⟨id, hid⟩ := hwrites
        exact absurd hid (hx.1 id)
      · intro r
        cases r with
        | none => exact ih none hx.2.1
        | some r => exact ih (some r) (hx.2.2 r trivial)

/-- A call that may write, with nothing of its kind behind it. -/
theorem Final.await_bind {β : Type} {kind : Kind} {c : Call} {f : c.Reply → Task β}
    (hf : ∀ r, Silent kind (f r)) : Final kind (Async.await c >>= f) := by
  refine ⟨?_, ?_⟩
  · rintro - (_ | r)
    · trivial
    · exact hf r
  · rintro (_ | r)
    · trivial
    · exact (hf r).final

theorem Silent.map {α β : Type} {kind : Kind} {x : Task α} (hx : Silent kind x)
    (g : α → β) : Silent kind (x >>= fun a => pure (g a)) :=
  Async.Makes.bind hx fun _ => Async.Makes.pure _

theorem Final.map {α β : Type} {kind : Kind} {x : Task α} (hx : Final kind x)
    (g : α → β) : Final kind (x >>= fun a => pure (g a)) := by
  induction x with
  | pure a => trivial
  | raise => trivial
  | call c next ih =>
      refine ⟨fun hwrites r => ?_, fun r => ih r (hx.2 r)⟩
      exact (hx.1 hwrites r).map g

theorem silent_refresh_index (f j : String) (value : Stored) (ttl : ℕ) :
    Silent .index (redis.setEx (refreshKey f j) value ttl) := by
  apply Async.Makes.await
  rintro id ⟨key, value', ttl', hset, hnames⟩
  obtain ⟨rfl, -, -⟩ := Call.setEx.inj hset
  exact refreshKey_ne_familyIndexKey _ _ _ hnames

theorem silent_index_refresh (f : String) (value : Stored) (ttl : ℕ) :
    Silent .refresh (redis.setEx (familyIndexKey f) value ttl) := by
  apply Async.Makes.await
  rintro id ⟨key, value', ttl', hset, g, hnames⟩
  obtain ⟨rfl, -, -⟩ := Call.setEx.inj hset
  exact familyIndexKey_ne_refreshKey _ _ _ hnames

theorem silent_set (kind : Kind) (key : String) (value : Stored) :
    Silent kind (redis.set key value) := by
  apply Async.Makes.await
  simp [WritesId]

theorem final_startSession (cfg : Config) (kind : Kind) (args : Login) :
    Final kind (startSession cfg args) := by
  have hquiet := harmless_silent kind
  refine Final.bind (Async.Makes.await hquiet.newId) fun f => ?_
  refine Final.bind (Async.Makes.await hquiet.newId) fun j => ?_
  refine Final.bind (Async.Makes.await hquiet.dateNow) fun now => ?_
  refine Final.bind (silent_set kind _ _) fun _ => ?_
  cases kind with
  | index =>
      refine Final.await_bind fun _ => ?_
      exact (silent_refresh_index f j _ _).map fun _ => _
  | refresh =>
      refine Final.bind (silent_index_refresh f _ _) fun _ => ?_
      exact Final.await_bind fun _ => Async.Makes.pure _

theorem final_afterConsume (cfg : Config) (kind : Kind) (familyId oldJti : String) :
    Final kind (afterConsume cfg familyId oldJti) := by
  have hquiet := harmless_silent kind
  have hburn : Final kind (do burnFamily familyId; pure (.failed .reused) :
      Task RefreshResult) :=
    Silent.final (Async.Makes.bind (burnFamily_makes hquiet familyId)
      fun _ => Async.Makes.pure _)
  refine Final.bind ?_ fun userId => ?_
  · refine (Async.Makes.await (hquiet.get _)).bind fun value => ?_
    rcases value with _ | _ | _ <;> exact Async.Makes.pure _
  cases userId with
  | none => trivial
  | some userId =>
      dsimp only
      split
      · trivial
      · refine Final.bind (Async.Makes.await (hquiet.get _)) fun value => ?_
        rcases value with _ | session | _
        · trivial
        · dsimp only
          split
          · exact hburn
          · refine Final.bind (Async.Makes.await hquiet.newId) fun j => ?_
            refine Final.bind (Async.Makes.await hquiet.dateNow) fun now => ?_
            refine Final.bind (silent_set kind _ _) fun _ => ?_
            exact Final.await_bind fun _ => Async.Makes.pure _
        · exact hburn

theorem final_rotateRefresh (cfg : Config) (kind : Kind) (token : String) :
    Final kind (rotateRefresh cfg token) := by
  have hquiet := harmless_silent kind
  unfold rotateRefresh
  cases splitToken token with
  | none => trivial
  | some pair =>
      refine Final.bind (Async.Makes.await (hquiet.del _)) fun consumed => ?_
      split
      · exact Silent.final (Async.Makes.bind (burnFamily_makes hquiet _)
          fun _ => Async.Makes.pure _)
      · exact final_afterConsume cfg kind _ _

theorem final_program (cfg : Config) (kind : Kind) (op : Operation) :
    Final kind (op.program cfg) := by
  cases op with
  | startSession args => exact (final_startSession cfg kind args).map _
  | rotateRefresh token => exact (final_rotateRefresh cfg kind token).map _
  | endSession userId =>
      exact Silent.final (Async.Makes.bind (endSession_makes (harmless_silent kind) userId)
        fun _ => Async.Makes.pure _)

/-! ## §3  An id is written once -/

theorem Silent.resume {kind : Kind} {x : Task Result} (h : Silent kind x)
    (env : Environment) (o : Outcome) (r : Redis) :
    Silent kind (x.resume (answer env) o r).1 :=
  Async.Makes.resume h (fun _ _ => trivial) o

theorem Final.resume {kind : Kind} {x : Task Result} (h : Final kind x)
    (env : Environment) (o : Outcome) (r : Redis) :
    Final kind (x.resume (answer env) o r).1 := by
  cases x with
  | pure a => trivial
  | raise => trivial
  | call c next =>
      cases o with
      | returned => exact h.2 _
      | raised applied => exact h.2 none
      | killed applied => trivial

/-- The id that the step makes is another one. -/
theorem Quiet.resume {kind : Kind} {id : String} {x : Task Result}
    (h : Quiet kind id x) {env : Environment} (hid : id ∉ idsOf env x) (o : Outcome)
    (r : Redis) : Quiet kind id (x.resume (answer env) o r).1 := by
  refine Async.Makes.resume h ?_ o
  rintro c hc
  cases c with
  | newId =>
      refine ⟨?_, colon_notMem_newId env.bytes⟩
      rintro rfl
      exact hid (by simp [idsOf, hc, answer])
  | _ => trivial

/-- A program that waits to write the id is not quiet, and it is silent from then
on. -/
theorem writes_once {kind : Kind} {id : String} {x : Task Result} (hfinal : Final kind x)
    {key : String} (hkey : key ∈ writtenBy x) (hnames : kind.names id key)
    (env : Environment) (o : Outcome) (r : Redis) :
    ¬ Quiet kind id x ∧ Quiet kind id (x.resume (answer env) o r).1 := by
  cases x with
  | pure a => cases hkey
  | raise => cases hkey
  | call c next =>
      cases c with
      | setEx key' value ttl =>
          obtain rfl : key = key' := by simpa [writtenBy, Async.awaited] using hkey
          have hwrites : WritesId kind id (.setEx key value ttl) :=
            ⟨key, value, ttl, rfl, hnames⟩
          have hsilent := hfinal.1 ⟨id, hwrites⟩
          refine ⟨fun hquiet => hquiet.1 hwrites, ?_⟩
          cases o with
          | returned => exact (hsilent _).quiet id
          | raised applied => exact (hsilent none).quiet id
          | killed applied => trivial
      | _ => cases hkey

theorem writtenBy_length_le (x : Task Result) : (writtenBy x).length ≤ 1 := by
  unfold writtenBy
  split <;> simp

/-- An id that is made and not yet written may be written; one that is written
will not be written again. -/
theorem spends (kind : Kind) (id : String) {x : Task Result} (hfinal : Final kind x)
    (env : Environment) (o : Outcome) (r : Redis) :
    howMany (kind.names id) (if o.applied then writtenBy x else []) +
        howMany (fun y => ¬ Quiet kind id y) [(x.resume (answer env) o r).1] ≤
      howMany (fun y => ¬ Quiet kind id y) [x] + howMany (· = id) (idsOf env x) := by
  have hwritten : howMany (kind.names id) (if o.applied then writtenBy x else []) ≤
      howMany (kind.names id) (writtenBy x) := by
    split
    · exact le_rfl
    · exact Nat.zero_le _
  -- a task that uses the id up writes nothing in the same step
  by_cases hid : id ∈ idsOf env x
  · have hnothing : writtenBy x = [] := by
      unfold idsOf at hid
      unfold writtenBy
      split at hid
      · rename_i hawaited
        rw [hawaited]
      · cases hid
    obtain ⟨i, hi⟩ := List.getElem?_of_mem hid
    have hmade := howMany_pos (P := (· = id)) hi rfl
    have hnext := howMany_le_length (P := fun y => ¬ Quiet kind id y)
      [(x.resume (answer env) o r).1]
    have hkeys : howMany (kind.names id) (writtenBy x) = 0 := by
      rw [hnothing, howMany_nil]
    rw [List.length_singleton] at hnext
    omega
  by_cases hkey : ∃ key ∈ writtenBy x, kind.names id key
  · obtain ⟨key, hkey, hnames⟩ := hkey
    obtain ⟨hbefore, hafter⟩ := writes_once hfinal hkey hnames env o r
    have hlength := (howMany_le_length (P := kind.names id) _).trans (writtenBy_length_le x)
    simp only [howMany_cons, howMany_nil, hbefore, hafter, not_true, not_false_eq_true,
      if_true, if_false]
    omega
  · have hnone : howMany (kind.names id) (writtenBy x) = 0 :=
      howMany_eq_zero.mpr fun key hmem hnames => hkey ⟨key, hmem, hnames⟩
    have hquiet : howMany (fun y => ¬ Quiet kind id y) [(x.resume (answer env) o r).1] ≤
        howMany (fun y => ¬ Quiet kind id y) [x] := by
      by_cases hbefore : Quiet kind id x
      · have hafter := Quiet.resume hbefore hid o r
        simp [howMany_cons, hafter]
      · simp only [howMany_cons, howMany_nil, hbefore, not_false_eq_true, if_true]
        split <;> omega
    omega

/-- Every id has been written at most once, counting the program that still has
it to write, and only after it was made. -/
structure WrittenOnce (kind : Kind) (id : String) (s : Fleet) : Prop where
  final : ∀ t ∈ s.tasks, Final kind t.2
  once : howMany (kind.names id) s.written +
    howMany (fun t => ¬ Quiet kind id t.2) s.tasks ≤ howMany (· = id) s.ids
  unique : howMany (· = id) s.ids ≤ 1

theorem WrittenOnce.begin {cfg : Config} {kind : Kind} {id : String} {s : Fleet}
    (h : WrittenOnce kind id s) (hid : kind = .refresh → ':' ∉ id.toList)
    (op : Operation) :
    WrittenOnce kind id { s with tasks := s.tasks ++ [(op, op.program cfg)] } where
  final := by
    rintro t ht
    rcases List.mem_append.mp ht with ht | ht
    · exact h.final t ht
    · obtain rfl := List.mem_singleton.mp ht
      exact final_program cfg kind op
  once := by
    have hquiet := quiet_program cfg hid op
    have honce := h.once
    rw [howMany_append, howMany_cons, howMany_nil, if_neg (not_not.mpr hquiet)]
    exact honce
  unique := h.unique

theorem WrittenOnce.advance {kind : Kind} {id : String} {s : Fleet}
    (h : WrittenOnce kind id s) {i : ℕ} {op : Operation} {x : Task Result}
    (hi : s.tasks[i]? = some (op, x)) {env : Environment}
    (hadmits : admits s.ids env x = true) (o : Outcome) :
    WrittenOnce kind id (s.advance i o env op x) where
  final := by
    rintro t ht
    rcases List.mem_or_eq_of_mem_set ht with ht | rfl
    · exact h.final t ht
    · exact (h.final _ (List.mem_of_getElem? hi)).resume env o s.redis
  once := by
    have hspends := spends kind id (h.final _ (List.mem_of_getElem? hi)) env o s.redis
    have honce := h.once
    have hset := howMany_set (P := fun t => ¬ Quiet kind id t.2) hi
      (op, (x.resume (answer env) o s.redis).1)
    simp only [Fleet.advance, howMany_append, howMany_cons, howMany_nil] at hspends hset ⊢
    omega
  unique := by
    have hunique := h.unique
    rw [Fleet.advance, howMany_append]
    unfold idsOf
    split
    · rename_i hawaited
      -- an id that is drawn has not been drawn before
      have hnew : newId env.bytes ∉ s.ids := by
        simpa [admits, hawaited] using hadmits
      rw [howMany_cons, howMany_nil]
      split
      · rename_i heq
        have hnone : howMany (· = id) s.ids = 0 := by
          apply howMany_eq_zero.mpr
          rintro a ha rfl
          exact hnew (heq ▸ ha)
        omega
      · omega
    · exact hunique

theorem writtenOnce {cfg : Config} {s : Fleet} (hs : (fleetSystem cfg).Reachable s)
    (kind : Kind) {id : String} (hid : kind = .refresh → ':' ∉ id.toList) :
    WrittenOnce kind id s := by
  apply hs.invariant
  · rintro s rfl
    exact ⟨by rintro t ⟨⟩, le_rfl, Nat.zero_le _⟩
  · rintro s l s' hinv - hstep
    rcases step_cases hstep with ⟨op, -, rfl⟩ | ⟨i, o, env, op, x, -, hi, hadmits, rfl⟩ |
      ⟨d, -, rfl⟩
    · exact hinv.begin hid op
    · exact hinv.advance hi hadmits o
    · exact ⟨hinv.final, hinv.once, hinv.unique⟩

/-! ## §4  A key is taken away at most as often as it is written -/

/-- Whether there is an entry under the key, expired or not. -/
def entries (key : String) (r : Redis) : ℕ := if (r.store.lookup key).isSome then 1 else 0

theorem entries_le (key : String) (r : Redis) : entries key r ≤ 1 := by
  unfold entries
  split <;> omega

theorem consumes {f j : String} {x : Task Result} (hx : x.Makes PlainReply PlainCall)
    (env : Environment) (o : Outcome) (r : Redis) :
    howMany (· = refreshKey f j) (if o.applied then consumedBy r x else []) +
        entries (refreshKey f j) (x.resume (answer env) o r).2 ≤
      entries (refreshKey f j) r +
        howMany (· = refreshKey f j) (if o.applied then writtenBy x else []) := by
  by_cases happlied : o.applied = true
  swap
  · rcases Async.resume_world (answer env) o x r with hsame | ⟨c, -, hyes, -⟩
    · simp [happlied, hsame]
    · exact absurd hyes happlied
  rw [if_pos happlied, if_pos happlied]
  cases hc : x.awaited with
  | none =>
      rcases Async.resume_world (answer env) o x r with hsame | ⟨c, hc', -, -⟩
      · simp [consumedBy, writtenBy, hc, hsame]
      · cases hc.symm.trans hc'
  | some c =>
      have hcall := Async.Makes.of_awaited hx hc
      rw [Async.resume_applied hc happlied r]
      cases c with
      | set key value =>
          obtain ⟨u, session, rfl, -, -⟩ := hcall
          have hother : (answer env (.set (sessionKey u) value) r).2.store.lookup
              (refreshKey f j) = r.store.lookup (refreshKey f j) :=
            AList.lookup_insert_ne (refreshKey_ne_sessionKey f j u)
          simp [consumedBy, writtenBy, hc, entries, hother]
      | setEx key value ttl =>
          -- a write makes at most the one entry that it counts
          simp only [consumedBy, writtenBy, hc, howMany_nil, howMany_cons]
          by_cases hkey : key = refreshKey f j
          · have hone := entries_le (refreshKey f j) (answer env (.setEx key value ttl) r).2
            rw [if_pos hkey]
            omega
          · have hother : (answer env (.setEx key value ttl) r).2.store.lookup
                (refreshKey f j) = r.store.lookup (refreshKey f j) :=
              AList.lookup_insert_ne (Ne.symm hkey)
            simp [entries, hother, hkey]
      | del keys =>
          have hafter : (answer env (.del keys) r).2.store.lookup (refreshKey f j) =
              if refreshKey f j ∈ keys then none else r.store.lookup (refreshKey f j) :=
            TtlStore.lookup_removeAll keys r.store
          simp only [writtenBy, consumedBy, hc, howMany_nil, entries, hafter]
          split
          · -- a deletion of one key consumes the entry that it finds
            rename_i key hdel
            obtain rfl : keys = [key] := by simpa using hdel
            by_cases hkey : refreshKey f j = key
            · subst hkey
              by_cases hget : (r.get (refreshKey f j)).isSome = true
              · obtain ⟨value, hvalue⟩ := Option.isSome_iff_exists.mp hget
                obtain ⟨e, he, -⟩ := lookup_of_get hvalue
                simp [howMany_cons, hget, he]
              · simp [hget]
            · have hnot : howMany (· = refreshKey f j)
                  (if (r.get key).isSome then [key] else []) = 0 := by
                apply howMany_eq_zero.mpr
                rintro a ha rfl
                split at ha
                · exact hkey (List.mem_singleton.mp ha)
                · cases ha
              simp [hnot, hkey]
          · by_cases hmem : refreshKey f j ∈ keys <;> simp [hmem]
      | _ => simp [consumedBy, writtenBy, hc, answer]

theorem consumed_le_written {cfg : Config} {s : Fleet}
    (hs : (fleetSystem cfg).Reachable s) (f j : String) :
    howMany (· = refreshKey f j) s.consumed + entries (refreshKey f j) s.redis ≤
      howMany (· = refreshKey f j) s.written := by
  induction hs with
  | start hstart =>
      obtain rfl := hstart
      exact le_rfl
  | @step s s' l hr _ hstep ih =>
      rcases step_cases hstep with ⟨op, -, rfl⟩ | ⟨i, o, env, op, x, -, hi, -, rfl⟩ |
        ⟨d, -, rfl⟩
      · exact ih
      · have hx : x.Makes PlainReply PlainCall :=
          (sound hr).tasks _ (List.mem_of_getElem? hi)
        have hone := consumes (f := f) (j := j) hx env o s.redis
        simp only [Fleet.advance, howMany_append]
        omega
      · exact ih

/-! ## §5  Rotations that can still succeed -/

/-- Whatever the replies, the program will not return a new token. -/
def NeverOk (x : Task Result) : Prop :=
  x.Under (fun _ _ => True) fun result => ∀ r, result = .rotated r → r.isOk = false

theorem NeverOk.resume {x : Task Result} (h : NeverOk x) (env : Environment) (o : Outcome)
    (r : Redis) : NeverOk (x.resume (answer env) o r).1 :=
  Async.Under.resume h (fun _ => trivial) o

/-- A rotation of the token that has made its `DEL` and can still succeed. -/
def Winning (cfg : Config) (f j : String) (t : Operation × Task Result) : Prop :=
  ∃ token, t.1 = .rotateRefresh token ∧ splitToken token = some (f, j) ∧
    t.2 ≠ t.1.program cfg ∧ ¬ NeverOk t.2

theorem neverOk_burn (familyId : String) :
    NeverOk (do
      let r ← (do burnFamily familyId; pure (.failed .reused) : Task RefreshResult)
      pure (.rotated r)) := by
  apply Async.Under.bind (Q := fun r : RefreshResult => r.isOk = false)
  · exact Async.Under.bind (Async.under_true _) fun _ _ => rfl
  · rintro r hr r' ⟨⟩
    exact hr

/-- A rotation begins with the `DEL` and fails unless that finds something. -/
theorem rotate_program (cfg : Config) {token f j : String}
    (h : splitToken token = some (f, j)) :
    ∃ next, (Operation.rotateRefresh token).program cfg =
        .call (.del [refreshKey f j]) next ∧
      NeverOk (next none) ∧ NeverOk (next (some (0 : ℕ))) := by
  simp only [Operation.program, rotateRefresh, h]
  refine ⟨_, rfl, trivial, ?_⟩
  exact neverOk_burn f

/-- Only the `DEL` that finds the key makes a rotation a winning one. -/
theorem wins (cfg : Config) (f j : String) (op : Operation) (x : Task Result)
    (env : Environment) (o : Outcome) (r : Redis) :
    howMany (Winning cfg f j) [(op, (x.resume (answer env) o r).1)] ≤
      howMany (Winning cfg f j) [(op, x)] +
        howMany (· = refreshKey f j) (if o.applied then consumedBy r x else []) := by
  simp only [howMany_cons, howMany_nil]
  split
  swap
  · exact Nat.zero_le _
  rename_i hafter
  split
  · omega
  rename_i hbefore
  obtain ⟨token, hop, hsplit, -, hlive⟩ := hafter
  obtain rfl : op = .rotateRefresh token := hop
  have hx : x = (Operation.rotateRefresh token).program cfg := by
    by_contra hne
    exact hbefore ⟨token, rfl, hsplit, hne, fun hnever => hlive (hnever.resume env o r)⟩
  obtain ⟨next, hprogram, hnone, hzero⟩ := rotate_program cfg hsplit
  rw [hprogram] at hx
  subst hx
  cases o with
  | raised applied => exact absurd hnone hlive
  | killed applied => exact absurd trivial hlive
  | returned =>
      by_cases hget : (r.get (refreshKey f j)).isSome = true
      · simp [Outcome.applied, consumedBy, Async.awaited, hget, howMany_cons]
      · have hcount : (answer env (.del [refreshKey f j]) r).1 = (0 : ℕ) := by
          change ([refreshKey f j].dedup.filter fun key => (r.get key).isSome).length = 0
          simp [hget]
        change ¬ NeverOk (next (some (answer env (.del [refreshKey f j]) r).1)) at hlive
        rw [hcount] at hlive
        exact absurd hzero hlive

theorem winning_le_consumed {cfg : Config} {s : Fleet}
    (hs : (fleetSystem cfg).Reachable s) (f j : String) :
    howMany (Winning cfg f j) s.tasks ≤ howMany (· = refreshKey f j) s.consumed := by
  refine hs.invariant (P := fun s => howMany (Winning cfg f j) s.tasks ≤
    howMany (· = refreshKey f j) s.consumed) ?_ ?_
  · rintro s rfl
    exact le_rfl
  · rintro s l s' hle - hstep
    rcases step_cases hstep with ⟨op, -, rfl⟩ | ⟨i, o, env, op, x, -, hi, -, rfl⟩ |
      ⟨d, -, rfl⟩
    · have hnew : ¬ Winning cfg f j (op, op.program cfg) := by
        rintro ⟨token, -, -, hne, -⟩
        exact hne rfl
      rw [howMany_append, howMany_cons, howMany_nil, if_neg hnew]
      exact hle
    · have hone := wins cfg f j op x env o s.redis
      have hset := howMany_set (P := Winning cfg f j) hi
        (op, (x.resume (answer env) o s.redis).1)
      simp only [howMany_cons, howMany_nil] at hone
      simp only [Fleet.advance, howMany_append]
      omega
    · exact hle

/-! ## §6  One success for a token -/

/-- The `i`-th call is a rotation of the token and has returned a new one. -/
def Succeeded (s : Fleet) (i : ℕ) (f j : String) : Prop :=
  ∃ token session newToken, splitToken token = some (f, j) ∧
    s.tasks[i]? = some (.rotateRefresh token, .pure (.rotated (.ok session newToken)))

/-- The pair has been issued: its second half was made, and its key was written. -/
def Issued (s : Fleet) (f j : String) : Prop := j ∈ s.ids ∧ refreshKey f j ∈ s.written

theorem Succeeded.winning {s : Fleet} {i : ℕ} {f j : String} (h : Succeeded s i f j)
    (cfg : Config) : ∃ t, s.tasks[i]? = some t ∧ Winning cfg f j t := by
  obtain ⟨token, session, newToken, hsplit, hi⟩ := h
  refine ⟨_, hi, token, rfl, hsplit, ?_, ?_⟩
  · obtain ⟨next, hprogram, -⟩ := rotate_program cfg hsplit
    rw [hprogram]
    rintro ⟨⟩
  · intro hnever
    cases hnever _ rfl

theorem Succeeded.written {cfg : Config} {s : Fleet}
    (hs : (fleetSystem cfg).Reachable s) {i : ℕ} {f j : String} (h : Succeeded s i f j) :
    refreshKey f j ∈ s.written := by
  obtain ⟨t, hi, hwin⟩ := h.winning cfg
  have hpos := howMany_pos hi hwin
  have hconsumed := winning_le_consumed hs f j
  have hwritten := consumed_le_written hs f j
  by_contra hnot
  have hnone : howMany (· = refreshKey f j) s.written = 0 := by
    apply howMany_eq_zero.mpr
    rintro key hkey rfl
    exact hnot hkey
  omega

theorem Succeeded.plain {cfg : Config} {s : Fleet}
    (hs : (fleetSystem cfg).Reachable s) {i : ℕ} {f j : String} (h : Succeeded s i f j) :
    Plain j := by
  obtain ⟨value, hindex | htoken⟩ := (sound hs).written _ (h.written hs)
  · obtain ⟨g, u, -, hkey, -⟩ := hindex
    exact absurd hkey (refreshKey_ne_familyIndexKey f j g)
  · obtain ⟨g, k, hg, hk, hkey, -⟩ := htoken
    obtain ⟨-, rfl⟩ := eq_of_refreshKey hg hk hkey
    exact hk

/-- The pair of a rotation that succeeded was issued. -/
theorem Succeeded.issued {cfg : Config} {s : Fleet}
    (hs : (fleetSystem cfg).Reachable s) {i : ℕ} {f j : String} (h : Succeeded s i f j) :
    Issued s f j := by
  have hwritten := h.written hs
  refine ⟨?_, hwritten⟩
  have honce := writtenOnce hs .refresh fun _ => (h.plain hs).colon_notMem
  have hnames : 0 < howMany (Kind.refresh.names j) s.written := by
    obtain ⟨n, hn⟩ := List.getElem?_of_mem hwritten
    exact howMany_pos hn ⟨f, rfl⟩
  by_contra hnot
  have hnone : howMany (· = j) s.ids = 0 := by
    apply howMany_eq_zero.mpr
    rintro id hid rfl
    exact hnot hid
  have hle := honce.once
  omega

theorem Succeeded.unique {cfg : Config} {s : Fleet}
    (hs : (fleetSystem cfg).Reachable s) {i k : ℕ} {f j : String}
    (hi : Succeeded s i f j) (hk : Succeeded s k f j) : i = k := by
  obtain ⟨t, hti, hwin⟩ := hi.winning cfg
  obtain ⟨u, huk, hwin'⟩ := hk.winning cfg
  have hwritten : howMany (· = refreshKey f j) s.written ≤
      howMany (Kind.refresh.names j) s.written :=
    howMany_mono fun key _ hkey => ⟨f, hkey⟩
  have honce := writtenOnce hs .refresh fun _ => (hi.plain hs).colon_notMem
  have hle := honce.once
  have hunique := honce.unique
  have hconsumed := winning_le_consumed hs f j
  have hfound := consumed_le_written hs f j
  refine eq_of_howMany_le_one ?_ hti hwin huk hwin'
  omega

/-! ## §7  A login that has returned has written its index -/

/-- If the program returns a new session, the index of its family is among the keys
of `W` or it is written on the way. -/
def Announces : Task Result → (String → Prop) → Prop
  | .pure result, W => ∀ st, result = .started st → W (familyIndexKey st.familyId)
  | .raise, _ => True
  | .call c next, W =>
      Announces (next none) W ∧
        ∀ r, Announces (next (some r)) fun key => W key ∨ ∃ value ttl, c = .setEx key value ttl

theorem Announces.mono {x : Task Result} {W W' : String → Prop} (h : Announces x W)
    (hW : ∀ key, W key → W' key) : Announces x W' := by
  induction x generalizing W W' with
  | pure a => exact fun st hst => hW _ (h st hst)
  | raise => trivial
  | call c next ih =>
      refine ⟨ih none h.1 hW, ?_⟩
      intro r
      apply ih (some r) (h.2 r)
      rintro key (hkey | hset)
      · exact .inl (hW key hkey)
      · exact .inr hset

/-- A program that starts no session announces none. -/
theorem announces_of_under {x : Task Result} {W : String → Prop}
    (h : x.Under (fun _ _ => True) fun result => ∀ st, result ≠ .started st) :
    Announces x W := by
  induction x generalizing W with
  | pure a => exact fun st hst => absurd hst (h st)
  | raise => trivial
  | call c next ih => exact ⟨ih none h.1, fun r => ih (some r) (h.2 r trivial)⟩

theorem announces_program (cfg : Config) (op : Operation) (W : String → Prop) :
    Announces (op.program cfg) W := by
  cases op with
  | startSession args =>
      -- two ids, the clock, the record, then the index and the key of the token
      refine ⟨trivial, fun f => ⟨trivial, fun j => ⟨trivial, fun now => ⟨trivial, fun _ =>
        ⟨trivial, fun _ => ⟨trivial, fun _ => ?_⟩⟩⟩⟩⟩⟩
      rintro st ⟨⟩
      exact .inl (.inr ⟨_, _, rfl⟩)
  | rotateRefresh token =>
      apply announces_of_under
      apply Async.Under.bind (Async.under_true _)
      rintro r - st ⟨⟩
  | endSession userId =>
      apply announces_of_under
      apply Async.Under.bind (Async.under_true _)
      rintro r - st ⟨⟩

theorem Announces.resume {x : Task Result} {written : List String}
    (h : Announces x (· ∈ written)) (env : Environment) (o : Outcome) (r : Redis) :
    Announces (x.resume (answer env) o r).1
      (· ∈ written ++ if o.applied then writtenBy x else []) := by
  have hmono : ∀ key, key ∈ written →
      key ∈ written ++ if o.applied then writtenBy x else [] :=
    fun key hkey => List.mem_append_left _ hkey
  cases x with
  | pure a => exact h.mono hmono
  | raise => trivial
  | call c next =>
      cases o with
      | returned =>
          refine (h.2 (answer env c r).1).mono ?_
          rintro key (hkey | ⟨value, ttl, rfl⟩)
          · exact hmono key hkey
          · exact List.mem_append_right _ List.mem_cons_self
      | raised applied => exact h.1.mono hmono
      | killed applied => trivial

theorem announces {cfg : Config} {s : Fleet} (hs : (fleetSystem cfg).Reachable s) :
    ∀ t ∈ s.tasks, Announces t.2 (· ∈ s.written) := by
  refine hs.invariant (P := fun s => ∀ t ∈ s.tasks, Announces t.2 (· ∈ s.written)) ?_ ?_
  · rintro s rfl t ⟨⟩
  · rintro s l s' hinv - hstep
    rcases step_cases hstep with ⟨op, -, rfl⟩ | ⟨i, o, env, op, x, -, hi, -, rfl⟩ |
      ⟨d, -, rfl⟩
    · rintro t ht
      rcases List.mem_append.mp ht with ht | ht
      · exact hinv t ht
      · obtain rfl := List.mem_singleton.mp ht
        exact announces_program cfg op _
    · rintro t ht
      rcases List.mem_or_eq_of_mem_set ht with ht | rfl
      · exact (hinv t ht).mono fun key hkey => List.mem_append_left _ hkey
      · exact Announces.resume (hinv _ (List.mem_of_getElem? hi)) env o s.redis
    · exact hinv

/-! ## §8  A burnt family -/

/-- The reply to a `GET` of the key that finds nothing, or its failure. -/
def Unfound (key : String) : (c : Call) → Option c.Reply → Prop
  | .get key', (r : Option (Option Stored)) => key' = key ∧ (r = none ∨ r = some none)
  | _, _ => False

/-- Once the key is not found, whatever the program returns meets `Q`. -/
def Needs {α : Type} (key : String) (Q : α → Prop) : Task α → Prop
  | .pure _ => True
  | .raise => True
  | .call c next => ∀ r,
      (Unfound key c r → (next r).Under (fun _ _ => True) Q) ∧ Needs key Q (next r)

theorem Needs.of_under {α : Type} {key : String} {Q : α → Prop} {x : Task α}
    (h : x.Under (fun _ _ => True) Q) : Needs key Q x := by
  induction x with
  | pure a => trivial
  | raise => trivial
  | call c next ih =>
      intro r
      have hr : (next r).Under (fun _ _ => True) Q := by
        cases r with
        | none => exact h.1
        | some r => exact h.2 r trivial
      exact ⟨fun _ => hr, ih r hr⟩

/-- A call that is not a `GET` of the key. -/
theorem Needs.await_bind {α : Type} {key : String} {Q : α → Prop} {c : Call}
    {f : c.Reply → Task α} (hc : ∀ r, ¬ Unfound key c r) (hf : ∀ r, Needs key Q (f r)) :
    Needs key Q (Async.await c >>= f) := by
  rintro (_ | r)
  · exact ⟨fun hr => absurd hr (hc none), trivial⟩
  · exact ⟨fun hr => absurd hr (hc (some r)), hf r⟩

theorem Needs.map {α β : Type} {key : String} {Q : α → Prop} {R : β → Prop} {x : Task α}
    (h : Needs key Q x) {g : α → β} (hg : ∀ a, Q a → R (g a)) :
    Needs key R (x >>= fun a => pure (g a)) := by
  induction x with
  | pure a => trivial
  | raise => trivial
  | call c next ih =>
      intro r
      refine ⟨fun hr => ?_, ih r (h r).2⟩
      exact Async.Under.bind ((h r).1 hr) fun a ha => hg a ha

theorem afterConsume_needs (cfg : Config) (familyId oldJti : String) :
    Needs (familyIndexKey familyId) (fun r : RefreshResult => r.isOk = false)
      (afterConsume cfg familyId oldJti) := by
  have hburn : Needs (familyIndexKey familyId) (fun r : RefreshResult => r.isOk = false)
      (do burnFamily familyId; pure (.failed .reused)) :=
    Needs.of_under (Async.Under.bind (Async.under_true _) fun _ _ => rfl)
  have hsession : ∀ userId r,
      ¬ Unfound (familyIndexKey familyId) (.get (sessionKey userId)) r := by
    rintro userId r ⟨hkey, -⟩
    exact sessionKey_ne_familyIndexKey _ _ hkey
  rintro (_ | _ | session | userId)
  · exact ⟨fun _ => trivial, trivial⟩
  · exact ⟨fun _ => rfl, trivial⟩
  · exact ⟨fun _ => rfl, trivial⟩
  -- the index names a user
  refine ⟨?_, ?_⟩
  · rintro ⟨-, hr⟩
    rcases hr with hr | hr <;> cases hr
  change Needs _ _ (if userId = "" then _ else _)
  split
  · trivial
  · refine Needs.await_bind (hsession userId) fun value => ?_
    rcases value with _ | session | _
    · trivial
    · dsimp only
      split
      · exact hburn
      · -- no `GET` is left in `reissue`
        refine Needs.await_bind (fun _ h => h) fun j => ?_
        refine Needs.await_bind (fun _ h => h) fun now => ?_
        refine Needs.await_bind (fun _ h => h) fun _ => ?_
        exact Needs.await_bind (fun _ h => h) fun _ => trivial
    · exact hburn

theorem rotate_needs (cfg : Config) {token f j : String}
    (h : splitToken token = some (f, j)) :
    Needs (familyIndexKey f)
      (fun result => ∀ r : RefreshResult, result = .rotated r → r.isOk = false)
      ((Operation.rotateRefresh token).program cfg) := by
  have hrotate : Needs (familyIndexKey f) (fun r : RefreshResult => r.isOk = false)
      (rotateRefresh cfg token) := by
    simp only [rotateRefresh, h]
    refine Needs.await_bind (fun _ h => h) fun consumed => ?_
    split
    · exact Needs.of_under (Async.Under.bind (Async.under_true _) fun _ _ => rfl)
    · exact afterConsume_needs cfg f j
  apply hrotate.map
  rintro r hr r' ⟨⟩
  exact hr

theorem Needs.resume {key : String} {Q : Result → Prop} {x : Task Result}
    (h : Needs key Q x) (env : Environment) (o : Outcome) (r : Redis) :
    Needs key Q (x.resume (answer env) o r).1 := by
  cases x with
  | pure a => trivial
  | raise => trivial
  | call c next =>
      cases o with
      | returned => exact (h _).2
      | raised applied => exact (h none).2
      | killed applied => trivial

theorem needs {cfg : Config} {s : Fleet} (hs : (fleetSystem cfg).Reachable s)
    {token f j : String} (hsplit : splitToken token = some (f, j)) :
    ∀ x, (Operation.rotateRefresh token, x) ∈ s.tasks → Needs (familyIndexKey f)
      (fun result => ∀ r : RefreshResult, result = .rotated r → r.isOk = false) x := by
  refine hs.invariant (P := fun s => ∀ x, (Operation.rotateRefresh token, x) ∈ s.tasks →
    Needs (familyIndexKey f)
      (fun result => ∀ r : RefreshResult, result = .rotated r → r.isOk = false) x) ?_ ?_
  · rintro s rfl x ⟨⟩
  · rintro s l s' hinv - hstep
    rcases step_cases hstep with ⟨op, -, rfl⟩ | ⟨i, o, env, op, x, -, hi, -, rfl⟩ |
      ⟨d, -, rfl⟩
    · rintro x hx
      rcases List.mem_append.mp hx with hx | hx
      · exact hinv x hx
      · obtain ⟨rfl, rfl⟩ := Prod.mk.inj (List.mem_singleton.mp hx)
        exact rotate_needs cfg hsplit
    · rintro y hy
      rcases List.mem_or_eq_of_mem_set hy with hy | hy
      · exact hinv y hy
      · obtain ⟨rfl, rfl⟩ := Prod.mk.inj hy
        exact (hinv x (List.mem_of_getElem? hi)).resume env o s.redis
    · exact hinv

/-- The index was written once and is gone. -/
structure Burnt (cfg : Config) (f : String) (s : Fleet) : Prop where
  reachable : (fleetSystem cfg).Reachable s
  written : familyIndexKey f ∈ s.written
  gone : s.redis.store.lookup (familyIndexKey f) = none

/-- An index that has been written is not written again. -/
theorem not_writes_index {cfg : Config} {s : Fleet} (hs : (fleetSystem cfg).Reachable s)
    {f : String} (hwritten : familyIndexKey f ∈ s.written) {t : Operation × Task Result}
    (ht : t ∈ s.tasks) (value : Stored) (ttl : ℕ) :
    t.2.awaited ≠ some (.setEx (familyIndexKey f) value ttl) := by
  intro hawaited
  have honce : WrittenOnce .index f s := writtenOnce hs .index (by rintro ⟨⟩)
  obtain ⟨n, hn⟩ := List.getElem?_of_mem hwritten
  have hnames := howMany_pos (P := Kind.index.names f) hn rfl
  obtain ⟨m, hm⟩ := List.getElem?_of_mem ht
  have hloud : ¬ Quiet .index f t.2 := by
    intro hquiet
    exact Async.Makes.of_awaited hquiet hawaited ⟨_, value, ttl, rfl, rfl⟩
  have htasks := howMany_pos (P := fun t => ¬ Quiet .index f t.2) hm hloud
  have hle := honce.once
  have hunique := honce.unique
  omega

theorem Burnt.step {cfg : Config} {f : String} {s s' : Fleet} {l : Label}
    (h : Burnt cfg f s) (hstep : s.step cfg l = some s') : Burnt cfg f s' := by
  refine ⟨.step h.reachable trivial hstep, ?_, ?_⟩
  · rcases step_cases hstep with ⟨op, -, rfl⟩ | ⟨i, o, env, op, x, -, -, -, rfl⟩ |
      ⟨d, -, rfl⟩
    · exact h.written
    · exact List.mem_append_left _ h.written
    · exact h.written
  · rcases step_cases hstep with ⟨op, -, rfl⟩ | ⟨i, o, env, op, x, -, hi, -, rfl⟩ |
      ⟨d, -, rfl⟩
    · exact h.gone
    · have hx := List.mem_of_getElem? hi
      change (x.resume (answer env) o s.redis).2.store.lookup (familyIndexKey f) = none
      rcases Async.resume_world (answer env) o x s.redis with hsame | ⟨c, hc, -, heffect⟩
      · rw [hsame]
        exact h.gone
      · rw [heffect]
        by_contra hsome
        obtain ⟨e, he⟩ := Option.ne_none_iff_exists'.mp hsome
        rcases answer_lookup env c s.redis he with hbefore | rfl | ⟨ttl, rfl⟩
        · cases hbefore.symm.trans h.gone
        · obtain ⟨u, session, hkey, -, -⟩ :=
            Async.Makes.of_awaited ((sound h.reachable).tasks _ hx) hc
          exact familyIndexKey_ne_sessionKey _ _ hkey
        · exact not_writes_index h.reachable h.written hx e.value ttl hc
    · exact h.gone

/-- `startSession` has returned a session of the family. -/
def StartReturned (s : Fleet) (f : String) : Prop :=
  ∃ args st, (Operation.startSession args, .pure (.started st)) ∈ s.tasks ∧ st.familyId = f

/-- The `i`-th call awaits the first command of `burnFamily`. -/
def Burns (s : Fleet) (i : ℕ) (f : String) : Prop :=
  ∃ t, s.tasks[i]? = some t ∧ t.2.awaited = some (.del [familyIndexKey f])

/-- The `k`-th call is a rotation of a token of the family and awaits its index. -/
def ReadsIndex (s : Fleet) (k : ℕ) (f : String) : Prop :=
  ∃ token j x, splitToken token = some (f, j) ∧
    s.tasks[k]? = some (.rotateRefresh token, x) ∧
      x.awaited = some (.get (familyIndexKey f))

theorem advance_cases {cfg : Config} {s s' : Fleet} {i : ℕ} {o : Outcome}
    {env : Environment} (h : (fleetSystem cfg).step s (.advance i o env) = some s') :
    ∃ op x, s.tasks[i]? = some (op, x) ∧ s' = s.advance i o env op x := by
  have hstep : s.step cfg (.advance i o env) = some s' := h
  rcases step_cases hstep with ⟨op, hl, -⟩ | ⟨i', o', env', op, x, hl, hi, -, hs⟩ |
    ⟨d, hl, -⟩
  · cases hl
  · obtain ⟨rfl, rfl, rfl⟩ := Label.advance.inj hl
    exact ⟨op, x, hi, hs⟩
  · cases hl

theorem burnt_of_burns {cfg : Config} {s s' : Fleet} {i : ℕ} {f : String} {o : Outcome}
    {env : Environment} (hs : (fleetSystem cfg).Reachable s) (hstarted : StartReturned s f)
    (hburns : Burns s i f) (happlied : o.applied = true)
    (hstep : (fleetSystem cfg).step s (.advance i o env) = some s') : Burnt cfg f s' := by
  have hreach : (fleetSystem cfg).Reachable s' := .step hs trivial hstep
  obtain ⟨t, ht, hawaited⟩ := hburns
  obtain ⟨args, st, hmem, rfl⟩ := hstarted
  have hwritten : familyIndexKey st.familyId ∈ s.written := announces hs _ hmem st rfl
  obtain ⟨op, x, hi, rfl⟩ := advance_cases hstep
  obtain rfl : t = (op, x) := Option.some.inj (ht.symm.trans hi)
  refine ⟨hreach, List.mem_append_left _ hwritten, ?_⟩
  change (x.resume (answer env) o s.redis).2.store.lookup _ = none
  rw [Async.resume_applied hawaited happlied, answer, Redis.del, TtlStore.lookup_removeAll,
    if_pos List.mem_cons_self]

/-- A rotation that looks for a burnt index fails. -/
theorem Burnt.never_ok {cfg : Config} {f : String} {s s' : Fleet} (h : Burnt cfg f s)
    {k : ℕ} (hreads : ReadsIndex s k f) {o : Outcome} {env : Environment}
    (hstep : (fleetSystem cfg).step s (.advance k o env) = some s') :
    ∃ op x, s'.tasks[k]? = some (op, x) ∧ NeverOk x := by
  obtain ⟨token, j, x, hsplit, hk, hawaited⟩ := hreads
  have hneeds := needs h.reachable hsplit x (List.mem_of_getElem? hk)
  obtain ⟨op, y, hi, rfl⟩ := advance_cases hstep
  obtain ⟨rfl, rfl⟩ := Prod.mk.inj (Option.some.inj (hk.symm.trans hi))
  refine ⟨.rotateRefresh token, (x.resume (answer env) o s.redis).1, ?_, ?_⟩
  · exact List.getElem?_set_self (List.getElem?_eq_some_iff.mp hk).1
  cases x with
  | pure a => cases hawaited
  | raise => cases hawaited
  | call c next =>
      obtain rfl : c = .get (familyIndexKey f) := Option.some.inj hawaited
      cases o with
      | returned =>
          have hnone : (answer env (.get (familyIndexKey f)) s.redis).1 = none := by
            change TtlStore.get s.redis.clock (familyIndexKey f) s.redis.store = none
            rw [TtlStore.get, h.gone]
          exact (hneeds _).1 ⟨rfl, .inr (congrArg some hnone)⟩
      | raised applied => exact (hneeds none).1 ⟨rfl, .inl rfl⟩
      | killed applied => trivial

theorem never_ok_step {cfg : Config} {k : ℕ} {s s' : Fleet} {l : Label}
    (hstep : (fleetSystem cfg).step s l = some s')
    (h : ∃ op x, s.tasks[k]? = some (op, x) ∧ NeverOk x) :
    ∃ op x, s'.tasks[k]? = some (op, x) ∧ NeverOk x := by
  obtain ⟨op, x, hk, hnever⟩ := h
  have hlt := (List.getElem?_eq_some_iff.mp hk).1
  rcases step_cases hstep with ⟨op', -, rfl⟩ | ⟨i, o, env, op', y, -, hi, -, rfl⟩ |
    ⟨d, -, rfl⟩
  · exact ⟨op, x, (List.getElem?_append_left hlt).trans hk, hnever⟩
  · by_cases hik : i = k
    · subst hik
      obtain ⟨rfl, rfl⟩ := Prod.mk.inj (Option.some.inj (hk.symm.trans hi))
      exact ⟨op, _, List.getElem?_set_self hlt, hnever.resume env o s.redis⟩
    · exact ⟨op, x, (List.getElem?_set_ne hik).trans hk, hnever⟩
  · exact ⟨op, x, hk, hnever⟩

theorem burnt_family_fails {cfg : Config} {f : String} {s t u : Fleet}
    {as bs : List Label} {k : ℕ} {o : Outcome} {env : Environment}
    (h : Burnt cfg f s) (has : (fleetSystem cfg).run s as = some t)
    (hreads : ReadsIndex t k f)
    (hbs : (fleetSystem cfg).run t (.advance k o env :: bs) = some u) (j : String) :
    ¬ Succeeded u k f j := by
  have ht : Burnt cfg f t := System.run_keeps (fun s a s' hstep hp => hp.step hstep) has h
  obtain ⟨t', hstep, hbs⟩ := System.run_cons hbs
  obtain ⟨op, x, hk, hnever⟩ :=
    System.run_keeps (P := fun s => ∃ op x, s.tasks[k]? = some (op, x) ∧ NeverOk x)
      (fun s a s' hstep hp => never_ok_step hstep hp) hbs (ht.never_ok hreads hstep)
  rintro ⟨token, session, newToken, -, hsucceeded⟩
  obtain ⟨-, rfl⟩ := Prod.mk.inj (Option.some.inj (hk.symm.trans hsucceeded))
  cases hnever _ rfl

/-- A token makes at most one rotation succeed, and only if it was issued; and once
the index of a family whose login has returned is deleted by a burn, no rotation that
reads it from then on succeeds. -/
structure RacesSafe (cfg : Config) (s : Fleet) : Prop where
  once : ∀ i k f j, Succeeded s i f j → Succeeded s k f j → i = k
  issued : ∀ i f j, Succeeded s i f j → Issued s f j
  burnt : ∀ f, StartReturned s f → ∀ i o env s₁ as t k o' env' bs u,
    Burns s i f → o.applied = true →
    (fleetSystem cfg).step s (.advance i o env) = some s₁ →
    (fleetSystem cfg).run s₁ as = some t → ReadsIndex t k f →
    (fleetSystem cfg).run t (.advance k o' env' :: bs) = some u →
      ∀ j, ¬ Succeeded u k f j

/-- **Rotation is safe under races.** -/
theorem rotation_safe {cfg : Config} {s : Fleet} (hs : (fleetSystem cfg).Reachable s) :
    RacesSafe cfg s where
  once := fun _ _ _ _ hi hk => hi.unique hs hk
  issued := fun _ _ _ hi => hi.issued hs
  burnt := by
    intro f hstarted i o env s₁ as t k o' env' bs u hburns happlied hstep has hreads hbs
    exact burnt_family_fails (burnt_of_burns hs hstarted hburns happlied hstep) has hreads hbs

/-- A login, two rotations of its token side by side, and one of the new token after
the loser has burnt the family. -/
def raceLabels : List Label :=
  sampleLogin alice 0 0 ++
  [.begin (.rotateRefresh (sampleToken 0 1)), .begin (.rotateRefresh (sampleToken 0 1)),
    go 1 0, go 2 0, go 1 0, go 1 0, go 1 2, go 1 0, go 1 0, go 1 0, go 2 0, go 2 0,
    .begin (.rotateRefresh (sampleToken 0 2)), go 3 0, go 3 0]

theorem race_run :
    ((fleetSystem .default).run Fleet.start raceLabels).any (fun s =>
      s.tasks.map (fun t => t.2.result) ==
        [some (.started ⟨sampleToken 0 1, sampleId 0⟩),
          some (.rotated (.ok ⟨"alice", "acme", some "analyst", sampleId 0, sampleId 2,
            none, none, 0⟩ (sampleToken 0 2))),
          some (.rotated (.failed .reused)),
          some (.rotated (.failed .user_unknown))]) = true := by
  decide +kernel

theorem rotation_safe_race :
    ∃ s, (fleetSystem .default).run Fleet.start raceLabels = some s ∧
      s.tasks.map (fun t => t.2.result) =
        [some (.started ⟨sampleToken 0 1, sampleId 0⟩),
          some (.rotated (.ok ⟨"alice", "acme", some "analyst", sampleId 0, sampleId 2,
            none, none, 0⟩ (sampleToken 0 2))),
          some (.rotated (.failed .reused)),
          some (.rotated (.failed .user_unknown))] ∧
      RacesSafe .default s := by
  obtain ⟨s, hs, hresults⟩ := (Option.any_eq_true _ _).mp race_run
  exact ⟨s, hs, beq_iff_eq.mp hresults,
    rotation_safe (System.reached_of_run (.start rfl) hs)⟩

end AlertTriage.Auth
