import AlertTriage.Library.RowLocks
import AlertTriage.Library.Transition
import AlertTriage.Runtime.SecretStore

/-!
# `PostgresSecretStore`, statement by statement

`SecretStore.lean` takes a rotation for one step. Here a call of the store is a program, and
its transactions take their statements one at a time, among those of any other calls of any
processes: a statement waits for the row that another has locked, and a connection may be lost
at every point, a commit with or without effect. Two calls that rotate an audience without a
row both find it missing, and the second `INSERT` fails.

The table is at every time that of whole operations one after the other. A rotation is among
them once at most, and once if the call returns; what a call reads is the table of some moment
since it came, for a rotation one after its own commit (`rotations_serialise`). Not the least
is that the bundle a rotation returns may be that of a later one.
-/

namespace AlertTriage.Postgres

open Library

/-! ## §1  The operations -/

/-- What a committed transaction did; `now` is the time at which it began. -/
inductive StoreOp where
  | seed (audience secret : String) (now : ℕ)
  | rotate (audience new : String) (now : ℕ)
deriving DecidableEq, Repr

def StoreOp.apply : StoreOp → SecretStore → SecretStore
  | .seed audience secret now => SecretStore.seed audience secret now
  | .rotate audience new now => SecretStore.rotate audience new now

/-- Operations with the calls they are of, oldest first. -/
abbrev StoreLog : Type := List (ℕ × StoreOp)

def replay (log : StoreLog) : SecretStore := log.foldl (fun store e => e.2.apply store) ∅

def statement (c : Statement String SecretRow) : Transaction String SecretRow c.Reply :=
  Async.await c

/-- The statements of an operation, which says at its end what it was. -/
def StoreOp.transaction : StoreOp → Transaction String SecretRow StoreOp
  | .seed audience secret now => do
      let () ← statement (.insertIfMissing audience ⟨secret, none, now⟩)
      return .seed audience secret now
  | .rotate audience new now => do
      let row : Option SecretRow ← statement (.selectForUpdate audience)
      let () ← match row with
        | none => statement (.insert audience ⟨new, none, now⟩)
        | some _ => statement (.update audience fun row => ⟨new, some row.current, now⟩)
      return .rotate audience new now

/-! ## §2  The calls -/

inductive PgCall where
  | createPool
  | createSchema
  | newSecret
  /-- The `INSERT … ON CONFLICT DO NOTHING`, a transaction of its own. -/
  | seed (audience secret : String)
  /-- `async with conn.transaction()`. -/
  | rotate (audience new : String)
  | select (audience : String)
  | listen
deriving DecidableEq, Repr

def PgCall.Reply : PgCall → Type
  | .newSecret => String
  | .select _ => Option SecretRow
  | _ => Unit

/-- The operation that a call runs as a transaction. -/
def PgCall.op (now : ℕ) : PgCall → Option StoreOp
  | .seed audience secret => some (.seed audience secret now)
  | .rotate audience new => some (.rotate audience new now)
  | _ => none

abbrev PgProgram : Type := Async PgCall PgCall.Reply (Option SecretBundle)

def request (c : PgCall) : Async PgCall PgCall.Reply c.Reply := Async.await c

/-- `get_bundle`; `hasPool`: `initialize` has created the pool. -/
def getBundle (hasPool : Bool) (audience : String) : PgProgram :=
  if hasPool then do
    let row : Option SecretRow ← request (.select audience)
    match row with
    | none => .raise
    | some row => return some ⟨audience, row.current, row.previous⟩
  else .raise

/-- `rotate`, with its transaction at hand. -/
def shift (audience new : String) : PgProgram := do
  let () ← request (.rotate audience new)
  getBundle true audience

def rotate (hasPool : Bool) (audience : String) : PgProgram :=
  if hasPool then do
    let new : String ← request .newSecret
    shift audience new
  else .raise

/-- The `for` loop of `initialize`, and the listener after it. -/
def seedAudiences (listens : Bool) : List String → PgProgram
  | [] =>
      if listens then do
        let () ← request .listen
        return none
      else return none
  | audience :: rest => do
      let secret : String ← request .newSecret
      let () ← request (.seed audience secret)
      seedAudiences listens rest

def initializeStore (seed : List String) (listens : Bool) : PgProgram := do
  let () ← request .createPool
  let () ← request .createSchema
  seedAudiences listens seed

inductive StoreCall where
  | initializeStore (seed : List String) (listens : Bool)
  | rotate (audience : String)
  | getBundle (audience : String)
deriving DecidableEq, Repr

def StoreCall.program (hasPool : Bool) : StoreCall → PgProgram
  | .initializeStore seed listens => Postgres.initializeStore seed listens
  | .rotate audience => Postgres.rotate hasPool audience
  | .getBundle audience => Postgres.getBundle hasPool audience

/-! ## §3  Callers over one database -/

abbrev SecretDb : Type := Database String SecretRow StoreOp

/-- A call under way, and how many operations were committed when it came. -/
structure Caller where
  call : StoreCall
  since : ℕ
  program : PgProgram

structure StoreSite where
  now : ℕ
  db : SecretDb
  callers : List Caller

def log (db : SecretDb) : StoreLog := db.committed.map fun c => (c.1, c.2.2)

/-- What the calls are answered that are no transactions. -/
def respond (secret : String) : Async.Handler PgCall PgCall.Reply SecretDb
  | .newSecret, db => (secret, db)
  | .select audience, db => (db.table.lookup audience, db)
  | .createPool, db => ((), db)
  | .createSchema, db => ((), db)
  | .seed _ _, db => ((), db)
  | .rotate _ _, db => ((), db)
  | .listen, db => ((), db)

/-- The awaited call has ended. -/
def Caller.goOn (o : Outcome) (secret : String) (db : SecretDb) (caller : Caller) : Caller :=
  { caller with program := (caller.program.resume (respond secret) o db).1 }

inductive StoreStep where
  | enter (hasPool : Bool) (call : StoreCall)
  /-- `BEGIN` of the transaction that the call awaits. -/
  | begin (i : ℕ)
  | execute (i : ℕ)
  /-- The transaction ends, by its commit or without effect. -/
  | settle (i : ℕ) (o : Outcome)
  /-- Any other call ends; `secret` is what `_new_secret` returns. -/
  | reply (i : ℕ) (o : Outcome) (secret : String)
  | pass (d : ℕ)

namespace StoreSite

def goOn (i : ℕ) (o : Outcome) (secret : String) (s : StoreSite) : StoreSite :=
  { s with callers := s.callers.modify i (Caller.goOn o secret s.db) }

/-- The call that a caller awaits. -/
def awaited (i : ℕ) (s : StoreSite) : Option PgCall :=
  s.callers[i]?.bind fun caller => caller.program.awaited

def step (s : StoreSite) : StoreStep → Option StoreSite
  | .enter hasPool call => some
      { s with callers := s.callers ++ [⟨call, (log s.db).length, call.program hasPool⟩] }
  | .begin i =>
      match (s.awaited i).bind (PgCall.op s.now), s.db.sessions i with
      | some op, none => some { s with db := s.db.begin i op.transaction }
      | _, _ => none
  | .execute i => (s.db.execute i).map fun db =>
      match db.sessions i with
      | some _ => { s with db := db }
      -- a statement that fails raises, and the transaction with it
      | none => { s with db := db }.goOn i (.raised false) ""
  | .settle i o =>
      if o.applied then (s.db.commit i).map fun db => { s with db := db }.goOn i o ""
      else (s.db.sessions i).map fun _ => { s with db := s.db.close i }.goOn i o ""
  | .reply i o secret =>
      match s.awaited i with
      | some c => if c.op s.now = none then some (s.goOn i o secret) else none
      | none => none
  | .pass d => some { s with now := s.now + d }

end StoreSite

def storeSystem : System StoreSite StoreStep where
  start s := s.db = .start ∅ ∧ s.callers = []
  step := StoreSite.step

/-! ## §4  An operation alone -/

theorem alone_statement {α : Type} (c : Statement String SecretRow)
    (next : c.Reply → Transaction String SecretRow α) (store : SecretStore) {row : Option SecretRow}
    (hrow : store.lookup c.key = row) {r : c.Reply} (hr : c.reply row = some r) :
    Transaction.alone (statement c >>= next) store =
      Transaction.alone (next r) (Table.put c.key (c.write row) store) := by
  change Transaction.alone (.call c _) store = _
  rw [Transaction.alone, hrow, hr]
  rfl

/-- The statements of an operation, with nobody in between, are the step of `SecretStore`. -/
theorem transaction_alone (op : StoreOp) (store : SecretStore) :
    Transaction.alone op.transaction store = some (op, op.apply store) := by
  cases op with
  | seed audience secret now =>
      cases hrow : store.lookup audience with
      | none =>
          rw [StoreOp.apply, SecretStore.seed, hrow]
          exact alone_statement (.insertIfMissing audience _) _ store hrow rfl
      | some row =>
          rw [StoreOp.apply, SecretStore.seed, hrow]
          exact alone_statement (.insertIfMissing audience _) _ store hrow rfl
  | rotate audience new now =>
      cases hrow : store.lookup audience with
      | none =>
          rw [StoreOp.apply, SecretStore.rotate, hrow]
          refine (alone_statement (.selectForUpdate audience) _ store hrow rfl).trans ?_
          exact alone_statement (.insert audience _) _ store hrow rfl
      | some row =>
          rw [StoreOp.apply, SecretStore.rotate, hrow]
          refine (alone_statement (.selectForUpdate audience) _ store hrow rfl).trans ?_
          exact alone_statement (.update audience _) _ store hrow rfl

/-- A transaction of the store inserts the row that it misses. -/
theorem transaction_settles (op : StoreOp) : op.transaction.Settles [] [] [] := by
  cases op with
  | seed audience secret now =>
      rintro row r - -
      cases row with
      | none => exact List.nil_subset _
      | some row => exact List.nil_subset _
  | rotate audience new now =>
      rintro row r hr -
      obtain rfl := Option.some.inj hr
      cases row with
      | none =>
          rintro row r hr -
          cases row with
          | none => exact List.Subset.refl _
          | some row => cases hr
      | some row =>
          rintro row r - hfound
          cases row with
          | none => exact absurd rfl (hfound List.mem_cons_self)
          | some row => exact List.nil_subset _

/-! ## §5  What a call has done so far -/

/-- The operations of one call. -/
def own (i : ℕ) (l : StoreLog) : List StoreOp := (l.filter (·.1 == i)).map Prod.snd

/-- A table that was there after that many operations or later has this bundle. -/
def ReadSince (l : StoreLog) (n : ℕ) (audience : String) (b : SecretBundle) : Prop :=
  ∃ seen, seen <+: l ∧ n ≤ seen.length ∧ (replay seen).getBundle audience = some b

/-- All operations of the call are one rotation with the secret of its own, which came after
that many others; `n` with it. -/
def Rotated (l : StoreLog) (i since n : ℕ) (audience : String) : Prop :=
  ∃ before new began, before ++ [(i, .rotate audience new began)] <+: l ∧
    since ≤ before.length ∧ n = before.length + 1 ∧ own i l = [.rotate audience new began]

/-- Where a call stands. -/
inductive Phase (l : StoreLog) (i since : ℕ) : StoreCall → PgProgram → Prop where
  | coming {audience : String} : own i l = [] → Phase l i since (.rotate audience) (rotate true audience)
  | shifting {audience new : String} : own i l = [] →
      Phase l i since (.rotate audience) (shift audience new)
  | shifted {audience : String} {n : ℕ} : Rotated l i since n audience →
      Phase l i since (.rotate audience) (getBundle true audience)
  | rotated {audience : String} {n : ℕ} {b : SecretBundle} : Rotated l i since n audience →
      ReadSince l n audience b → Phase l i since (.rotate audience) (pure (some b))
  | reading {audience : String} : since ≤ l.length →
      Phase l i since (.getBundle audience) (getBundle true audience)
  | read {audience : String} {b : SecretBundle} : ReadSince l since audience b →
      Phase l i since (.getBundle audience) (pure (some b))
  | connecting {seed : List String} {listens : Bool} :
      Phase l i since (.initializeStore seed listens) (initializeStore seed listens)
  | creating {seed : List String} {listens : Bool} :
      Phase l i since (.initializeStore seed listens) (do
        let () ← request .createSchema
        seedAudiences listens seed)
  | seeding {seed done rest : List String} {listens : Bool} : seed = done ++ rest →
      (∀ audience ∈ done, (replay l).lookup audience ≠ none) →
      Phase l i since (.initializeStore seed listens) (seedAudiences listens rest)
  | inserting {seed done rest : List String} {listens : Bool} {audience secret : String} :
      seed = done ++ audience :: rest →
      (∀ audience ∈ done, (replay l).lookup audience ≠ none) →
      Phase l i since (.initializeStore seed listens) (do
        let () ← request (.seed audience secret)
        seedAudiences listens rest)
  | ready {seed : List String} {listens : Bool} :
      (∀ audience ∈ seed, (replay l).lookup audience ≠ none) →
      Phase l i since (.initializeStore seed listens) (pure none)
  | failed {call : StoreCall} : (∀ audience, call = .rotate audience → (own i l).length ≤ 1) →
      Phase l i since call .raise

variable {l : StoreLog} {i j since n : ℕ} {call : StoreCall} {program : PgProgram} {db : SecretDb}
  {audience : String}

theorem replay_snoc (l : StoreLog) (i : ℕ) (op : StoreOp) :
    replay (l ++ [(i, op)]) = op.apply (replay l) := by
  rw [replay, List.foldl_append]
  rfl

theorem own_snoc (l : StoreLog) (op : StoreOp) : own i (l ++ [(i, op)]) = own i l ++ [op] := by
  simp [own]

theorem own_snoc_ne (h : j ≠ i) (l : StoreLog) (op : StoreOp) :
    own i (l ++ [(j, op)]) = own i l := by
  simp [own, h]

/-- No operation takes a row away. -/
theorem lookup_apply {op : StoreOp} {store : SecretStore} (h : store.lookup audience ≠ none) :
    (op.apply store).lookup audience ≠ none := by
  cases op with
  | seed other secret now =>
      by_cases ho : audience = other
      · rw [ho, StoreOp.apply, SecretStore.lookup_seed]
        exact Option.some_ne_none _
      · rwa [StoreOp.apply, SecretStore.lookup_seed_ne ho]
  | rotate other new now =>
      by_cases ho : audience = other
      · rw [ho, StoreOp.apply, SecretStore.lookup_rotate]
        exact Option.some_ne_none _
      · rwa [StoreOp.apply, SecretStore.lookup_rotate_ne ho]

theorem ReadSince.snoc {b : SecretBundle} (h : ReadSince l n audience b) (e : ℕ × StoreOp) :
    ReadSince (l ++ [e]) n audience b := by
  obtain ⟨seen, hseen, hlength, hb⟩ := h
  exact ⟨seen, hseen.trans (List.prefix_append _ _), hlength, hb⟩

theorem Rotated.snoc (h : Rotated l i since n audience) (hj : j ≠ i) (op : StoreOp) :
    Rotated (l ++ [(j, op)]) i since n audience := by
  obtain ⟨before, new, began, hbefore, hsince, hn, hown⟩ := h
  exact ⟨before, new, began, hbefore.trans (List.prefix_append _ _), hsince, hn,
    (own_snoc_ne hj l op).trans hown⟩

theorem Rotated.le_length (h : Rotated l i since n audience) : n ≤ l.length := by
  obtain ⟨before, new, began, hbefore, -, hn, -⟩ := h
  have hlength := hbefore.length_le
  rw [List.length_append, List.length_singleton] at hlength
  exact hn ▸ hlength

theorem Rotated.own_length (h : Rotated l i since n audience) : (own i l).length ≤ 1 := by
  obtain ⟨before, new, began, -, -, -, hown⟩ := h
  rw [hown]
  exact le_refl 1

/-- The operation of another call is committed. -/
theorem Phase.snoc (h : Phase l i since call program) (hj : j ≠ i) (op : StoreOp) :
    Phase (l ++ [(j, op)]) i since call program := by
  have hrows {done : List String} (hdone : ∀ audience ∈ done, (replay l).lookup audience ≠ none) :
      ∀ audience ∈ done, (replay (l ++ [(j, op)])).lookup audience ≠ none := by
    intro audience haudience
    rw [replay_snoc]
    exact lookup_apply (hdone audience haudience)
  cases h with
  | coming hown => exact .coming ((own_snoc_ne hj l op).trans hown)
  | shifting hown => exact .shifting ((own_snoc_ne hj l op).trans hown)
  | shifted hrotated => exact .shifted (hrotated.snoc hj op)
  | rotated hrotated hread => exact .rotated (hrotated.snoc hj op) (hread.snoc _)
  | reading hsince => exact .reading (hsince.trans (by simp))
  | read hread => exact .read (hread.snoc _)
  | connecting => exact .connecting
  | creating => exact .creating
  | seeding hseed hdone => exact .seeding hseed (hrows hdone)
  | inserting hseed hdone => exact .inserting hseed (hrows hdone)
  | ready hdone => exact .ready (hrows hdone)
  | failed hown =>
      refine .failed fun audience hcall => ?_
      rw [own_snoc_ne hj]
      exact hown audience hcall

theorem Phase.own_length (h : Phase l i since (.rotate audience) program) :
    (own i l).length ≤ 1 := by
  cases h with
  | coming hown => simp [hown]
  | shifting hown => simp [hown]
  | shifted hrotated => exact hrotated.own_length
  | rotated hrotated _ => exact hrotated.own_length
  | failed hown => exact hown audience rfl

/-- Whatever fails raises. -/
theorem Phase.fails (h : Phase l i since call program) : Phase l i since call .raise :=
  .failed fun audience hcall => by
    subst hcall
    exact h.own_length

/-- Nothing is caught. -/
theorem Phase.resume_failed (h : Phase l i since call program) {o : Outcome}
    (ho : o ≠ .returned) (secret : String) (db : SecretDb) :
    Phase l i since call (program.resume (respond secret) o db).1 := by
  have hraise : (program.resume (respond secret) o db).1 = .raise ∨
      (program.resume (respond secret) o db).1 = program := by
    cases o with
    | returned => exact absurd rfl ho
    | killed applied => cases program <;> simp [Async.resume]
    | raised applied =>
        cases h with
        | @seeding _ _ rest listens _ _ =>
            cases rest with
            | nil =>
                cases listens with
                | true => exact .inl rfl
                | false => exact .inr rfl
            | cons audience rest => exact .inl rfl
        | rotated | read | ready | failed => exact .inr rfl
        | _ => exact .inl rfl
  rcases hraise with hraise | hsame
  · rw [hraise]
    exact h.fails
  · rwa [hsame]

/-- `get_bundle` reads the table as it is. -/
theorem resume_getBundle (audience secret : String) (db : SecretDb) :
    ((getBundle true audience).resume (respond secret) .returned db).1 =
      match SecretStore.getBundle audience db.table with
      | some b => pure (some b)
      | none => .raise := by
  unfold SecretStore.getBundle
  change (match db.table.lookup audience with
    | none => .raise
    | some row => pure (some ⟨audience, row.current, row.previous⟩) : PgProgram) = _
  cases db.table.lookup audience with
  | none => rfl
  | some row => rfl

/-- A call that is no transaction has ended. -/
theorem Phase.reply (h : Phase l i since call program) (htable : db.table = replay l)
    {c : PgCall} (hc : program.awaited = some c) {now : ℕ} (hop : c.op now = none) (o : Outcome)
    (secret : String) :
    Phase l i since call (program.resume (respond secret) o db).1 := by
  by_cases ho : o = .returned
  · subst ho
    cases h with
    | coming hown => exact .shifting hown
    | shifted hrotated =>
        rw [resume_getBundle, htable]
        cases hbundle : SecretStore.getBundle _ (replay l) with
        | none => exact (Phase.shifted hrotated).fails
        | some b => exact .rotated hrotated ⟨l, List.prefix_refl l, hrotated.le_length, hbundle⟩
    | reading hsince =>
        rw [resume_getBundle, htable]
        cases hbundle : SecretStore.getBundle _ (replay l) with
        | none => exact (Phase.reading hsince).fails
        | some b => exact .read ⟨l, List.prefix_refl l, hsince, hbundle⟩
    | connecting => exact .creating
    | creating => exact .seeding (List.nil_append _).symm (by simp)
    | @seeding seed done rest listens hseed hdone =>
        cases rest with
        | nil =>
            rw [List.append_nil] at hseed
            subst hseed
            cases listens with
            | true => exact .ready hdone
            | false => exact .ready hdone
        | cons audience rest => exact .inserting hseed hdone
    | shifting hown =>
        obtain rfl := Option.some.inj hc
        cases hop
    | inserting hseed hdone =>
        obtain rfl := Option.some.inj hc
        cases hop
    | rotated | read | ready | failed => cases hc
  · exact h.resume_failed ho secret db

/-- The transaction that the call awaits is committed. -/
theorem Phase.committed (h : Phase l i since call program) (hsince : since ≤ l.length)
    {c : PgCall} (hc : program.awaited = some c) {began : ℕ} {op : StoreOp}
    (hop : c.op began = some op) (o : Outcome) (secret : String) (db : SecretDb) :
    Phase (l ++ [(i, op)]) i since call (program.resume (respond secret) o db).1 := by
  have hnext : Phase (l ++ [(i, op)]) i since call
      (program.resume (respond secret) .returned db).1 ∧ ∀ o, o ≠ .returned →
      Phase (l ++ [(i, op)]) i since call (program.resume (respond secret) o db).1 := by
    cases h with
    | @shifting audience new hown =>
        obtain rfl := Option.some.inj hc
        obtain rfl := Option.some.inj hop
        have hrotated : Rotated (l ++ [(i, .rotate audience new began)]) i since (l.length + 1)
            audience :=
          ⟨l, new, began, List.prefix_refl _, hsince, rfl, by rw [own_snoc, hown]; rfl⟩
        refine ⟨.shifted hrotated, fun o ho => ?_⟩
        cases o with
        | returned => exact absurd rfl ho
        | _ => exact (Phase.shifted hrotated).fails
    | @inserting seed done rest listens audience secret' hseed hdone =>
        obtain rfl := Option.some.inj hc
        obtain rfl := Option.some.inj hop
        have hseeded : ∀ a ∈ done ++ [audience],
            (replay (l ++ [(i, .seed audience secret' began)])).lookup a ≠ none := by
          intro a ha
          rw [replay_snoc]
          rcases List.mem_append.mp ha with hold | hnew
          · exact lookup_apply (hdone a hold)
          · rw [List.mem_singleton.mp hnew, StoreOp.apply, SecretStore.lookup_seed]
            exact Option.some_ne_none _
        have hphase : Phase (l ++ [(i, .seed audience secret' began)]) i since
            (.initializeStore seed listens) (seedAudiences listens rest) :=
          .seeding (by rw [hseed, List.append_assoc]; rfl) hseeded
        refine ⟨hphase, fun o ho => ?_⟩
        cases o with
        | returned => exact absurd rfl ho
        | _ => exact hphase.fails
    | @seeding _ _ rest listens _ _ =>
        cases rest with
        | nil =>
            cases listens with
            | true =>
                obtain rfl := Option.some.inj hc
                cases hop
            | false => cases hc
        | cons audience rest =>
            obtain rfl := Option.some.inj hc
            cases hop
    | rotated | read | ready | failed => cases hc
    | _ =>
        obtain rfl := Option.some.inj hc
        cases hop
  by_cases ho : o = .returned
  · subst ho
    exact hnext.1
  · exact hnext.2 o ho

/-! ## §6  Every interleaving -/

/-- What holds in every state of the system. -/
structure StoreSite.Inv (s : StoreSite) : Prop where
  db : Database.Inv ∅ s.db
  /-- A session runs the operation that its caller awaits. -/
  running : ∀ i x, s.db.sessions i = some x → ∃ c began op,
    s.awaited i = some c ∧ c.op began = some op ∧ x.origin = op.transaction
  committed : ∀ c ∈ s.db.committed, c.2.1 = c.2.2.transaction
  calls : ∀ e ∈ log s.db, e.1 < s.callers.length
  since : ∀ caller ∈ s.callers, caller.since ≤ (log s.db).length
  phases : ∀ i caller, s.callers[i]? = some caller →
    Phase (log s.db) i caller.since caller.call caller.program

/-- A serial execution of operations is their replay. -/
theorem serial_replay {done : List (ℕ × Transaction String SecretRow StoreOp × StoreOp)}
    {store : SecretStore} (h : Serial ∅ done store) (hdone : ∀ c ∈ done, c.2.1 = c.2.2.transaction) :
    store = replay (done.map fun c => (c.1, c.2.2)) := by
  induction h with
  | nil => rfl
  | @snoc done t' t'' i body op hserial halone ih =>
      have hbody : body = op.transaction :=
        hdone (i, body, op) (List.mem_append_right _ (List.mem_singleton_self _))
      rw [hbody, transaction_alone] at halone
      have htable : op.apply t' = t'' := (Prod.mk.inj (Option.some.inj halone)).2
      rw [List.map_append, List.map_singleton, replay_snoc, ← htable,
        ih fun c hc => hdone c (List.mem_append_left _ hc)]

theorem StoreSite.Inv.table {s : StoreSite} (h : s.Inv) : s.db.table = replay (log s.db) :=
  serial_replay h.db.serial h.committed

theorem op_eq_none {c : PgCall} {now began : ℕ} (h : c.op now = none) : c.op began = none := by
  cases c with
  | seed audience secret => cases h
  | rotate audience new => cases h
  | _ => rfl

theorem goOn_cases {s : StoreSite} {o : Outcome} {secret : String} {caller : Caller}
    (h : (s.goOn i o secret).callers[j]? = some caller) :
    j = i ∧ (∃ before, s.callers[j]? = some before ∧ caller = before.goOn o secret s.db) ∨
      j ≠ i ∧ s.callers[j]? = some caller := by
  rw [StoreSite.goOn, List.getElem?_modify] at h
  obtain ⟨before, hbefore, hcaller⟩ := Option.map_eq_some_iff.mp h
  by_cases hj : i = j
  · rw [if_pos hj] at hcaller
    exact .inl ⟨hj.symm, before, hbefore, hcaller.symm⟩
  · rw [if_neg hj] at hcaller
    exact .inr ⟨Ne.symm hj, hcaller ▸ hbefore⟩

theorem awaited_goOn {s : StoreSite} (hj : j ≠ i) (o : Outcome) (secret : String) :
    (s.goOn i o secret).awaited j = s.awaited j := by
  dsimp only [StoreSite.awaited, StoreSite.goOn]
  rw [List.getElem?_modify_ne _ _ hj.symm]

/-- The database has moved, and one caller goes on, without a session. -/
theorem StoreSite.Inv.goOn {s : StoreSite} (h : s.Inv) {db : SecretDb}
    (hdb : Database.Inv ∅ db) {o : Outcome} {secret : String}
    (hsessions : ∀ j x, db.sessions j = some x → j ≠ i ∧ s.db.sessions j = some x)
    (hcommitted : ∀ c ∈ db.committed, c.2.1 = c.2.2.transaction)
    (hcalls : ∀ e ∈ log db, e.1 < s.callers.length)
    (hlength : (log s.db).length ≤ (log db).length)
    (hphases : ∀ j caller, s.callers[j]? = some caller →
      (j = i → Phase (log db) j caller.since caller.call (caller.goOn o secret db).program) ∧
        (j ≠ i → Phase (log db) j caller.since caller.call caller.program)) :
    ({ s with db := db }.goOn i o secret).Inv where
  db := hdb
  running j x hx := by
    obtain ⟨hj, hold⟩ := hsessions j x hx
    obtain ⟨c, began, op, hc, hop⟩ := h.running j x hold
    exact ⟨c, began, op, (awaited_goOn hj o secret).trans hc, hop⟩
  committed := hcommitted
  calls e he := by
    rw [StoreSite.goOn, List.length_modify]
    exact hcalls e he
  since caller hcaller := by
    obtain ⟨j, hj⟩ := List.getElem?_of_mem hcaller
    rcases goOn_cases hj with ⟨-, before, hbefore, rfl⟩ | ⟨-, hbefore⟩
    · exact (h.since before (List.mem_of_getElem? hbefore)).trans hlength
    · exact (h.since caller (List.mem_of_getElem? hbefore)).trans hlength
  phases j caller hcaller := by
    rcases goOn_cases hcaller with ⟨hj, before, hbefore, rfl⟩ | ⟨hj, hbefore⟩
    · exact (hphases j before hbefore).1 hj
    · exact (hphases j caller hbefore).2 hj

/-- A call that has just come. -/
theorem Phase.of_program (hown : own i l = []) (hsince : since ≤ l.length) (hasPool : Bool)
    (call : StoreCall) : Phase l i since call (call.program hasPool) := by
  have hfails : Phase l i since call .raise := .failed fun _ _ => by simp [hown]
  cases call with
  | initializeStore seed listens => exact .connecting
  | rotate audience =>
      cases hasPool with
      | true => exact .coming hown
      | false => exact hfails
  | getBundle audience =>
      cases hasPool with
      | true => exact .reading hsince
      | false => exact hfails

theorem StoreSite.Inv.enter {s : StoreSite} (h : s.Inv) (hasPool : Bool) (call : StoreCall) :
    ({ s with callers := s.callers ++ [⟨call, (log s.db).length, call.program hasPool⟩] } :
      StoreSite).Inv where
  db := h.db
  running j x hx := by
    obtain ⟨c, began, op, hc, hop⟩ := h.running j x hx
    refine ⟨c, began, op, ?_, hop⟩
    obtain ⟨caller, hcaller, hawaited⟩ := Option.bind_eq_some_iff.mp hc
    have hj := (List.getElem?_eq_some_iff.mp hcaller).1
    exact Option.bind_eq_some_iff.mpr
      ⟨caller, (List.getElem?_append_left hj).trans hcaller, hawaited⟩
  committed := h.committed
  calls e he := by
    rw [List.length_append]
    exact Nat.lt_add_right _ (h.calls e he)
  since caller hcaller := by
    rcases List.mem_append.mp hcaller with hold | hnew
    · exact h.since caller hold
    · rw [List.mem_singleton.mp hnew]
  phases j caller hcaller := by
    rcases lt_or_ge j s.callers.length with hj | hj
    · exact h.phases j caller ((List.getElem?_append_left hj).symm.trans hcaller)
    · rw [List.getElem?_append_right hj] at hcaller
      obtain rfl := List.mem_singleton.mp (List.mem_of_getElem? hcaller)
      have hnone : own j (log s.db) = [] := by
        rw [own, List.map_eq_nil_iff, List.filter_eq_nil_iff]
        intro e he heq
        have hlt := h.calls e he
        rw [beq_iff_eq.mp heq] at hlt
        omega
      exact Phase.of_program hnone le_rfl hasPool call

theorem StoreSite.Inv.begin {s : StoreSite} (h : s.Inv) {c : PgCall} (hc : s.awaited i = some c)
    {op : StoreOp} (hop : c.op s.now = some op) :
    ({ s with db := s.db.begin i op.transaction } : StoreSite).Inv where
  db := h.db.begin (transaction_settles op)
  running j x hx := by
    rcases Database.sessions_update hx with ⟨rfl, hown⟩ | ⟨-, hold⟩
    · obtain rfl := Option.some.inj hown
      exact ⟨c, s.now, op, hc, hop, rfl⟩
    · exact h.running j x hold
  committed := h.committed
  calls := h.calls
  since := h.since
  phases := h.phases

/-- A statement has succeeded. -/
theorem StoreSite.Inv.proceed {s : StoreSite} (h : s.Inv)
    {x : Session String SecretRow StoreOp} (hx : s.db.sessions i = some x)
    {c : Statement String SecretRow} {row : Option SecretRow}
    {rest : Transaction String SecretRow StoreOp}
    (hdb : Database.Inv ∅ (s.db.proceed i x c row rest)) :
    ({ s with db := s.db.proceed i x c row rest } : StoreSite).Inv where
  db := hdb
  running j y hy := by
    rcases Database.sessions_update hy with ⟨rfl, hown⟩ | ⟨-, hold⟩
    · obtain rfl := Option.some.inj hown
      exact h.running j x hx
    · exact h.running j y hold
  committed := h.committed
  calls := h.calls
  since := h.since
  phases := h.phases

/-- The transaction has failed. -/
theorem StoreSite.Inv.abort {s : StoreSite} (h : s.Inv) {o : Outcome} (ho : o ≠ .returned) :
    ({ s with db := s.db.close i }.goOn i o "").Inv := by
  refine h.goOn h.db.close (fun j x hx => ?_) h.committed h.calls le_rfl fun j caller hcaller => ?_
  · rcases Database.sessions_update hx with ⟨-, hown⟩ | ⟨hj, hold⟩
    · cases hown
    · exact ⟨hj, hold⟩
  · exact ⟨fun _ => (h.phases j caller hcaller).resume_failed ho "" _,
      fun _ => h.phases j caller hcaller⟩

/-- The transaction is committed. -/
theorem StoreSite.Inv.commit {s : StoreSite} (h : s.Inv) {db : SecretDb}
    (hdb : s.db.commit i = some db) (o : Outcome) : ({ s with db := db }.goOn i o "").Inv := by
  have hinv := h.db.commit hdb
  obtain ⟨x, a, hx, hrest, rfl⟩ := Database.commit_cases hdb
  obtain ⟨c, began, op, hc, hop, horigin⟩ := h.running i x hx
  -- the transaction says what it did
  have halone := (h.db.sound i x hx).committed hrest
  rw [horigin, transaction_alone] at halone
  obtain rfl : op = a := (Prod.mk.inj (Option.some.inj halone)).1
  obtain ⟨caller, hcaller, hawaited⟩ := Option.bind_eq_some_iff.mp hc
  have hlog : log { s.db.close i with
      table := x.view s.db.table
      committed := s.db.committed ++ [(i, x.origin, op)] } = log s.db ++ [(i, op)] := by
    simp [log]
  refine h.goOn hinv (fun j y hy => ?_) ?_ ?_ ?_ fun j other hother => ?_
  · rcases Database.sessions_update hy with ⟨-, hown⟩ | ⟨hj, hold⟩
    · cases hown
    · exact ⟨hj, hold⟩
  · intro d hd
    rcases List.mem_append.mp hd with hold | hnew
    · exact h.committed d hold
    · rw [List.mem_singleton.mp hnew]
      exact horigin
  · rw [hlog]
    intro e he
    rcases List.mem_append.mp he with hold | hnew
    · exact h.calls e hold
    · rw [List.mem_singleton.mp hnew]
      exact (List.getElem?_eq_some_iff.mp hcaller).1
  · rw [hlog, List.length_append]
    exact Nat.le_add_right _ _
  · rw [hlog]
    constructor
    · rintro rfl
      obtain rfl := Option.some.inj (hcaller.symm.trans hother)
      exact (h.phases j caller hcaller).committed
        (h.since caller (List.mem_of_getElem? hcaller)) hawaited hop o "" _
    · intro hj
      exact (h.phases j other hother).snoc (Ne.symm hj) op

theorem StoreSite.Inv.reply {s : StoreSite} (h : s.Inv) {c : PgCall}
    (hc : s.awaited i = some c) (hop : c.op s.now = none) (o : Outcome) (secret : String) :
    (s.goOn i o secret).Inv := by
  obtain ⟨caller, hcaller, hawaited⟩ := Option.bind_eq_some_iff.mp hc
  refine h.goOn h.db (fun j x hx => ⟨?_, hx⟩) h.committed h.calls le_rfl fun j other hother => ?_
  · -- a caller with a session awaits its transaction
    rintro rfl
    obtain ⟨c', began, op, hc', hop', -⟩ := h.running j x hx
    obtain rfl := Option.some.inj (hc.symm.trans hc')
    cases (op_eq_none hop).symm.trans hop'
  · refine ⟨?_, fun _ => h.phases j other hother⟩
    rintro rfl
    obtain rfl := Option.some.inj (hcaller.symm.trans hother)
    exact (h.phases j caller hcaller).reply h.table hawaited hop o secret

theorem StoreSite.Inv.step {s s' : StoreSite} {a : StoreStep} (h : s.Inv)
    (hstep : s.step a = some s') : s'.Inv := by
  cases a with
  | enter hasPool call =>
      obtain rfl := Option.some.inj hstep
      exact h.enter hasPool call
  | begin i =>
      simp only [StoreSite.step] at hstep
      split at hstep
      · rename_i op hop hnone
        obtain rfl := Option.some.inj hstep
        obtain ⟨c, hc, hop⟩ := Option.bind_eq_some_iff.mp hop
        exact h.begin hc hop
      · cases hstep
  | execute i =>
      obtain ⟨db, hdb, rfl⟩ := Option.map_eq_some_iff.mp hstep
      have hinv := h.db.execute hdb
      obtain ⟨x, c, next, hx, hrest, ⟨row, r, -, -, -, rfl⟩ | ⟨-, rfl⟩⟩ :=
        Database.execute_cases hdb
      · have hsession : (s.db.proceed i x c row (next (some r))).sessions i =
            some (x.advance c row (next (some r))) := Function.update_self ..
        rw [hsession]
        exact h.proceed hx hinv
      · have hsession : (s.db.close i).sessions i = none := Function.update_self ..
        rw [hsession]
        exact h.abort (by simp)
  | settle i o =>
      simp only [StoreSite.step] at hstep
      split at hstep
      · obtain ⟨db, hdb, rfl⟩ := Option.map_eq_some_iff.mp hstep
        exact h.commit hdb o
      · rename_i happlied
        obtain ⟨x, -, rfl⟩ := Option.map_eq_some_iff.mp hstep
        refine h.abort ?_
        rintro rfl
        exact happlied rfl
  | reply i o secret =>
      simp only [StoreSite.step] at hstep
      split at hstep
      · rename_i c hc
        split at hstep
        · rename_i hop
          obtain rfl := Option.some.inj hstep
          exact h.reply hc hop o secret
        · cases hstep
      · cases hstep
  | pass d =>
      obtain rfl := Option.some.inj hstep
      exact ⟨h.db, h.running, h.committed, h.calls, h.since, h.phases⟩

/-- What a call says that has returned, and how often it has rotated. -/
structure Answered (l : StoreLog) (i : ℕ) (caller : Caller) : Prop where
  /-- One rotation at most; if the call returns, one, and the bundle of a table after it. -/
  rotate : ∀ audience, caller.call = .rotate audience → (own i l).length ≤ 1 ∧
    ∀ r, caller.program = pure r → ∃ n b, Rotated l i caller.since n audience ∧
      r = some b ∧ ReadSince l n audience b
  getBundle : ∀ audience r, caller.call = .getBundle audience → caller.program = pure r →
    ∃ b, r = some b ∧ ReadSince l caller.since audience b
  /-- All audiences have a row. -/
  initializeStore : ∀ seed listens r, caller.call = .initializeStore seed listens →
    caller.program = pure r → ∀ audience ∈ seed, (replay l).lookup audience ≠ none

/-- Where a program that has returned stands. -/
theorem Phase.returned {r : Option SecretBundle} (h : Phase l i since call (pure r)) :
    (∃ audience n b, call = .rotate audience ∧ r = some b ∧ Rotated l i since n audience ∧
        ReadSince l n audience b) ∨
      (∃ audience b, call = .getBundle audience ∧ r = some b ∧ ReadSince l since audience b) ∨
      ∃ seed listens, call = .initializeStore seed listens ∧
        ∀ audience ∈ seed, (replay l).lookup audience ≠ none := by
  generalize hp : (pure r : PgProgram) = program at h
  cases h with
  | @rotated audience n b hrotated hread =>
      exact .inl ⟨audience, n, b, rfl, Async.pure.inj hp, hrotated, hread⟩
  | @read audience b hread => exact .inr (.inl ⟨audience, b, rfl, Async.pure.inj hp, hread⟩)
  | @ready seed listens hdone => exact .inr (.inr ⟨seed, listens, rfl, hdone⟩)
  | @seeding seed done rest listens hseed hdone =>
      cases rest with
      | nil =>
          rw [List.append_nil] at hseed
          subst hseed
          exact .inr (.inr ⟨seed, listens, rfl, hdone⟩)
      | cons audience rest => cases hp
  | _ => cases hp

theorem Phase.answered {caller : Caller}
    (h : Phase l i caller.since caller.call caller.program) : Answered l i caller where
  rotate audience hcall := by
    rw [hcall] at h
    refine ⟨h.own_length, fun r hr => ?_⟩
    rw [hr] at h
    rcases h.returned with ⟨_, n, b, heq, hb, hrotated⟩ | ⟨_, _, heq, -⟩ | ⟨_, _, heq, -⟩
    · obtain rfl := StoreCall.rotate.inj heq
      exact ⟨n, b, hrotated.1, hb, hrotated.2⟩
    · cases heq
    · cases heq
  getBundle audience r hcall hr := by
    rw [hcall, hr] at h
    rcases h.returned with ⟨_, _, _, heq, -⟩ | ⟨_, b, heq, hb, hread⟩ | ⟨_, _, heq, -⟩
    · cases heq
    · obtain rfl := StoreCall.getBundle.inj heq
      exact ⟨b, hb, hread⟩
    · cases heq
  initializeStore seed listens r hcall hr := by
    rw [hcall, hr] at h
    rcases h.returned with ⟨_, _, _, heq, -⟩ | ⟨_, _, heq, -⟩ | ⟨_, _, heq, hdone⟩
    · cases heq
    · cases heq
    · obtain ⟨rfl, rfl⟩ := StoreCall.initializeStore.inj heq
      exact hdone

theorem StoreSite.Inv.of_start {s : StoreSite} (h : storeSystem.start s) : s.Inv := by
  obtain ⟨hdb, hcallers⟩ := h
  constructor
  · rw [hdb]
    exact Database.Inv.start
  · rw [hdb]
    exact fun _ _ hno => by cases hno
  · rw [hdb]
    exact fun _ hno => by cases hno
  · rw [hdb]
    exact fun _ hno => by cases hno
  · rw [hcallers]
    exact fun _ hno => by cases hno
  · rw [hcallers]
    exact fun _ _ hno => by cases hno

/-- **Rotations are serial**: however the statements of all calls interleave and whichever
connections are lost, the table is that of the committed operations, each a single step of
`SecretStore`, and every call that returns answers for a moment of that history. -/
theorem rotations_serialise {s : StoreSite} (h : storeSystem.Reachable s) :
    s.db.table = replay (log s.db) ∧
      ∀ i caller, s.callers[i]? = some caller → Answered (log s.db) i caller := by
  have hinv : s.Inv :=
    h.invariant (fun _ hs => .of_start hs) fun _ _ _ hs _ hstep => hs.step hstep
  exact ⟨hinv.table, fun i caller hcaller => (hinv.phases i caller hcaller).answered⟩

/-! ## §7  Two rotators -/

def emptySite : StoreSite := ⟨0, .start ∅, []⟩

/-- The second rotates between the commit of the first and its `get_bundle`. -/
def twoRotators : List StoreStep :=
  [.enter true (.rotate "worker"), .enter true (.rotate "worker"),
    .reply 0 .returned "k1", .reply 1 .returned "k2", .begin 0, .execute 0, .execute 0,
    .settle 0 .returned, .begin 1, .execute 1, .execute 1, .settle 1 .returned,
    .reply 0 .returned ""]

theorem rotations_serialise_two : ∃ s, storeSystem.run emptySite twoRotators = some s ∧
    s.db.table = replay (log s.db) ∧ (∃ caller, s.callers[0]? = some caller ∧
      caller.program = pure (some ⟨"worker", "k2", some "k1"⟩) ∧
        Answered (log s.db) 0 caller) := by
  have hrun : ∃ s, storeSystem.run emptySite twoRotators = some s ∧ ∃ caller,
      s.callers[0]? = some caller ∧
        caller.program = pure (some ⟨"worker", "k2", some "k1"⟩) :=
    ⟨_, rfl, _, rfl, rfl⟩
  obtain ⟨s, hs, caller, hcaller, hprogram⟩ := hrun
  have hserial := rotations_serialise (System.reached_of_run (.start ⟨rfl, rfl⟩) hs)
  exact ⟨s, hs, hserial.1, caller, hcaller, hprogram, hserial.2 0 caller hcaller⟩

end AlertTriage.Postgres
