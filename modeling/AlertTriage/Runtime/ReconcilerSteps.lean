import AlertTriage.Library.Transition
import AlertTriage.Runtime.Reconciliation

/-!
# The reconcilers, one Redis command at a time

`IngestReconciler.lean` runs `_process_one` to its end. Here a reconciler stands at a
`Point` of it, the command it awaits with the local variables it still needs, and any
number of reconcilers and ingest calls move in any order over one Redis. `Point.rest`
is the part of `_process_one` that a point has before it; one move performs the first
command of it (`Point.rest_next`), so an uninterrupted turn is `scanEntry`
(`scanEntry_is_run`).

A turn begins with the lease and ends with the release. What the reconcilers do to an
entry is kept in a history beside the world: when a publish started, when it failed,
and when the entry was given up.
-/

namespace AlertTriage

open Library

/-! ## §1  Points of `_process_one` -/

/-- The command that a reconciler awaits, while it holds the lease of one entry. -/
inductive Point where
  | reading
  | dropping
  | counting (payload : Json)
  | renewing (payload : Json) (attempts : ℕ)
  | checking (payload : Json) (attempts : ℕ)
  | publishing (payload : Json) (attempts : ℕ) (subject : Json)
  | marking
  | scheduling (attempts : ℕ) (retryAt : ℕ)
  | offering
  | cleaning
  | releasing (raised : Option PyExn)

/-- `_BACKOFF_SECONDS[min(attempts - 1, len(_BACKOFF_SECONDS) - 1)]`. -/
def backoffDelay (attempts : ℕ) : ℕ :=
  backoffSeconds.getD (min (attempts - 1) (backoffSeconds.length - 1)) 0

/-- The subject is looked up and the publish starts. -/
def startPublish (r : IngestReconciler) (payload : Json) (attempts : ℕ) : Point :=
  match r.publishSubjectFor payload with
  | .ok subject => .publishing payload attempts subject
  | .error e => .releasing (some e)

/-- What follows the look at the next-retry time. -/
def afterCheck (r : IngestReconciler) (payload : Json) (attempts now : ℕ) :
    Option RedisValue → Point
  | none => startPublish r payload attempts
  | some value =>
      match nextAfterTime value with
      | .error e => .releasing (some e)
      | .ok t => if now < t then .releasing none else startPublish r payload attempts

/-- Where a process goes on after the last attempt. -/
def Point.burial (r : IngestReconciler) : Point :=
  if r.hasDlq then .offering else .cleaning

/-- The awaited command and what the code does with the reply; nothing if the process
dies in it. Redis answers every command, though it refuses to count what is no
number. -/
def Point.next (r : IngestReconciler) (publish : PublishEnv) (dlq : Outcome)
    (alertId : String) : Point → World → Option Point × World
  | .reading, w =>
      match w.lookup (pendingKey alertId) with
      | none => (some (.releasing none), w)
      | some value =>
          if value.toText = "" then (some (.releasing none), w)
          else
            match Json.loads value.toText with
            | none => (some .dropping, w)
            | some payload => (some (.counting payload), w)
  | .dropping, w => (some (.releasing none), w.delete [pendingKey alertId])
  | .counting payload, w =>
      match redisIncr .returned (attemptsKey alertId) w with
      | (.ok n, w') => (some (.renewing payload n), w')
      | (.error _, w') => (some (.checking payload 1), w')
  | .renewing payload n, w =>
      (some (.checking payload n),
        w.expire (attemptsKey alertId) (r.maxAge * second))
  | .checking payload n, w =>
      (some (afterCheck r payload n w.now (w.lookup (nextAfterKey alertId))), w)
  | .publishing payload n subject, w =>
      match publishJson publish subject (.utf8 (Json.dumps pythonStyle payload))
          (some alertId) [] true w with
      | (.ok true, w') => (some .marking, w')
      | (.ok false, w') =>
          (some (.scheduling n (w'.now + backoffDelay n * second)), w')
      | (.error _, w') => (none, w')
  | .marking, w =>
      (some (.releasing none), w.afterMarkPublished r .returned alertId)
  | .scheduling n t, w =>
      (some (if backoffSeconds.length ≤ n then .burial r else .releasing none),
        w.setEx (nextAfterKey alertId) (.time t) (r.maxAge * second))
  | .offering, w =>
      (if dlq.kills then none else some .cleaning,
        if dlq.applied then
          w.record (.dlqTaken alertId "max_retries_exhausted" (dlq = .returned))
        else w)
  | .cleaning, w =>
      (some (.releasing none),
        w.delete [pendingKey alertId, attemptsKey alertId, nextAfterKey alertId])
  | .releasing raised, w => (some (.releasing raised), w)

/-! ## §2  What is left of `_process_one` -/

/-- Redis answers; NATS and the dead-letter publisher do as they like. -/
def ProcessEnv.smooth (publish : PublishEnv) (dlq : Outcome) : ProcessEnv where
  getEntry := .returned
  deleteCorrupt := .returned
  incr := .returned
  expire := .returned
  getNextAfter := .returned
  publish := publish
  markPublished := .returned
  setNextAfter := .returned
  dlq := dlq
  cleanup := .returned

section

variable (r : IngestReconciler) (publish : PublishEnv) (dlq : Outcome)
  (alertId : String)

/-- The look at the next-retry time, and the attempt if the entry is due. -/
def checkDue (payload : Json) (attempts : ℕ) : Io Unit := do
  let e := ProcessEnv.smooth publish dlq
  let nextAfter ← redisGet e.getNextAfter (nextAfterKey alertId)
  let w ← Run.get
  match nextAfter with
  | none => attemptPublish r e alertId payload attempts
  | some value => do
      let t ← Run.ofExcept (nextAfterTime value)
      if w.now < t then return ()
      else attemptPublish r e alertId payload attempts

/-- The publish of the attempt, and what its answer leads to. -/
def finishPublish (payload : Json) (attempts : ℕ) (subject : Json) : Io Unit := do
  let e := ProcessEnv.smooth publish dlq
  let ok ← publishJson e.publish subject (.utf8 (Json.dumps pythonStyle payload))
    (some alertId) [] true
  if ok then markPublished r e.markPublished alertId
  else
    let w ← Run.get
    redisSetEx e.setNextAfter (nextAfterKey alertId) r.maxAge
      (.time (w.now + backoffDelay attempts * second))
    if backoffSeconds.length ≤ attempts then
      moveToDlq r e alertId "max_retries_exhausted"
    else return ()

/-- What is left of `_process_one` at a point. -/
def Point.rest : Point → Io Unit
  | .reading => processOne r (.smooth publish dlq) alertId
  | .dropping => redisDelete .returned [pendingKey alertId]
  | .counting payload => do
      let n ← incrementAttempts r (.smooth publish dlq) alertId
      checkDue r publish dlq alertId payload n
  | .renewing payload n => do
      redisExpire .returned (attemptsKey alertId) r.maxAge
      checkDue r publish dlq alertId payload n
  | .checking payload n => checkDue r publish dlq alertId payload n
  | .publishing payload n subject =>
      finishPublish r publish dlq alertId payload n subject
  | .marking => markPublished r .returned alertId
  | .scheduling n t => do
      redisSetEx .returned (nextAfterKey alertId) r.maxAge (.time t)
      if backoffSeconds.length ≤ n then
        moveToDlq r (.smooth publish dlq) alertId "max_retries_exhausted"
      else return ()
  | .offering => moveToDlq { r with hasDlq := true } (.smooth publish dlq) alertId
      "max_retries_exhausted"
  | .cleaning => moveToDlq { r with hasDlq := false } (.smooth publish dlq) alertId
      "max_retries_exhausted"
  | .releasing none => return ()
  | .releasing (some e) => Run.throw e

variable {r publish dlq alertId}

theorem attemptPublish_eq (payload : Json) (attempts : ℕ) :
    attemptPublish r (.smooth publish dlq) alertId payload attempts =
      (Run.ofExcept (r.publishSubjectFor payload) >>= fun subject =>
        finishPublish r publish dlq alertId payload attempts subject) := rfl

/-- The publish that starts is what is left of the attempt. -/
theorem rest_startPublish (payload : Json) (attempts : ℕ) (w : World) :
    (startPublish r payload attempts).rest r publish dlq alertId w =
      attemptPublish r (.smooth publish dlq) alertId payload attempts w := by
  rw [attemptPublish_eq]
  unfold startPublish
  cases r.publishSubjectFor payload with
  | ok subject => rfl
  | error e => rfl

theorem rest_afterCheck (payload : Json) (attempts : ℕ) (w : World) :
    (afterCheck r payload attempts w.now (w.lookup (nextAfterKey alertId))).rest r
        publish dlq alertId w =
      checkDue r publish dlq alertId payload attempts w := by
  unfold checkDue
  simp only [ProcessEnv.smooth, Run.bind_apply, redisGet_apply, Run.get_apply]
  cases w.lookup (nextAfterKey alertId) with
  | none => exact rest_startPublish payload attempts w
  | some value =>
      simp only [afterCheck]
      cases nextAfterTime value with
      | error e => rfl
      | ok t =>
          simp only [Run.ofExcept, Run.bind_apply, Run.pure_apply]
          by_cases hlt : w.now < t
          · rw [if_pos hlt, if_pos hlt]
            rfl
          · rw [if_neg hlt, if_neg hlt, rest_startPublish]
            rfl

theorem startPublish_ok {payload subject : Json} {attempts : ℕ}
    (hsub : r.publishSubjectFor payload = .ok subject) :
    startPublish r payload attempts = .publishing payload attempts subject := by
  rw [startPublish, hsub]

/-- A due entry goes on to the subject. -/
theorem afterCheck_of_due {payload : Json} {attempts : ℕ} {w : World}
    (hdue : Due alertId w) :
    afterCheck r payload attempts w.now (w.lookup (nextAfterKey alertId)) =
      startPublish r payload attempts := by
  unfold afterCheck
  cases hl : w.lookup (nextAfterKey alertId) with
  | none => rfl
  | some value =>
      obtain ⟨t, ht, hle⟩ := hdue value hl
      simp only [ht, if_neg (Nat.not_lt.mpr hle)]

/-- A count that Redis answers, or refuses. -/
theorem incrementAttempts_smooth (w : World) :
    incrementAttempts r (.smooth publish dlq) alertId w =
      match redisIncr .returned (attemptsKey alertId) w with
      | (.ok n, w') => (.ok n, w'.expire (attemptsKey alertId) (r.maxAge * second))
      | (.error _, w') => (.ok 1, w') := by
  unfold incrementAttempts Run.tryExcept redisIncr
  simp only [Run.bind_apply, ProcessEnv.smooth]
  rcases w.lookup (attemptsKey alertId) with _ | s | n | t <;> rfl

theorem rest_burial (w : World) :
    (Point.burial r).rest r publish dlq alertId w =
      moveToDlq r (.smooth publish dlq) alertId "max_retries_exhausted" w := by
  unfold Point.burial
  split <;> rename_i h <;> simp only [Point.rest, moveToDlq, offerToDlq, h]

/-- **One command**: what is left of `_process_one` performs the awaited command and
goes on with what is left at the next point. -/
theorem Point.rest_next (p : Point) (w : World) :
    p.rest r publish dlq alertId w =
      match p.next r publish dlq alertId w with
      | (some q, w') => q.rest r publish dlq alertId w'
      | (none, w') => (.error .kill, w') := by
  cases p with
  | reading =>
      simp only [Point.rest, Point.next, processOne, ProcessEnv.smooth,
        Run.bind_apply, redisGet_apply]
      cases w.lookup (pendingKey alertId) with
      | none => rfl
      | some value =>
          simp only
          by_cases hempty : value.toText = ""
          · simp only [if_pos hempty]
          · simp only [if_neg hempty]
            cases Json.loads value.toText <;> rfl
  | dropping => rfl
  | counting payload =>
      simp only [Point.rest, Point.next, Run.bind_apply, incrementAttempts_smooth]
      rcases redisIncr .returned (attemptsKey alertId) w with ⟨_ | n, w'⟩ <;> rfl
  | renewing payload n => rfl
  | checking payload n => exact (rest_afterCheck payload n w).symm
  -- what the check decides is written out as the point that comes next
  | publishing payload n subject =>
      simp only [Point.rest, Point.next, finishPublish, ProcessEnv.smooth,
        Run.bind_apply, publishJson_spec]
      by_cases hdies : publish.diesJson subject w.conn = true
      · rw [if_pos hdies]
      · rw [if_neg hdies]
        cases publish.confirmsJson subject w.conn <;> rfl
  | marking =>
      simp only [Point.rest, Point.next, markPublished_spec]
      simp [Outcome.kills]
  | scheduling n t =>
      by_cases hlast : backoffSeconds.length ≤ n
      · simp only [Point.next, if_pos hlast, rest_burial]
        simp only [Point.rest, if_pos hlast, Run.bind_apply, redisSetEx, Run.call]
      · simp only [Point.next, Point.rest, if_neg hlast, Run.bind_apply, redisSetEx,
          Run.call]
  | offering =>
      cases dlq <;> rfl
  | cleaning => rfl
  | releasing raised => rfl

end

/-! ## §3  Any number of reconcilers -/

/-- A reconciler at work on an entry: since when it holds the lease. -/
structure Turn where
  alertId : String
  since : ℕ
  point : Point

/-- What is seen of the entries. -/
inductive EntryEvent where
  | written (alertId : String)
  | started (alertId : String) (time : ℕ)
  | failed (alertId : String) (time : ℕ)
  | buried (alertId : String)
deriving DecidableEq, Repr

/-- What one command shows of an entry. -/
def Point.shows (alertId : String) (now : ℕ) : Point → Point → List EntryEvent
  | .checking .., .publishing .. => [.started alertId now]
  | .publishing .., .scheduling .. => [.failed alertId now]
  | .scheduling .., .offering => [.buried alertId]
  | .scheduling .., .cleaning => [.buried alertId]
  | _, _ => []

/-- One Redis, the turns that the reconcilers are in, and the history of the entries,
newest first. -/
structure Fleet (ι : Type) where
  world : World
  turns : ι → Option Turn
  history : List EntryEvent

/-- What happens next: time passes, the ingest path writes an entry ahead or marks it
published, a reconciler tries for the lease of an entry that its scan has yielded, or
goes on with its turn over its own connection. -/
inductive FleetStep (ι : Type) where
  | tick (d : ℕ)
  | writeAhead (r : IngestReconciler) (alertId : String) (payload : Json)
  | markPublished (r : IngestReconciler) (alertId : String)
  | lease (i : ι) (alertId : String)
  | go (i : ι) (c : Connection) (publish : PublishEnv) (dlq : Outcome)

variable {ι : Type} [DecidableEq ι]

/-- The world after `_release_lease`. -/
def World.afterRelease (r : IngestReconciler) (alertId : String) (w : World) : World :=
  if w.lookup (leaseKey alertId) = some (.text r.owner) then
    w.delete [leaseKey alertId]
  else w

/-- A turn goes on. The release ends it, and so does the death of the process. -/
def Turn.go (r : IngestReconciler) (c : Connection) (publish : PublishEnv)
    (dlq : Outcome) (t : Turn) (w : World) : Option Turn × World × List EntryEvent :=
  match t.point with
  | .releasing _ => (none, w.afterRelease r t.alertId, [])
  | p =>
      match p.next r publish dlq t.alertId (w.setConn c) with
      | (some q, w') => (some { t with point := q }, w', p.shows t.alertId w.now q)
      | (none, w') => (none, w', [])

def fleetStep (cfg : ι → IngestReconciler) (s : Fleet ι) :
    FleetStep ι → Option (Fleet ι)
  | .tick d => some { s with world := s.world.advance d }
  | .writeAhead r alertId payload =>
      some
        { s with
          world := s.world.afterWriteAhead r .returned alertId payload
          history := if r.hasClient then .written alertId :: s.history else s.history }
  | .markPublished r alertId =>
      some { s with world := s.world.afterMarkPublished r .returned alertId }
  | .lease i alertId =>
      -- Redis refuses a lifetime of zero seconds
      if (cfg i).hasClient = true ∧ 0 < (cfg i).lease ∧ (s.turns i).isNone = true then
        some
          { s with
            world := s.world.setNxEx (leaseKey alertId) (.text (cfg i).owner)
              ((cfg i).lease * second)
            turns := if (s.world.lookup (leaseKey alertId)).isSome then s.turns
              else Function.update s.turns i (some ⟨alertId, s.world.now, .reading⟩) }
      else none
  | .go i c publish dlq =>
      match s.turns i with
      | none => none
      | some t =>
          let out := t.go (cfg i) c publish dlq s.world
          some
            { world := out.2.1
              turns := Function.update s.turns i out.1
              history := out.2.2 ++ s.history }

theorem turn_update {turns : ι → Option Turn} {i j : ι} {x : Option Turn} {u : Turn}
    (h : Function.update turns i x j = some u) :
    (j = i ∧ x = some u) ∨ (j ≠ i ∧ turns j = some u) := by
  by_cases hj : j = i
  · subst hj
    rw [Function.update_self] at h
    exact .inl ⟨rfl, h⟩
  · rw [Function.update_of_ne hj] at h
    exact .inr ⟨hj, h⟩

theorem fleetStep_go {cfg : ι → IngestReconciler} {s : Fleet ι} {i : ι} {t : Turn}
    (ht : s.turns i = some t) (c : Connection) (publish : PublishEnv) (dlq : Outcome) :
    fleetStep cfg s (.go i c publish dlq) =
      some
        ⟨(t.go (cfg i) c publish dlq s.world).2.1,
          Function.update s.turns i (t.go (cfg i) c publish dlq s.world).1,
          (t.go (cfg i) c publish dlq s.world).2.2 ++ s.history⟩ := by
  simp only [fleetStep, ht]

/-- Any content of Redis, no reconciler at work. -/
def fleetSystem (cfg : ι → IngestReconciler) : System (Fleet ι) (FleetStep ι) where
  start s := s.world.log = [] ∧ s.history = [] ∧ ∀ i, s.turns i = none
  step := fleetStep cfg

/-! ## §4  A turn without interruption -/

/-- The commands that are still to come before the release, at most. -/
def Point.rank : Point → ℕ
  | .reading => 9
  | .counting _ => 8
  | .renewing _ _ => 7
  | .checking _ _ => 6
  | .publishing _ _ _ => 5
  | .scheduling _ _ => 4
  | .offering => 3
  | .cleaning => 2
  | .marking => 1
  | .dropping => 1
  | .releasing _ => 0

theorem rank_startPublish (r : IngestReconciler) (payload : Json) (n : ℕ) :
    (startPublish r payload n).rank ≤ 5 := by
  unfold startPublish
  split <;> simp [Point.rank]

theorem rank_afterCheck (r : IngestReconciler) (payload : Json) (n now : ℕ)
    (value : Option RedisValue) : (afterCheck r payload n now value).rank ≤ 5 := by
  unfold afterCheck
  split
  · exact rank_startPublish r payload n
  split
  · simp [Point.rank]
  split
  · simp [Point.rank]
  · exact rank_startPublish r payload n

theorem Point.next_rank {r : IngestReconciler} {publish : PublishEnv} {dlq : Outcome}
    {alertId : String} {p q : Point} {w : World} (hp : 0 < p.rank)
    (h : (p.next r publish dlq alertId w).1 = some q) : q.rank < p.rank := by
  cases p with
  | reading =>
      simp only [Point.next] at h
      split at h
      · obtain rfl := Option.some.inj h
        simp [Point.rank]
      split at h
      · obtain rfl := Option.some.inj h
        simp [Point.rank]
      split at h <;> obtain rfl := Option.some.inj h <;> simp [Point.rank]
  | counting payload =>
      simp only [Point.next] at h
      split at h <;> obtain rfl := Option.some.inj h <;> simp [Point.rank]
  | checking payload n =>
      obtain rfl := Option.some.inj h
      exact Nat.lt_succ_of_le (rank_afterCheck r payload n _ _)
  | publishing payload n subject =>
      -- on to the mark or the schedule, which are nearer to the release
      simp only [Point.next, publishJson_spec] at h
      split at h
      · obtain rfl := Option.some.inj h
        simp [Point.rank]
      · obtain rfl := Option.some.inj h
        simp [Point.rank]
      · cases h
  | scheduling n t =>
      obtain rfl := Option.some.inj h
      unfold Point.burial
      split
      · split <;> simp [Point.rank]
      · simp [Point.rank]
  | offering =>
      simp only [Point.next] at h
      split at h
      · cases h
      · obtain rfl := Option.some.inj h
        simp [Point.rank]
  | releasing raised => simp [Point.rank] at hp
  | _ =>
      obtain rfl := Option.some.inj h
      simp [Point.rank]

/-- The point at which a computation leaves a turn. -/
def pointAfter : Except (Unwind PyExn) Unit → Option Point
  | .ok () => some (.releasing none)
  | .error (.exception e) => some (.releasing (some e))
  | .error .kill => none

/-- Some steps bring the fleet to the outcome of a computation of reconciler `i`. -/
def Finishes (cfg : ι → IngestReconciler) (i : ι) (alertId : String) (since : ℕ)
    (out : Except (Unwind PyExn) Unit × World) (s : Fleet ι) : Prop :=
  ∃ steps s', (fleetSystem cfg).run s steps = some s' ∧ s'.world = out.2 ∧
    s'.turns i = (pointAfter out.1).map fun q => ⟨alertId, since, q⟩

theorem Turn.go_of_rank (r : IngestReconciler) (publish : PublishEnv) (dlq : Outcome)
    {t : Turn} (w : World) (hp : 0 < t.point.rank) :
    t.go r w.conn publish dlq w =
      match t.point.next r publish dlq t.alertId w with
      | (some q, w') =>
          (some { t with point := q }, w', t.point.shows t.alertId w.now q)
      | (none, w') => (none, w', []) := by
  obtain ⟨alertId, since, p⟩ := t
  cases p with
  | releasing raised => simp [Point.rank] at hp
  | _ => rfl

/-- A turn that nobody interrupts comes to its release, or to the death of the
process, with what is left of `_process_one` done. -/
theorem turn_finishes (cfg : ι → IngestReconciler) (i : ι) (publish : PublishEnv)
    (dlq : Outcome) (alertId : String) (since : ℕ) (n : ℕ) :
    ∀ (p : Point) (s : Fleet ι), p.rank ≤ n →
      s.turns i = some ⟨alertId, since, p⟩ →
      Finishes cfg i alertId since (p.rest (cfg i) publish dlq alertId s.world) s := by
  have released (p : Point) (s : Fleet ι) (hp : p.rank = 0)
      (ht : s.turns i = some ⟨alertId, since, p⟩) :
      Finishes cfg i alertId since (p.rest (cfg i) publish dlq alertId s.world) s := by
    cases p with
    | releasing raised =>
        cases raised with
        | none => exact ⟨[], s, rfl, rfl, ht⟩
        | some e => exact ⟨[], s, rfl, rfl, ht⟩
    | _ => simp [Point.rank] at hp
  induction n with
  | zero => exact fun p s hp => released p s (Nat.le_zero.mp hp)
  | succ n ih =>
      intro p s hp ht
      rcases Nat.eq_zero_or_pos p.rank with h0 | hpos
      · exact released p s h0 ht
      -- the first command is one step of the fleet
      rw [Point.rest_next]
      have hgo := Turn.go_of_rank (t := ⟨alertId, since, p⟩) (cfg i) publish dlq s.world
        hpos
      have hrank (q : Point)
          (hq : (p.next (cfg i) publish dlq alertId s.world).1 = some q) :
          q.rank < p.rank := Point.next_rank hpos hq
      rcases hnext : p.next (cfg i) publish dlq alertId s.world with ⟨_ | q, w'⟩
      · simp only [hnext] at hgo
        refine ⟨[.go i s.world.conn publish dlq],
          ⟨w', Function.update s.turns i none, s.history⟩, ?_, rfl, ?_⟩
        · simp only [System.run, fleetSystem, fleetStep_go ht, hgo, List.nil_append]
        · exact Function.update_self ..
      · simp only [hnext] at hgo
        obtain ⟨steps, s', hrun, hworld, hturn⟩ := ih q
          ⟨w', Function.update s.turns i (some ⟨alertId, since, q⟩),
            p.shows alertId s.world.now q ++ s.history⟩
          (by
            have := hrank q (by rw [hnext])
            omega)
          (Function.update_self ..)
        refine ⟨.go i s.world.conn publish dlq :: steps, s', ?_, hworld, hturn⟩
        simp only [System.run, fleetSystem, fleetStep_go ht, hgo]
        exact hrun

theorem releaseLease_smooth (r : IngestReconciler) (alertId : String) (w : World) :
    releaseLease r .returned alertId w = (.ok (), w.afterRelease r alertId) := rfl

/-- The release ends a turn. -/
theorem release_run {cfg : ι → IngestReconciler} {s s' : Fleet ι}
    {steps : List (FleetStep ι)} {i : ι} {alertId : String} {since : ℕ}
    {raised : Option PyExn} (publish : PublishEnv) (dlq : Outcome)
    (hrun : (fleetSystem cfg).run s steps = some s')
    (ht : s'.turns i = some ⟨alertId, since, .releasing raised⟩) :
    (fleetSystem cfg).run s (steps ++ [.go i s'.world.conn publish dlq]) =
      some ⟨s'.world.afterRelease (cfg i) alertId, Function.update s'.turns i none,
        s'.history⟩ := by
  rw [System.run_append hrun]
  simp [System.run, fleetSystem, fleetStep_go ht, Turn.go]

/-- **An uninterrupted turn is the loop body of `run_once`**: the fleet has a run in
which one reconciler does to the world what `scanEntry` does, and rests again. -/
theorem scanEntry_is_run {cfg : ι → IngestReconciler} {i : ι} (wait : ℕ)
    (publish : PublishEnv) (dlq : Outcome) (alertId : String) (s : Fleet ι)
    (hclient : (cfg i).hasClient = true) (hlease : 0 < (cfg i).lease)
    (hidle : s.turns i = none) :
    ∃ steps s', (fleetSystem cfg).run s steps = some s' ∧
      s'.world = (scanEntry (cfg i) alertId
        ⟨wait, .returned, .smooth publish dlq, .returned⟩ s.world).2 ∧
      s'.turns i = none := by
  unfold scanEntry
  simp only [Run.bind_apply, Run.modify_apply, acquireLease, redisSetNxEx, Run.call]
  generalize hw : s.world.advance wait = w
  generalize hw2 : w.setNxEx (leaseKey alertId) (.text (cfg i).owner)
    ((cfg i).lease * second) = w2
  have hstart (turns : ι → Option Turn)
      (h : turns = if (w.lookup (leaseKey alertId)).isSome then s.turns
        else Function.update s.turns i (some ⟨alertId, w.now, .reading⟩)) :
      (fleetSystem cfg).run s [.tick wait, .lease i alertId] =
        some ⟨w2, turns, s.history⟩ := by
    simp [System.run, fleetSystem, fleetStep, hclient, hlease, hidle, hw, hw2, h]
  -- a lease that another holds ends the entry's turn before it begins
  by_cases hheld : (w.lookup (leaseKey alertId)).isSome = true
  · simp only [hheld]
    exact ⟨_, _, hstart s.turns (by rw [if_pos hheld]), rfl, hidle⟩
  have hfree := Bool.not_eq_true _ ▸ hheld
  simp only [hfree, Bool.not_false, if_true]
  obtain ⟨steps, s3, hrun, hworld, hturn⟩ := turn_finishes cfg i publish dlq alertId
    w.now 9 .reading
    ⟨w2, Function.update s.turns i (some ⟨alertId, w.now, .reading⟩), s.history⟩
    le_rfl (Function.update_self ..)
  have hrun3 := (System.run_append (hstart _ (by rw [if_neg hheld]))).trans hrun
  simp only [Point.rest] at hworld hturn
  unfold Run.tryFinally
  rcases hp : processOne (cfg i) (.smooth publish dlq) alertId w2 with ⟨(e | _) | u, w3⟩
  all_goals rw [hp] at hworld hturn
  · refine ⟨_, _, release_run publish dlq hrun3 hturn, ?_, Function.update_self ..⟩
    simp only [releaseLease_smooth, hworld]
  · exact ⟨_, s3, hrun3, hworld, hturn⟩
  · refine ⟨_, _, release_run publish dlq hrun3 hturn, ?_, Function.update_self ..⟩
    simp only [releaseLease_smooth, hworld]

/-! ## §5  What one command leaves alone -/

theorem leaseKey_ne_attemptsKey (a b : String) : leaseKey a ≠ attemptsKey b := by
  intro h
  have h' := congrArg (fun k => k.toList[14]?) h
  simp [leaseKey, attemptsKey, keyLease, keyAttempts] at h'

theorem leaseKey_ne_nextAfterKey (a b : String) : leaseKey a ≠ nextAfterKey b := by
  have h : nextAfterKey b = attemptsKey (b ++ ":next") := by
    rw [nextAfterKey, attemptsKey, String.append_assoc]
  rw [h]
  exact leaseKey_ne_attemptsKey a _

theorem leaseKey_injective {a b : String} (h : leaseKey a = leaseKey b) : a = b := by
  have h' := congrArg String.toList h
  simp only [leaseKey, String.toList_append] at h'
  exact String.toList_inj.mp (List.append_cancel_left h')

/-- The keys that the awaited command may write. -/
def Point.writes (alertId : String) : Point → List String
  | .dropping => [pendingKey alertId]
  | .counting _ => [attemptsKey alertId]
  | .renewing _ _ => [attemptsKey alertId]
  | .marking => [pendingKey alertId, leaseKey alertId, attemptsKey alertId]
  | .scheduling _ _ => [nextAfterKey alertId]
  | .cleaning => [pendingKey alertId, attemptsKey alertId, nextAfterKey alertId]
  | _ => []

theorem get_afterMarkPublished_of_notMem {r : IngestReconciler} {alertId k : String}
    {w : World} (hk : k ∉ [pendingKey alertId, leaseKey alertId, attemptsKey alertId])
    (t : ℕ) :
    (w.afterMarkPublished r .returned alertId).redis.get t k = w.redis.get t k := by
  unfold World.afterMarkPublished
  split
  · exact TtlStore.get_removeAll_of_notMem hk
  · rfl

theorem get_afterRelease_ne {r : IngestReconciler} {alertId k : String} {w : World}
    (hk : k ≠ leaseKey alertId) (t : ℕ) :
    (w.afterRelease r alertId).redis.get t k = w.redis.get t k := by
  unfold World.afterRelease
  split
  · exact TtlStore.get_removeAll_of_notMem (by simpa using hk)
  · rfl

theorem redisIncr_world (key : String) (w : World) :
    (redisIncr .returned key w).2 = w ∨
      ∃ value, (redisIncr .returned key w).2 = w.overwrite key value := by
  unfold redisIncr
  rcases w.lookup key with _ | s | n | t
  · exact .inr ⟨_, rfl⟩
  · exact .inl rfl
  · exact .inr ⟨_, rfl⟩
  · exact .inl rfl

section

variable {r : IngestReconciler} {publish : PublishEnv} {dlq : Outcome}
  {alertId : String} {p : Point} {w : World}

/-- The count goes on, or it was refused. -/
theorem next_counting (r : IngestReconciler) (publish : PublishEnv) (dlq : Outcome)
    (alertId : String) (w : World) (payload : Json) :
    ∃ w', (redisIncr .returned (attemptsKey alertId) w).2 = w' ∧
      (Point.next r publish dlq alertId (.counting payload) w).2 = w' := by
  refine ⟨_, rfl, ?_⟩
  simp only [Point.next]
  rcases redisIncr .returned (attemptsKey alertId) w with ⟨_ | n, w'⟩ <;> rfl

theorem next_publishing (payload subject : Json) (n : ℕ) :
    (Point.next r publish dlq alertId (.publishing payload n subject) w).2 =
      w.afterPublishJson publish subject (.utf8 (Json.dumps pythonStyle payload))
        (some alertId) [] true := by
  simp only [Point.next, publishJson_spec]
  split <;> rename_i h <;> exact (Prod.mk.inj h).2.symm

theorem afterPublishJson_redis (e : PublishEnv) (subject : Json) (payload : Body)
    (msgId : Option String) :
    (w.afterPublishJson e subject payload msgId [] true).redis = w.redis ∧
      (w.afterPublishJson e subject payload msgId [] true).now = w.now := by
  cases subject with
  | str s =>
      unfold World.afterPublishJson World.afterPublish
      dsimp only
      split <;> exact ⟨rfl, rfl⟩
  | _ => exact ⟨rfl, rfl⟩

/-- Time does not pass in a command. -/
theorem Point.next_now : (p.next r publish dlq alertId w).2.now = w.now := by
  cases p with
  | reading =>
      simp only [Point.next]
      repeat' split
      all_goals rfl
  | counting payload =>
      obtain ⟨w', hw, hnext⟩ := next_counting r publish dlq alertId w payload
      rw [hnext, ← hw]
      rcases redisIncr_world (attemptsKey alertId) w with h | ⟨value, h⟩ <;> rw [h]
      rfl
  | publishing payload n subject =>
      rw [next_publishing]
      exact (afterPublishJson_redis ..).2
  | marking =>
      simp only [Point.next, World.afterMarkPublished]
      split <;> rfl
  | offering =>
      simp only [Point.next]
      split <;> rfl
  | _ => rfl

/-- **Frame**: a command changes no key but those it writes. -/
theorem Point.next_get {k : String} (hk : k ∉ p.writes alertId) (t : ℕ) :
    (p.next r publish dlq alertId w).2.redis.get t k = w.redis.get t k := by
  cases p with
  | reading =>
      simp only [Point.next]
      repeat' split
      all_goals rfl
  | dropping => exact TtlStore.get_removeAll_of_notMem hk
  | counting payload =>
      obtain ⟨w', hw, hnext⟩ := next_counting r publish dlq alertId w payload
      rw [hnext, ← hw]
      rcases redisIncr_world (attemptsKey alertId) w with h | ⟨value, h⟩ <;> rw [h]
      exact TtlStore.get_overwrite_ne (by simpa [Point.writes] using hk)
  | renewing payload n =>
      exact TtlStore.get_expire_ne (by simpa [Point.writes] using hk)
  | publishing payload n subject => rw [next_publishing, (afterPublishJson_redis ..).1]
  | marking => exact get_afterMarkPublished_of_notMem hk t
  | scheduling n retryAt =>
      exact TtlStore.get_setEx_ne (by simpa [Point.writes] using hk)
  | offering =>
      simp only [Point.next]
      split <;> rfl
  | cleaning => exact TtlStore.get_removeAll_of_notMem hk
  | _ => rfl

/-- The turn has not come to its release. -/
def Point.Holds : Point → Prop
  | .releasing _ => False
  | _ => True

theorem Point.rank_pos (h : p.Holds) : 0 < p.rank := by
  cases p with
  | releasing raised => exact h.elim
  | _ => simp [Point.rank]

/-- **A turn goes on in one of three ways**: it is released, it performs a command,
or the process dies in one. -/
theorem Turn.go_cases (r : IngestReconciler) (publish : PublishEnv) (dlq : Outcome)
    (t : Turn) (c : Connection) (w : World) :
    (¬ t.point.Holds ∧
      t.go r c publish dlq w = (none, w.afterRelease r t.alertId, [])) ∨
    (t.point.Holds ∧ ∃ q,
      (t.point.next r publish dlq t.alertId (w.setConn c)).1 = some q ∧
      t.go r c publish dlq w =
        (some { t with point := q },
          (t.point.next r publish dlq t.alertId (w.setConn c)).2,
          t.point.shows t.alertId w.now q)) ∨
    (t.point.Holds ∧
      (t.point.next r publish dlq t.alertId (w.setConn c)).1 = none ∧
      t.go r c publish dlq w =
        (none, (t.point.next r publish dlq t.alertId (w.setConn c)).2, [])) := by
  by_cases hp : t.point.Holds
  · right
    have hgo := Turn.go_of_rank r publish dlq (w.setConn c) (Point.rank_pos hp)
    have hsame : t.go r (w.setConn c).conn publish dlq (w.setConn c) =
        t.go r c publish dlq w := by
      obtain ⟨alertId, since, p⟩ := t
      cases p with
      | releasing raised => exact hp.elim
      | _ => rfl
    rw [hsame] at hgo
    rcases hnext : t.point.next r publish dlq t.alertId (w.setConn c) with ⟨_ | q, w'⟩
    · rw [hnext] at hgo
      exact .inr ⟨hp, rfl, hgo⟩
    · rw [hnext] at hgo
      exact .inl ⟨hp, q, rfl, hgo⟩
  · left
    obtain ⟨alertId, since, p⟩ := t
    cases p with
    | releasing raised => exact ⟨hp, rfl⟩
    | _ => exact absurd trivial hp

/-- A turn stays with its entry. -/
theorem Turn.go_alertId {r : IngestReconciler} {publish : PublishEnv} {dlq : Outcome}
    {t u : Turn} {c : Connection} {w : World} (h : (t.go r c publish dlq w).1 = some u) :
    u.alertId = t.alertId := by
  rcases Turn.go_cases r publish dlq t c w with ⟨-, hgo⟩ | ⟨-, q, -, hgo⟩ | ⟨-, -, hgo⟩
  · rw [hgo] at h
    cases h
  · rw [hgo] at h
    obtain rfl := Option.some.inj h
    rfl
  · rw [hgo] at h
    cases h

end

end AlertTriage
