import AlertTriage.Runtime.PhaseProtocol

/-!
# `services/_runtime/event_seq.py` over whole runs

An alert's events are numbered by Redis where `INCR` and `EXPIRE` both answer, and by
a counter of the process where one of them fails or there is no client. Nothing
carries a number from one counter to the other. The numbers of an alert increase
exactly as long as no call turns to a counter that is behind: to the other one than
the last number came from, or to that of Redis after the key has lapsed
(`seq_increasing_iff`).
-/

namespace AlertTriage

open Library

/-! ## §1  `current_seq` and the two counters -/

/-- `_local_peek`. -/
def World.localCount (alertId : String) (w : World) : ℕ :=
  (Json.lookup alertId w.localSeq).getD 0

/-- `int(raw) if raw else 0`. -/
def seqNumber : Option RedisValue → Except PyExn ℕ
  | none => .ok 0
  | some (.count n) => .ok n
  | some (.text s) =>
      if s = "" then .ok 0
      else
        match s.toNat? with
        | some n => .ok n
        | none => .error (.other "invalid literal for int() with base 10")
  | some (.time _) => .error (.other "invalid literal for int() with base 10")

/-- `EventSequencer.current_seq`. -/
def currentSeq (deps : WorkerDeps) (o : Outcome) (alertId : String) : Io ℕ :=
  if !deps.hasSeqClient then do
    let w ← Run.get
    return w.localCount alertId
  else
    Run.tryExcept
      (do
        let raw ← redisGet o (seqKey alertId)
        Run.ofExcept (seqNumber raw))
      (fun _ => return 0)

/-- Who counts. -/
inductive Counter where
  | redis
  | process
deriving DecidableEq, Repr

/-- The counter that a `next_seq` is served by. -/
def WorkerDeps.counter (deps : WorkerDeps) (e : PhaseEnv) : Counter :=
  if deps.hasSeqClient && e.counts then .redis else .process

/-- The counter that a `current_seq` reads. -/
def WorkerDeps.reader (deps : WorkerDeps) : Counter :=
  if deps.hasSeqClient then .redis else .process

def World.count (alertId : String) (w : World) : Counter → ℕ
  | .redis => w.counted alertId
  | .process => w.localCount alertId

/-! ## §2  Runs -/

/-- What a caller sees of one alert: a number given by a counter, or read. -/
inductive SeqEvent where
  | numbered (source : Counter) (n : ℕ)
  | read (n : ℕ)
deriving DecidableEq, Repr

/-- The world, what was seen of the alert, newest first, and whether the alert's key
has been in Redis ever since the last number. -/
structure SeqState where
  world : World
  history : List SeqEvent
  kept : Bool

/-- The steps around one alert: calls of the process for it and for others, other
workers that count its events, and time. -/
inductive SeqStep where
  | next (alertId : String) (e : PhaseEnv)
  | current (o : Outcome)
  | elsewhere (expires : Bool)
  | meanwhile (i : Interlude)
deriving DecidableEq, Repr

/-- One more event counted by another worker, whose `EXPIRE` may fail. -/
def World.numberedElsewhere (alertId : String) (expires : Bool) (w : World) : World :=
  if expires then w.numbered alertId
  else w.overwrite (seqKey alertId) (.count (w.counted alertId + 1))

/-- The read is the counter's: the call did not fall back to 0. -/
def WorkerDeps.answers (deps : WorkerDeps) (o : Outcome) : Bool :=
  !deps.hasSeqClient || decide (o = .returned)

/-- One step around the alert `a`. Nothing follows the end of the process. -/
def seqStep (deps : WorkerDeps) (a : String) (s : SeqState) :
    SeqStep → Option SeqState
  | .next id e =>
      match nextSeq deps e id s.world with
      | (.ok n, w) =>
          if id = a then some ⟨w, .numbered (deps.counter e) n :: s.history, true⟩
          else some { s with world := w }
      | (.error _, _) => none
  | .current o =>
      match currentSeq deps o a s.world with
      | (.ok n, w) =>
          if deps.answers o then some ⟨w, .read n :: s.history, s.kept⟩
          else some { s with world := w }
      | (.error _, _) => none
  | .elsewhere expires =>
      some { s with world := s.world.numberedElsewhere a expires }
  | .meanwhile i =>
      if i.spares (seqKey a) then
        let w := s.world.elapse i
        some { s with world := w, kept := s.kept && (w.lookup (seqKey a)).isSome }
      else none

/-- Runs around one alert: no event of it has been numbered by the process. -/
def seqSystem (deps : WorkerDeps) (a : String) : System SeqState SeqStep where
  start s := s.history = [] ∧ seqCounts a s.world = true
  step := seqStep deps a

/-- What may be seen after what: a number is above the numbers before it, and a read
not below them. -/
def Follows : SeqEvent → SeqEvent → Prop
  | .numbered _ n, .numbered _ m => m < n
  | .read n, .numbered _ m => m ≤ n
  | _, .read _ => True

instance : DecidableRel Follows
  | .numbered _ n, .numbered _ m => inferInstanceAs (Decidable (m < n))
  | .read n, .numbered _ m => inferInstanceAs (Decidable (m ≤ n))
  | .numbered _ _, .read _ => isTrue trivial
  | .read _, .read _ => isTrue trivial

/-- The numbers of the alert increase, and no read is below one. -/
def SeqState.Increasing (s : SeqState) : Prop := s.history.Pairwise Follows

instance (s : SeqState) : Decidable s.Increasing :=
  inferInstanceAs (Decidable (s.history.Pairwise Follows))

/-- The last number, and who gave it. -/
def lastNumber : List SeqEvent → Option (Counter × ℕ)
  | [] => none
  | .numbered c n :: _ => some (c, n)
  | .read _ :: rest => lastNumber rest

/-- The counter gave the last number, and has been kept since. -/
def SeqState.Goes (s : SeqState) (c d : Counter) : Prop :=
  d = c ∧ (c = .redis → s.kept = true)

instance (s : SeqState) (c d : Counter) : Decidable (s.Goes c d) :=
  inferInstanceAs (Decidable (_ ∧ _))

/-- A counter that did not give the last number, or that has lapsed since, is not
behind it. -/
def SeqState.NotBehind (a : String) (s : SeqState) (c : Counter) : Prop :=
  ∀ d n, lastNumber s.history = some (d, n) → ¬ s.Goes c d → n ≤ s.world.count a c

instance (a : String) (s : SeqState) (c : Counter) : Decidable (s.NotBehind a c) :=
  match hlast : lastNumber s.history with
  | none => isTrue (by simp [SeqState.NotBehind, hlast])
  | some (d, n) =>
      decidable_of_iff (¬ s.Goes c d → n ≤ s.world.count a c)
        (by simp [SeqState.NotBehind, hlast])

/-- The step turns to no counter that is behind, unless the process dies in it. -/
def CarriesOn (deps : WorkerDeps) (a : String) (s : SeqState) : SeqStep → Prop
  | .next id e =>
      id = a → e.seqDies deps a s.world = false → s.NotBehind a (deps.counter e)
  | .current o => deps.answers o = true → s.NotBehind a deps.reader
  | _ => True

instance (deps : WorkerDeps) (a : String) (s : SeqState) :
    (l : SeqStep) → Decidable (CarriesOn deps a s l)
  | .next id e =>
      inferInstanceAs (Decidable (id = a → e.seqDies deps a s.world = false →
        s.NotBehind a (deps.counter e)))
  | .current o =>
      inferInstanceAs (Decidable (deps.answers o = true → s.NotBehind a deps.reader))
  | .elsewhere _ => isTrue trivial
  | .meanwhile _ => isTrue trivial

/-! ## §3  What one call does -/

variable {deps : WorkerDeps} {e : PhaseEnv} {a id : String} {w w' : World}

/-- What `INCR` and `EXPIRE` on an alert's counter leave, however they end. -/
inductive Touched (id : String) (w : World) : World → Prop where
  | untouched : Touched id w w
  | incr (n : ℕ) : Touched id w (w.overwrite (seqKey id) (.count n))
  | expire (n ttl : ℕ) :
      Touched id w ((w.overwrite (seqKey id) (.count n)).expire (seqKey id) ttl)

theorem Touched.localSeq (h : Touched id w w') : w'.localSeq = w.localSeq := by
  cases h <;> rfl

theorem Touched.lookup (h : Touched id w w') (hne : id ≠ a) :
    w'.lookup (seqKey a) = w.lookup (seqKey a) := by
  have hkey : seqKey a ≠ seqKey id := fun hk => hne (seqKey_injective hk).symm
  cases h with
  | untouched => rfl
  | incr n => exact World.lookup_overwrite_ne hkey
  | expire n ttl =>
      exact (World.lookup_expire_ne hkey).trans (World.lookup_overwrite_ne hkey)

/-- `INCR` answers with the count that it writes, or it raises and may have written
one. -/
theorem redisIncr_cases (o : Outcome) (id : String) (w : World) :
    (∃ n, o = .returned ∧ redisIncr o (seqKey id) w =
        (.ok n, w.overwrite (seqKey id) (.count n))) ∨
      ∃ u w1, Touched id w w1 ∧ redisIncr o (seqKey id) w = (.error u, w1) := by
  have hcall (n : ℕ) : (∃ m, o = .returned ∧
      Run.call o redisError (World.overwrite (seqKey id) (.count n)) (fun _ => n) w =
        (.ok m, w.overwrite (seqKey id) (.count m))) ∨
      ∃ u w1, Touched id w w1 ∧
        Run.call o redisError (World.overwrite (seqKey id) (.count n)) (fun _ => n) w =
          (.error u, w1) := by
    rcases o with _ | b | b
    · exact .inl ⟨n, rfl, rfl⟩
    · cases b
      · exact .inr ⟨_, w, .untouched, rfl⟩
      · exact .inr ⟨_, _, .incr n, rfl⟩
    · cases b
      · exact .inr ⟨_, w, .untouched, rfl⟩
      · exact .inr ⟨_, _, .incr n, rfl⟩
  unfold redisIncr
  rcases w.lookup (seqKey id) with _ | s | m | t
  · exact hcall 1
  · cases o <;> exact .inr ⟨_, w, .untouched, rfl⟩
  · exact hcall (m + 1)
  · cases o <;> exact .inr ⟨_, w, .untouched, rfl⟩

/-- A call that returns was served by Redis, or by the process after whatever Redis
had taken. -/
theorem nextSeq_cases {n : ℕ} (h : nextSeq deps e id w = (.ok n, w')) :
    ∃ w1, Touched id w w1 ∧
      (deps.counter e = .redis ∧ w' = w1 ∨ localNext id w1 = (.ok n, w')) := by
  unfold nextSeq at h
  unfold WorkerDeps.counter PhaseEnv.counts
  cases hclient : deps.hasSeqClient with
  | false =>
      rw [hclient] at h
      exact ⟨w, .untouched, .inr h⟩
  | true =>
      rw [hclient, if_neg (by decide), Run.tryExcept, Run.bind_apply] at h
      rcases redisIncr_cases e.incr id w with ⟨m, hi, hincr⟩ | ⟨u, w1, ht, hincr⟩
      · rw [hincr] at h
        rw [hi]
        rcases he : e.expire with _ | b | b <;> rw [he] at h
        · simp only [Run.bind_apply, redisExpire, Run.call, Run.pure_apply,
            Prod.mk.injEq] at h
          exact ⟨_, .expire m _, .inl ⟨by simp, h.2.symm⟩⟩
        · cases b
          · exact ⟨_, .incr m, .inr h⟩
          · exact ⟨_, .expire m _, .inr h⟩
        · cases h
      · rw [hincr] at h
        rcases u with x | _
        · exact ⟨w1, ht, .inr h⟩
        · cases h

theorem counter_eq_redis_iff :
    deps.counter e = .redis ↔ deps.hasSeqClient = true ∧ e.counts = true := by
  rw [← Bool.and_eq_true]
  unfold WorkerDeps.counter
  split
  · exact iff_of_true rfl ‹_›
  · exact iff_of_false (by simp) ‹_›

/-- Both counters of the alert stand where they stood. -/
structure SameCounts (a : String) (w w' : World) : Prop where
  redis : w'.lookup (seqKey a) = w.lookup (seqKey a)
  process : w'.localCount a = w.localCount a

theorem SameCounts.counted (h : SameCounts a w w') : w'.counted a = w.counted a := by
  unfold World.counted
  rw [h.redis]

theorem SameCounts.seqCounts (h : SameCounts a w w') :
    seqCounts a w' = AlertTriage.seqCounts a w := by
  unfold AlertTriage.seqCounts
  rw [h.redis]

theorem SameCounts.count (h : SameCounts a w w') (c : Counter) :
    w'.count a c = w.count a c := by
  cases c with
  | redis => exact h.counted
  | process => exact h.process

/-- The numbers of another alert are counted elsewhere. -/
theorem nextSeq_other {n : ℕ} (h : nextSeq deps e id w = (.ok n, w')) (hne : id ≠ a) :
    SameCounts a w w' := by
  obtain ⟨w1, ht, ⟨-, rfl⟩ | hlocal⟩ := nextSeq_cases h
  · refine ⟨ht.lookup hne, ?_⟩
    unfold World.localCount
    rw [ht.localSeq]
  · obtain ⟨-, rfl⟩ := Prod.mk.inj hlocal
    refine ⟨ht.lookup hne, ?_⟩
    unfold World.localCount
    rw [Json.lookup_upsert_ne hne.symm, ht.localSeq]

/-- A number is the next one of the counter that serves the call. -/
theorem nextSeq_numbers {n : ℕ} (hc : seqCounts a w = true)
    (h : nextSeq deps e a w = (.ok n, w')) :
    n = w.count a (deps.counter e) + 1 ∧ w'.count a (deps.counter e) = n ∧
      seqCounts a w' = true := by
  have hkeep : seqCounts a w' = true := by
    have hk := (seqCounts_kept (fun _ => False) a true).nextSeq deps e a w hc
    rw [h] at hk
    exact hk
  by_cases hredis : deps.counter e = .redis
  · obtain ⟨hclient, hcounts⟩ := counter_eq_redis_iff.mp hredis
    rw [nextSeq_up hclient hcounts hc] at h
    obtain ⟨hn, rfl⟩ := Prod.mk.inj h
    obtain rfl := Except.ok.inj hn
    rw [hredis]
    exact ⟨rfl, counted_numbered a w, hkeep⟩
  · obtain ⟨w1, ht, ⟨hyes, -⟩ | hlocal⟩ := nextSeq_cases h
    · exact absurd hyes hredis
    · obtain ⟨hn, rfl⟩ := Prod.mk.inj hlocal
      have hprocess : deps.counter e = .process := by
        cases hcase : deps.counter e with
        | redis => exact absurd hcase hredis
        | process => rfl
      rw [ht.localSeq] at hn
      rw [hprocess]
      refine ⟨(Except.ok.inj hn).symm, ?_, hkeep⟩
      rw [← Except.ok.inj hn]
      show (Json.lookup a (Json.upsert a _ w1.localSeq)).getD 0 = _
      rw [Json.lookup_upsert, ht.localSeq]
      rfl

theorem seqNumber_of_counts (hc : seqCounts a w = true) :
    seqNumber (w.lookup (seqKey a)) = .ok (w.counted a) := by
  revert hc
  unfold seqCounts World.counted
  rcases w.lookup (seqKey a) with _ | s | n | t
  · exact fun _ => rfl
  · exact fun hc => by cases hc
  · exact fun _ => rfl
  · exact fun hc => by cases hc

/-- A read changes nothing, and tells what its counter says unless it failed. -/
theorem currentSeq_reads {o : Outcome} {n : ℕ} (hc : seqCounts a w = true)
    (h : currentSeq deps o a w = (.ok n, w')) :
    w' = w ∧ (deps.answers o = true → n = w.count a deps.reader) := by
  unfold currentSeq at h
  unfold WorkerDeps.answers WorkerDeps.reader
  cases hclient : deps.hasSeqClient with
  | false =>
      rw [hclient] at h
      obtain ⟨hn, rfl⟩ := Prod.mk.inj h
      exact ⟨rfl, fun _ => (Except.ok.inj hn).symm⟩
  | true =>
      rw [hclient, if_neg (by decide), Run.tryExcept, Run.bind_apply] at h
      rcases o with _ | b | b
      · simp only [redisGet, Run.call, seqNumber_of_counts hc, id] at h
        obtain ⟨hn, rfl⟩ := Prod.mk.inj h
        exact ⟨rfl, fun _ => (Except.ok.inj hn).symm⟩
      · obtain ⟨-, rfl⟩ := Prod.mk.inj h
        refine ⟨?_, fun hno => ?_⟩
        · cases b <;> rfl
        · simp at hno
      · cases h

/-! ## §4  What a run keeps -/

/-- The alert's key counts, and a counter that goes on is not behind the last
number. -/
structure SeqInv (a : String) (s : SeqState) : Prop where
  counts : seqCounts a s.world = true
  positive : ∀ d n, lastNumber s.history = some (d, n) → 0 < n
  goes : ∀ c d n, lastNumber s.history = some (d, n) → s.Goes c d →
    n ≤ s.world.count a c

variable {s s' : SeqState} {l : SeqStep}

/-- A world in which no counter of the alert has gone back. -/
theorem SeqInv.of_counts (h : SeqInv a s) (hc : seqCounts a w = true) {kept : Bool}
    (hle : ∀ c, s.world.count a c ≤ w.count a c)
    (hkept : kept = true → s.kept = true) :
    SeqInv a ⟨w, s.history, kept⟩ where
  counts := hc
  positive := h.positive
  goes c d n hlast hgoes :=
    (h.goes c d n hlast ⟨hgoes.1, fun hr => hkept (hgoes.2 hr)⟩).trans (hle c)

theorem SeqInv.next (h : SeqInv a s) {id : String}
    (hstep : seqStep deps a s (.next id e) = some s') : SeqInv a s' := by
  simp only [seqStep] at hstep
  rcases hn : nextSeq deps e id s.world with ⟨_ | n, w⟩
  · simp [hn] at hstep
  · rw [hn] at hstep
    dsimp only at hstep
    by_cases hid : id = a
    · subst hid
      obtain rfl := by simpa using hstep
      obtain ⟨hnum, hcount, hc⟩ := nextSeq_numbers h.counts hn
      refine ⟨hc, ?_, ?_⟩
      · rintro d m ⟨⟩
        omega
      · rintro c d m ⟨⟩ ⟨rfl, -⟩
        exact hcount.ge
    · obtain rfl := by simpa [hid] using hstep
      have hsame := nextSeq_other hn hid
      exact h.of_counts (hsame.seqCounts.trans h.counts) 
        (fun c => (hsame.count c).ge) fun hk => hk

theorem SeqInv.current (h : SeqInv a s) {o : Outcome}
    (hstep : seqStep deps a s (.current o) = some s') : SeqInv a s' := by
  unfold seqStep at hstep
  dsimp only at hstep
  rcases hn : currentSeq deps o a s.world with ⟨_ | n, w⟩
  · simp [hn] at hstep
  · rw [hn] at hstep
    dsimp only at hstep
    obtain ⟨rfl, -⟩ := currentSeq_reads h.counts hn
    split at hstep
    · obtain rfl := Option.some.inj hstep
      exact ⟨h.counts, h.positive, h.goes⟩
    · obtain rfl := Option.some.inj hstep
      exact h

theorem count_numberedElsewhere (expires : Bool) (c : Counter) :
    w.count a c ≤ (w.numberedElsewhere a expires).count a c := by
  cases c with
  | process => cases expires <;> exact le_rfl
  | redis =>
      have hover : (w.overwrite (seqKey a) (.count (w.counted a + 1))).lookup (seqKey a) =
          some (.count (w.counted a + 1)) := TtlStore.get_overwrite
      cases expires with
      | true => exact (Nat.le_succ _).trans (counted_numbered a w).ge
      | false =>
          show w.counted a ≤ (w.overwrite (seqKey a) (.count (w.counted a + 1))).counted a
          rw [World.counted.eq_def (w := w.overwrite _ _), hover]
          exact Nat.le_succ _

theorem SeqInv.elsewhere (h : SeqInv a s) (expires : Bool) :
    SeqInv a { s with world := s.world.numberedElsewhere a expires } := by
  refine h.of_counts ?_ (count_numberedElsewhere expires) fun hk => hk
  cases expires with
  | true => exact seqCounts_numbered a s.world
  | false =>
      have hover : (s.world.overwrite (seqKey a) (.count (s.world.counted a + 1))).lookup
          (seqKey a) = some (.count (s.world.counted a + 1)) := TtlStore.get_overwrite
      show seqCounts a (s.world.overwrite (seqKey a) (.count (s.world.counted a + 1))) = true
      unfold seqCounts
      rw [hover]

/-- Time takes a counter away or leaves it. -/
theorem lookup_elapse {i : Interlude} (hi : i.spares (seqKey a) = true) (w : World) :
    (w.elapse i).lookup (seqKey a) = none ∨
      (w.elapse i).lookup (seqKey a) = w.lookup (seqKey a) := by
  have hget : (w.elapse i).lookup (seqKey a) =
      w.redis.get (w.now + i.delay) (seqKey a) := World.get_elapse hi _ w
  cases hl : w.redis.get (w.now + i.delay) (seqKey a) with
  | none => exact .inl (hget.trans hl)
  | some value =>
      right
      rw [hget, hl]
      exact (TtlStore.get_of_later (Nat.le_add_right _ _) hl).symm

theorem SeqInv.meanwhile (h : SeqInv a s) {i : Interlude}
    (hi : i.spares (seqKey a) = true) :
    SeqInv a ⟨s.world.elapse i, s.history,
      s.kept && ((s.world.elapse i).lookup (seqKey a)).isSome⟩ := by
  rcases lookup_elapse hi s.world with hnone | hsame
  · refine ⟨by simp [seqCounts, hnone], h.positive, ?_⟩
    rintro c d n hlast ⟨rfl, hkept⟩
    cases d with
    | redis => simp [hnone] at hkept
    | process => exact h.goes .process .process n hlast ⟨rfl, fun hr => by cases hr⟩
  · have hcounts : SameCounts a s.world (s.world.elapse i) := ⟨hsame, rfl⟩
    refine h.of_counts (hcounts.seqCounts.trans h.counts) (fun c => (hcounts.count c).ge) ?_
    intro hk
    exact (Bool.and_eq_true _ _ ▸ hk).1

theorem SeqInv.step (h : SeqInv a s) (hstep : seqStep deps a s l = some s') :
    SeqInv a s' := by
  cases l with
  | next id e => exact h.next hstep
  | current o => exact h.current hstep
  | elsewhere expires =>
      obtain rfl := Option.some.inj hstep
      exact h.elsewhere expires
  | meanwhile i =>
      simp only [seqStep] at hstep
      split at hstep
      · obtain rfl := Option.some.inj hstep
        exact h.meanwhile ‹_›
      · cases hstep

/-! ## §5  The numbers increase -/

/-- In a history that increases, the last number is the greatest. -/
theorem le_last {history : List SeqEvent} (h : history.Pairwise Follows) {c : Counter}
    {n : ℕ} (hlast : lastNumber history = some (c, n)) :
    ∀ d m, .numbered d m ∈ history → m ≤ n := by
  induction history with
  | nil => cases hlast
  | cons x rest ih =>
      obtain ⟨hx, hrest⟩ := List.pairwise_cons.mp h
      intro d m hm
      cases x with
      | numbered c' n' =>
          obtain ⟨rfl, rfl⟩ := Prod.mk.inj (Option.some.inj hlast)
          rcases List.mem_cons.mp hm with heq | hm
          · cases heq
            exact le_rfl
          · exact (hx _ hm).le
      | read n' =>
          rcases List.mem_cons.mp hm with heq | hm
          · cases heq
          · exact ih hrest hlast d m hm

theorem mem_of_lastNumber {history : List SeqEvent} {c : Counter} {n : ℕ}
    (hlast : lastNumber history = some (c, n)) : .numbered c n ∈ history := by
  induction history with
  | nil => cases hlast
  | cons x rest ih =>
      cases x with
      | numbered c' n' =>
          obtain ⟨rfl, rfl⟩ := Prod.mk.inj (Option.some.inj hlast)
          exact List.mem_cons_self
      | read n' => exact List.mem_cons_of_mem _ (ih hlast)

theorem lastNumber_isSome {history : List SeqEvent} {c : Counter} {n : ℕ}
    (h : .numbered c n ∈ history) : ∃ d m, lastNumber history = some (d, m) := by
  induction history with
  | nil => cases h
  | cons x rest ih =>
      cases x with
      | numbered c' n' => exact ⟨c', n', rfl⟩
      | read n' =>
          rcases List.mem_cons.mp h with heq | h
          · cases heq
          · exact ih h

/-- A bound on the last number bounds all of them. -/
theorem forall_numbers_iff {history : List SeqEvent} (h : history.Pairwise Follows)
    (k : ℕ) :
    (∀ d m, .numbered d m ∈ history → m ≤ k) ↔
      ∀ d m, lastNumber history = some (d, m) → m ≤ k := by
  constructor
  · exact fun hall d m hlast => hall d m (mem_of_lastNumber hlast)
  · intro hlast d m hm
    obtain ⟨c, n, hn⟩ := lastNumber_isSome hm
    exact (le_last h hn d m hm).trans (hlast c n hn)

theorem increasing_numbered_iff {history : List SeqEvent} (h : history.Pairwise Follows)
    (c : Counter) (k : ℕ) :
    (.numbered c (k + 1) :: history).Pairwise Follows ↔
      ∀ d m, lastNumber history = some (d, m) → m ≤ k := by
  rw [List.pairwise_cons, and_iff_left h, ← forall_numbers_iff h]
  constructor
  · exact fun hall d m hm => Nat.lt_succ_iff.mp (hall _ hm)
  · intro hall x hx
    cases x with
    | numbered d m => exact Nat.lt_succ_of_le (hall d m hx)
    | read m => trivial

theorem increasing_read_iff {history : List SeqEvent} (h : history.Pairwise Follows)
    (k : ℕ) :
    (.read k :: history).Pairwise Follows ↔
      ∀ d m, lastNumber history = some (d, m) → m ≤ k := by
  rw [List.pairwise_cons, and_iff_left h, ← forall_numbers_iff h]
  constructor
  · exact fun hall d m hm => hall _ hm
  · intro hall x hx
    cases x with
    | numbered d m => exact hall d m hx
    | read m => trivial

/-- Only a counter that does not go on can be behind. -/
theorem SeqInv.notBehind_iff (h : SeqInv a s) (c : Counter) :
    s.NotBehind a c ↔
      ∀ d n, lastNumber s.history = some (d, n) → n ≤ s.world.count a c := by
  constructor
  · intro hno d n hlast
    by_cases hgoes : s.Goes c d
    · exact h.goes c d n hlast hgoes
    · exact hno d n hlast hgoes
  · exact fun hall d n hlast _ => hall d n hlast

theorem increasing_next_iff (h : SeqInv a s) (hp : s.Increasing) (id : String)
    (e : PhaseEnv) :
    CarriesOn deps a s (.next id e) ↔
      ∀ s', seqStep deps a s (.next id e) = some s' → s'.Increasing := by
  simp only [CarriesOn, seqStep]
  by_cases hid : id = a
  · subst hid
    rcases nextSeq_answer deps e id s.world with ⟨hdies, herr⟩ | ⟨hlives, n, hok⟩
    · rcases hn : nextSeq deps e id s.world with ⟨_ | n, w⟩
      · simp [hdies]
      · rw [hn] at herr
        cases herr
    · rcases hn : nextSeq deps e id s.world with ⟨_ | n', w⟩
      · rw [hn] at hok
        cases hok
      · obtain ⟨hnum, -, -⟩ := nextSeq_numbers h.counts hn
        have hinc := increasing_numbered_iff hp (deps.counter e)
          (s.world.count id (deps.counter e))
        rw [← hnum, ← h.notBehind_iff] at hinc
        simpa [hlives, SeqState.Increasing] using hinc.symm
  · rcases hn : nextSeq deps e id s.world with ⟨_ | n, w⟩
    · simp [hid]
    · apply iff_of_true (fun hno => absurd hno hid)
      intro s' hs'
      obtain rfl := by simpa [hid] using hs'
      exact hp

theorem currentSeq_returns {o : Outcome} (ho : deps.answers o = true) (w : World) :
    ∃ n, currentSeq deps o a w = (.ok n, w) := by
  unfold currentSeq
  cases hclient : deps.hasSeqClient with
  | false => exact ⟨_, rfl⟩
  | true =>
      obtain rfl : o = .returned := by simpa [WorkerDeps.answers, hclient] using ho
      rw [if_neg (by decide), Run.tryExcept, Run.bind_apply]
      simp only [redisGet, Run.call, id]
      cases seqNumber (w.lookup (seqKey a)) with
      | ok n => exact ⟨n, rfl⟩
      | error x => exact ⟨0, rfl⟩

theorem increasing_current_iff (h : SeqInv a s) (hp : s.Increasing) (o : Outcome) :
    CarriesOn deps a s (.current o) ↔
      ∀ s', seqStep deps a s (.current o) = some s' → s'.Increasing := by
  simp only [CarriesOn, seqStep]
  cases ho : deps.answers o with
  | true =>
      obtain ⟨n, hn⟩ := currentSeq_returns (a := a) ho s.world
      have hread := (currentSeq_reads h.counts hn).2 ho
      have hinc := increasing_read_iff hp n
      rw [hread, ← h.notBehind_iff, ← hread] at hinc
      rw [hn]
      simpa [SeqState.Increasing] using hinc.symm
  | false =>
      rcases hn : currentSeq deps o a s.world with ⟨_ | n, w⟩
      · simp
      · apply iff_of_true (fun hno => by cases hno)
        intro s' hs'
        obtain rfl := by simpa using hs'
        exact hp

/-- A step keeps the numbers increasing just when it turns to no counter that is
behind. -/
theorem increasing_step_iff (h : SeqInv a s) (hp : s.Increasing) (l : SeqStep) :
    CarriesOn deps a s l ↔ ∀ s', seqStep deps a s l = some s' → s'.Increasing := by
  cases l with
  | next id e => exact increasing_next_iff h hp id e
  | current o => exact increasing_current_iff h hp o
  | elsewhere expires =>
      apply iff_of_true trivial
      rintro _ ⟨⟩
      exact hp
  | meanwhile i =>
      apply iff_of_true trivial
      intro s' hs'
      simp only [seqStep] at hs'
      split at hs'
      · obtain rfl := Option.some.inj hs'
        exact hp
      · cases hs'

/-- **The numbers of an alert increase exactly as long as no call turns to a counter
that is behind**: in every run of calls for the alert and for others, with any
failures of `INCR`, `EXPIRE` and `GET`, with other workers at the same counter and
with keys that lapse, the numbers are strictly increasing and no successful read is
below one of them if and only if each call that is served by another counter than
gave the last number, or by Redis after the key has lapsed, finds its counter at
least there. -/
theorem seq_increasing_iff (deps : WorkerDeps) (a : String) {s : SeqState}
    (hs : (seqSystem deps a).start s) (steps : List SeqStep) :
    (seqSystem deps a).Throughout SeqState.Increasing s steps ↔
      (seqSystem deps a).Meets (CarriesOn deps a) s steps := by
  obtain ⟨hempty, hcounts⟩ := hs
  apply System.throughout_iff_meets (I := SeqInv a)
  · exact fun s l s' hstep h => h.step hstep
  · exact fun s l h hp => increasing_step_iff h hp l
  · refine ⟨hcounts, ?_, ?_⟩
    · simp [hempty, lastNumber]
    · simp [hempty, lastNumber]
  · unfold SeqState.Increasing
    rw [hempty]
    exact List.Pairwise.nil

/-- Nothing numbered, nothing in Redis. -/
def SeqState.fresh : SeqState := ⟨World.fresh, [], false⟩

/-- A call for the alert `a1` in which `INCR` and `EXPIRE` end so. -/
def numbering (incr expire : Outcome) : SeqStep :=
  .next "a1" ⟨incr, expire, "2024-01-01T00:00:00", ⟨.returned, .returned⟩⟩

/-- The first `EXPIRE` fails and the process counts along with Redis; another worker
numbers an event, and Redis goes on alone. -/
def oneFailedExpire : List SeqStep :=
  [numbering .returned (.raised false), .elsewhere true, numbering .returned .returned,
    .current .returned, numbering .returned .returned]

theorem seq_increasing_oneFailedExpire :
    (seqSystem redisDeps "a1").Throughout SeqState.Increasing SeqState.fresh
      oneFailedExpire :=
  (seq_increasing_iff redisDeps "a1" ⟨rfl, by decide⟩ oneFailedExpire).mpr
    (by decide +kernel)

/-- Two numbers of Redis, then `INCR` fails: the third number is 1 again. -/
def redisGoes : List SeqStep :=
  [numbering .returned .returned, numbering .returned .returned,
    numbering (.raised false) .returned]

theorem redisGoes_repeats :
    ¬ ∀ steps, (seqSystem redisDeps "a1").Throughout SeqState.Increasing SeqState.fresh
      steps := by
  intro hall
  have hrun : ((seqSystem redisDeps "a1").run SeqState.fresh redisGoes).any
      (fun s => !decide s.Increasing) = true := by decide +kernel
  obtain ⟨s, hs, hno⟩ := (Option.any_eq_true _ _).mp hrun
  have hinc := (hall redisGoes).last hs
  simp [hinc] at hno

end AlertTriage
