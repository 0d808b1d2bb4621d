import AlertTriage.Runtime.TriageWorker
import AlertTriage.Library.Transition

/-!
# The dispatch loop of the worker

`run` takes a permit for each message it fetched and starts `_dispatch_one` as a task;
the task settles the message once and gives the permit back in its `finally`. Whatever
`handle_message` and the settle calls do, no permit is lost and no message is settled
twice, or otherwise than its handling calls for; when nothing is under way every
message fetched has been settled, and as long as something is, some task or the loop
can go on (`dispatch_settles_once`).
-/

namespace AlertTriage

open Library

/-! ## §1  One message -/

/-- The settlement that an outcome of `handle_message` leads to. -/
def settlementFor : Except PyExn Unit → Settlement
  | .ok () => .ack
  | .error x => settlementOf x

/-- `_dispatch_one` settles by the token and by what `handle_message` came to. -/
theorem settleAs_handled {deps : WorkerDeps} {e : HandleEnv} {msg : NatsMsg} {w w' : World}
    (htoken : msg.serviceToken ≠ "") {r : Except PyExn Unit}
    (h : handleMessage deps e msg.data msg.serviceToken w =
      (r.mapError Unwind.exception, w')) :
    settleAs deps e msg w = (.ok (settlementFor r), w') := by
  unfold settleAs
  rw [if_neg htoken, Run.tryExcept, Run.bind_apply, h]
  cases r with
  | ok u => rfl
  | error x => rfl

/-- Where a task of `_dispatch_one` stands. -/
inductive DispatchPoint where
  | created
  | handling
  | settling
  | done
deriving DecidableEq, Repr

/-- A task of `_dispatch_one`: its message, how `handle_message` ended, and the settle
calls made. -/
structure Dispatch where
  msg : NatsMsg
  point : DispatchPoint
  result : Option (Except PyExn Unit)
  attempts : List Settlement

namespace Dispatch

def create (msg : NatsMsg) : Dispatch := ⟨msg, .created, none, []⟩

/-- Up to `handle_message`, or to the settle call of a message without a token. -/
def start (t : Dispatch) : Dispatch :=
  if t.msg.serviceToken = "" then
    { t with point := .settling, attempts := .term :: t.attempts }
  else { t with point := .handling }

/-- `handle_message` has ended: the settle call for its outcome. -/
def handled (r : Except PyExn Unit) (t : Dispatch) : Dispatch :=
  { t with
    point := .settling
    result := some r
    attempts := settlementFor r :: t.attempts }

/-- The settle call has ended, with or without an exception, and the permit is given
back. -/
def settled (t : Dispatch) : Dispatch := { t with point := .done }

/-- What is owed to the message: `TERM` without a token, else what the outcome of
`handle_message` calls for. -/
def Owes (t : Dispatch) (how : Settlement) : Prop :=
  (t.msg.serviceToken = "" ∧ how = .term) ∨
    (t.msg.serviceToken ≠ "" ∧ ∃ r, t.result = some r ∧ how = settlementFor r)

/-- Awaits that the task has before it. -/
def awaits (t : Dispatch) : ℕ :=
  match t.point with
  | .created => 3
  | .handling => 2
  | .settling => 1
  | .done => 0

end Dispatch

/-! ## §2  The loop and its tasks -/

/-- Where `run` stands. The messages of a batch that have no task yet are those that
`for` has still to come to. -/
inductive LoopPoint where
  | fetching
  | pausing
  | dispatching (rest : List NatsMsg)
  | draining
  | returned
deriving DecidableEq, Repr

/-- The messages fetched that have no task. -/
def LoopPoint.rest : LoopPoint → List NatsMsg
  | .dispatching rest => rest
  | _ => []

/-- The worker: the semaphore, the tasks in the order of their messages, `_inflight`,
and every message fetched so far. -/
structure PoolState where
  loop : LoopPoint
  stopped : Bool
  permits : ℕ
  tasks : List Dispatch
  inflight : List ℕ
  fetched : List NatsMsg

inductive PoolStep where
  | fetch (msgs : List NatsMsg)
  | fetchTimeout
  | fetchFailed
  | paused
  | acquire
  | start (i : ℕ)
  | handled (i : ℕ) (r : Except PyExn Unit)
  | settled (i : ℕ) (raised : Bool)
  | discard (i : ℕ)
  | stop
  | drained

namespace PoolState

/-- `while not self._stop.is_set()`. -/
def top (s : PoolState) : LoopPoint := if s.stopped then .draining else .fetching

/-- The rest of the batch, or the next turn of the loop. -/
def enter (s : PoolState) : List NatsMsg → LoopPoint
  | [] => s.top
  | m :: rest => .dispatching (m :: rest)

/-- The tasks that hold a permit. -/
def running (s : PoolState) : ℕ := s.tasks.countP fun t => t.point ≠ .done

/-- The tasks whose `handle_message` is running. -/
def handlers (s : PoolState) : ℕ := s.tasks.countP fun t => t.point = .handling

/-- One task goes on, from a point where it stands. -/
def advance (s : PoolState) (i : ℕ) (point : DispatchPoint) (f : Dispatch → Dispatch) :
    Option PoolState :=
  match s.tasks[i]? with
  | some t =>
      if t.point = point then some { s with tasks := s.tasks.set i (f t) } else none
  | none => none

/-- The task of this number is done. -/
def isDone (s : PoolState) (i : ℕ) : Bool :=
  match s.tasks[i]? with
  | some t => t.point = .done
  | none => true

end PoolState

/-- One step of the worker. -/
def poolStep (s : PoolState) : PoolStep → Option PoolState
  | .fetch msgs =>
      if s.loop = .fetching then
        some { s with fetched := s.fetched ++ msgs, loop := s.enter msgs }
      else none
  | .fetchTimeout => if s.loop = .fetching then some { s with loop := s.top } else none
  | .fetchFailed => if s.loop = .fetching then some { s with loop := .pausing } else none
  | .paused => if s.loop = .pausing then some { s with loop := s.top } else none
  | .acquire =>
      match s.loop with
      | .dispatching (m :: rest) =>
          if 0 < s.permits then
            some { s with
              permits := s.permits - 1
              tasks := s.tasks ++ [.create m]
              inflight := s.tasks.length :: s.inflight
              loop := s.enter rest }
          else none
      | _ => none
  | .start i => s.advance i .created Dispatch.start
  | .handled i r => s.advance i .handling (Dispatch.handled r)
  | .settled i _ =>
      (s.advance i .settling Dispatch.settled).map fun s =>
        { s with permits := s.permits + 1 }
  | .discard i =>
      if s.isDone i then some { s with inflight := s.inflight.filter (· ≠ i) } else none
  | .stop => some { s with stopped := true }
  | .drained =>
      if s.loop = .draining ∧ s.inflight.all s.isDone then
        some { s with loop := .returned, inflight := [] }
      else none

/-- `run` from the first turn of its loop on. -/
def poolSystem (config : WorkerConfig) : System PoolState PoolStep where
  start s := s.loop = s.top ∧ s.permits = config.maxInflight ∧ s.tasks = [] ∧
    s.inflight = [] ∧ s.fetched = []
  step := poolStep

/-- Steps of the loop with a message at hand, and of the tasks. -/
def PoolStep.Works : PoolStep → Prop
  | .acquire => True
  | .start _ => True
  | .handled _ _ => True
  | .settled _ _ => True
  | _ => False

/-- Every message fetched has its task, and all tasks are done. -/
def PoolState.Idle (s : PoolState) : Prop :=
  s.loop.rest = [] ∧ ∀ t ∈ s.tasks, t.point = .done

/-- The awaits that the messages fetched so far have before them. -/
def PoolState.work (s : PoolState) : ℕ :=
  4 * s.loop.rest.length + (s.tasks.map Dispatch.awaits).sum

/-- Every message is settled once, as its handling calls for, and no permit is lost. -/
structure SettledOnce (maxInflight : ℕ) (s : PoolState) : Prop where
  capped : s.handlers ≤ maxInflight
  permits : s.permits + s.running = maxInflight
  dispatched : s.tasks.map Dispatch.msg ++ s.loop.rest = s.fetched
  atMostOnce : ∀ t ∈ s.tasks, t.attempts.length ≤ 1
  asOwed : ∀ t ∈ s.tasks, ∀ how ∈ t.attempts, t.Owes how
  settled : ∀ t ∈ s.tasks, t.point = .done → ∃ how, t.attempts = [how]
  ended : s.loop = .returned → s.Idle
  goesOn : 0 < maxInflight → ¬ s.Idle → ∃ l, l.Works ∧ (poolStep s l).isSome
  shrinks : ∀ l s', l.Works → poolStep s l = some s' → s'.work < s.work

/-! ## §3  One step -/

/-- The place of an element in a list, and the list with another one there. -/
theorem exists_split {α : Type} {l : List α} {i : ℕ} {x : α} (h : l[i]? = some x) :
    ∃ l₁ l₂, l = l₁ ++ x :: l₂ ∧ ∀ y, l.set i y = l₁ ++ y :: l₂ := by
  induction l generalizing i with
  | nil => simp at h
  | cons a l ih =>
      cases i with
      | zero =>
          obtain rfl : a = x := by simpa using h
          exact ⟨[], l, rfl, fun y => rfl⟩
      | succ i =>
          obtain ⟨l₁, l₂, rfl, hset⟩ := ih (by simpa using h)
          refine ⟨a :: l₁, l₂, rfl, fun y => ?_⟩
          rw [List.set_cons_succ, hset y, List.cons_append]

variable {n : ℕ} {s s' : PoolState}

/-- A task that goes on, between the others. -/
theorem advance_cases {i : ℕ} {point : DispatchPoint} {f : Dispatch → Dispatch}
    (h : s.advance i point f = some s') :
    ∃ l₁ t l₂, s.tasks = l₁ ++ t :: l₂ ∧ t.point = point ∧
      s' = { s with tasks := l₁ ++ f t :: l₂ } ∧ s.tasks[i]? = some t ∧
      ∀ j, j ≠ i → (l₁ ++ f t :: l₂)[j]? = s.tasks[j]? := by
  unfold PoolState.advance at h
  cases ht : s.tasks[i]? with
  | none => simp [ht] at h
  | some t =>
      simp only [ht] at h
      split at h
      · obtain ⟨l₁, l₂, htasks, hset⟩ := exists_split ht
        obtain rfl := Option.some.inj h
        refine ⟨l₁, t, l₂, htasks, ‹_›, by rw [hset], rfl, fun j hj => ?_⟩
        rw [← hset, List.getElem?_set_ne (Ne.symm hj)]
      · cases h

/-- What a task has settled, by where it stands. -/
def Dispatch.Sound (t : Dispatch) : Prop :=
  match t.point with
  | .created => t.attempts = []
  | .handling => t.attempts = [] ∧ t.msg.serviceToken ≠ ""
  | _ => ∃ how, t.attempts = [how] ∧ t.Owes how

theorem Dispatch.Sound.start {t : Dispatch} (h : t.Sound) (hp : t.point = .created) :
    t.start.Sound := by
  have hnone : t.attempts = [] := by
    unfold Dispatch.Sound at h
    rwa [hp] at h
  unfold Dispatch.start
  split
  · refine ⟨.term, ?_, .inl ⟨‹_›, rfl⟩⟩
    show Settlement.term :: t.attempts = [.term]
    rw [hnone]
  · exact ⟨hnone, ‹_›⟩

theorem Dispatch.Sound.handled {t : Dispatch} (h : t.Sound) (hp : t.point = .handling)
    (r : Except PyExn Unit) : (t.handled r).Sound := by
  obtain ⟨hnone, htoken⟩ : t.attempts = [] ∧ t.msg.serviceToken ≠ "" := by
    unfold Dispatch.Sound at h
    rwa [hp] at h
  refine ⟨settlementFor r, ?_, .inr ⟨htoken, r, rfl, rfl⟩⟩
  show settlementFor r :: t.attempts = [settlementFor r]
  rw [hnone]

theorem Dispatch.Sound.settled {t : Dispatch} (h : t.Sound) (hp : t.point = .settling) :
    t.settled.Sound := by
  unfold Dispatch.Sound at h
  rw [hp] at h
  exact h

theorem Dispatch.Sound.attempts_le {t : Dispatch} (h : t.Sound) :
    t.attempts.length ≤ 1 := by
  unfold Dispatch.Sound at h
  split at h
  · simp [h]
  · simp [h.1]
  · obtain ⟨how, hone, -⟩ := h
    simp [hone]

theorem Dispatch.Sound.owes {t : Dispatch} (h : t.Sound) {how : Settlement}
    (hmem : how ∈ t.attempts) : t.Owes how := by
  unfold Dispatch.Sound at h
  split at h
  · simp [h] at hmem
  · simp [h.1] at hmem
  · obtain ⟨how', hone, howes⟩ := h
    obtain rfl := by simpa [hone] using hmem
    exact howes

theorem Dispatch.Sound.settledOnce {t : Dispatch} (h : t.Sound) (hp : t.point = .done) :
    ∃ how, t.attempts = [how] := by
  unfold Dispatch.Sound at h
  rw [hp] at h
  obtain ⟨how, hone, -⟩ := h
  exact ⟨how, hone⟩

/-- What every step of the worker keeps. -/
structure PoolInv (n : ℕ) (s : PoolState) : Prop where
  permits : s.permits + s.running = n
  dispatched : s.tasks.map Dispatch.msg ++ s.loop.rest = s.fetched
  sound : ∀ t ∈ s.tasks, t.Sound
  inflight : ∀ i t, s.tasks[i]? = some t → t.point ≠ .done → i ∈ s.inflight
  ended : s.loop = .returned → ∀ t ∈ s.tasks, t.point = .done

/-- A task goes on: what it leaves to be shown is the account of the permits. -/
theorem PoolInv.advance (h : PoolInv n s) {i : ℕ} {point : DispatchPoint}
    {f : Dispatch → Dispatch} (hstep : s.advance i point f = some s')
    (hpoint : point ≠ .done) (hmsg : ∀ t, (f t).msg = t.msg)
    (hsound : ∀ t, t.Sound → t.point = point → (f t).Sound) {permits : ℕ}
    (hper : permits + s'.running = n) : PoolInv n { s' with permits := permits } := by
  obtain ⟨l₁, t, l₂, htasks, hp, rfl, hi, hother⟩ := advance_cases hstep
  have htd : t.point ≠ .done := hp ▸ hpoint
  refine ⟨hper, ?_, ?_, ?_, ?_⟩
  · have hdis := h.dispatched
    rw [htasks] at hdis
    simpa [hmsg] using hdis
  · intro u hu
    have hall := h.sound
    rw [htasks] at hall
    rcases List.mem_append.mp hu with hu | hu
    · exact hall u (List.mem_append_left _ hu)
    rcases List.mem_cons.mp hu with rfl | hu
    · exact hsound t (hall t (by simp)) hp
    · exact hall u (by simp [hu])
  · intro j u hj hu
    by_cases hji : j = i
    · subst hji
      exact h.inflight j t hi htd
    · exact h.inflight j u ((hother j hji).symm.trans hj) hu
  · intro hret
    exact absurd (h.ended hret t (List.mem_of_getElem? hi)) htd

theorem running_advance {i : ℕ} {point : DispatchPoint} {f : Dispatch → Dispatch}
    (hstep : s.advance i point f = some s') (hpoint : point ≠ .done)
    (hf : ∀ t, t.point = point → (f t).point ≠ .done) : s'.running = s.running := by
  obtain ⟨l₁, t, l₂, htasks, hp, rfl, -, -⟩ := advance_cases hstep
  have htd : t.point ≠ .done := hp ▸ hpoint
  unfold PoolState.running
  rw [htasks]
  simp [List.countP_append, htd, hf t hp]

theorem permits_advance {i : ℕ} {point : DispatchPoint} {f : Dispatch → Dispatch}
    (hstep : s.advance i point f = some s') : s'.permits = s.permits := by
  obtain ⟨l₁, t, l₂, -, -, rfl, -, -⟩ := advance_cases hstep
  rfl

theorem running_settled {i : ℕ} (hstep : s.advance i .settling Dispatch.settled = some s') :
    s'.running + 1 = s.running := by
  obtain ⟨l₁, t, l₂, htasks, hp, rfl, -, -⟩ := advance_cases hstep
  unfold PoolState.running
  rw [htasks]
  simp [List.countP_append, hp, Dispatch.settled]
  omega

theorem top_rest (s : PoolState) : s.top.rest = [] := by
  unfold PoolState.top
  split <;> rfl

theorem enter_rest (s : PoolState) (msgs : List NatsMsg) : (s.enter msgs).rest = msgs := by
  cases msgs with
  | nil => exact top_rest s
  | cons m rest => rfl

theorem top_ne_returned (s : PoolState) : s.top ≠ .returned := by
  unfold PoolState.top
  split <;> simp

theorem enter_ne_returned (s : PoolState) (msgs : List NatsMsg) :
    s.enter msgs ≠ .returned := by
  cases msgs with
  | nil => exact top_ne_returned s
  | cons m rest => simp [PoolState.enter]

/-- The loop turns without a message. -/
theorem PoolInv.turn (h : PoolInv n s) {loop : LoopPoint} {stopped : Bool}
    (hrest : loop.rest = s.loop.rest)
    (hret : loop = .returned → ∀ t ∈ s.tasks, t.point = .done) :
    PoolInv n { s with loop := loop, stopped := stopped } :=
  ⟨h.permits, by rw [hrest]; exact h.dispatched, h.sound, h.inflight, hret⟩

/-- A permit is taken for the first message at hand, which gets the next task. -/
theorem acquire_cases (hstep : poolStep s .acquire = some s') :
    ∃ m rest, s.loop = .dispatching (m :: rest) ∧ 0 < s.permits ∧
      s' = { s with
        permits := s.permits - 1
        tasks := s.tasks ++ [.create m]
        inflight := s.tasks.length :: s.inflight
        loop := s.enter rest } := by
  simp only [poolStep] at hstep
  split at hstep
  · rename_i m rest hloop
    split at hstep
    · rename_i hpos
      exact ⟨m, rest, hloop, hpos, (Option.some.inj hstep).symm⟩
    · cases hstep
  · cases hstep

theorem PoolInv.acquire (h : PoolInv n s) (hstep : poolStep s .acquire = some s') :
    PoolInv n s' := by
  obtain ⟨m, rest, hloop, hpos, rfl⟩ := acquire_cases hstep
  constructor
  · have hper := h.permits
    unfold PoolState.running at hper ⊢
    rw [List.countP_append]
    show s.permits - 1 + (s.tasks.countP _ + 1) = n
    omega
  · have hdis := h.dispatched
    rw [hloop] at hdis
    show (s.tasks ++ [Dispatch.create m]).map Dispatch.msg ++ (s.enter rest).rest =
      s.fetched
    rw [enter_rest, ← hdis]
    simp [LoopPoint.rest, Dispatch.create]
  · intro t ht
    rcases List.mem_append.mp ht with ht | ht
    · exact h.sound t ht
    · obtain rfl := List.mem_singleton.mp ht
      rfl
  · intro i t hi hd
    rcases Nat.lt_trichotomy i s.tasks.length with hlt | rfl | hgt
    · rw [List.getElem?_append_left hlt] at hi
      exact List.mem_cons_of_mem _ (h.inflight i t hi hd)
    · exact List.mem_cons_self
    · rw [List.getElem?_eq_none (by simp; omega)] at hi
      cases hi
  · intro hret
    exact absurd hret (enter_ne_returned _ _)

theorem isDone_iff {i : ℕ} :
    s.isDone i = true ↔ ∀ t, s.tasks[i]? = some t → t.point = .done := by
  unfold PoolState.isDone
  cases s.tasks[i]? <;> simp

theorem PoolInv.step (h : PoolInv n s) {l : PoolStep} (hstep : poolStep s l = some s') :
    PoolInv n s' := by
  have hquiet {loop : LoopPoint} (hl : loop = .fetching ∨ loop = .pausing)
      (hloop : s.loop = loop) : s.top.rest = s.loop.rest := by
    rw [top_rest, hloop]
    rcases hl with rfl | rfl <;> rfl
  have htop : s.top = .returned → ∀ t ∈ s.tasks, t.point = .done :=
    fun hret => absurd hret (top_ne_returned s)
  cases l with
  | fetch msgs =>
      simp only [poolStep] at hstep
      split at hstep
      · rename_i hloop
        obtain rfl := Option.some.inj hstep
        refine ⟨h.permits, ?_, h.sound, h.inflight, ?_⟩
        · have hdis := h.dispatched
          rw [hloop] at hdis
          show s.tasks.map Dispatch.msg ++ (s.enter msgs).rest = s.fetched ++ msgs
          rw [enter_rest, ← hdis]
          simp [LoopPoint.rest]
        · exact fun hret => absurd hret (enter_ne_returned _ _)
      · cases hstep
  | fetchTimeout =>
      simp only [poolStep] at hstep
      split at hstep
      · obtain rfl := Option.some.inj hstep
        exact h.turn (hquiet (.inl rfl) ‹_›) htop
      · cases hstep
  | fetchFailed =>
      simp only [poolStep] at hstep
      split at hstep
      · rename_i hloop
        obtain rfl := Option.some.inj hstep
        exact h.turn (by rw [hloop]; rfl) fun hret => by cases hret
      · cases hstep
  | paused =>
      simp only [poolStep] at hstep
      split at hstep
      · obtain rfl := Option.some.inj hstep
        exact h.turn (hquiet (.inr rfl) ‹_›) htop
      · cases hstep
  | acquire => exact h.acquire hstep
  | start i =>
      have hrun := running_advance hstep (by simp) fun t _ => by
        unfold Dispatch.start
        split <;> simp
      refine h.advance hstep (by simp) ?_ (fun t ht hp => ht.start hp)
        (by rw [hrun]; exact (permits_advance hstep) ▸ h.permits)
      intro t
      unfold Dispatch.start
      split <;> rfl
  | handled i r =>
      have hrun := running_advance hstep (by simp) fun t _ => by simp [Dispatch.handled]
      exact h.advance hstep (by simp) (fun _ => rfl) (fun t ht hp => ht.handled hp r)
        (by rw [hrun]; exact (permits_advance hstep) ▸ h.permits)
  | settled i raised =>
      obtain ⟨s1, hs1, rfl⟩ := Option.map_eq_some_iff.mp hstep
      refine h.advance hs1 (by simp) (fun _ => rfl) (fun t ht hp => ht.settled hp) ?_
      have hrun := running_settled hs1
      have hper := h.permits
      rw [permits_advance hs1]
      omega
  | discard i =>
      simp only [poolStep] at hstep
      split at hstep
      · rename_i hdone
        obtain rfl := Option.some.inj hstep
        refine ⟨h.permits, h.dispatched, h.sound, ?_, h.ended⟩
        intro j t hj hd
        have hji : j ≠ i := by
          rintro rfl
          exact hd (isDone_iff.mp hdone t hj)
        simp [h.inflight j t hj hd, hji]
      · cases hstep
  | stop =>
      obtain rfl := Option.some.inj hstep
      exact h.turn rfl h.ended
  | drained =>
      simp only [poolStep] at hstep
      split at hstep
      · rename_i hcond
        obtain rfl := Option.some.inj hstep
        obtain ⟨hloop, hall⟩ := hcond
        -- every task that is under way is in the set that the loop waits for
        have hdone (i : ℕ) (t : Dispatch) (hi : s.tasks[i]? = some t) : t.point = .done := by
          by_contra hd
          exact hd (isDone_iff.mp (List.all_eq_true.mp hall i (h.inflight i t hi hd)) t hi)
        have hdis := h.dispatched
        rw [hloop] at hdis
        refine ⟨h.permits, hdis, h.sound, ?_, ?_⟩
        · exact fun i t hi hd => absurd (hdone i t hi) hd
        · intro _ t ht
          obtain ⟨i, hi⟩ := List.getElem?_of_mem ht
          exact hdone i t hi
      · cases hstep

/-! ## §4  Whole runs -/

/-- A task that is not done, or a message without a task, leaves a step to be taken. -/
theorem PoolInv.goesOn (h : PoolInv n s) (hn : 0 < n) (hidle : ¬ s.Idle) :
    ∃ l, l.Works ∧ (poolStep s l).isSome := by
  by_cases hall : ∀ t ∈ s.tasks, t.point = .done
  · have hrest : s.loop.rest ≠ [] := fun hno => hidle ⟨hno, hall⟩
    have hrunning : s.running = 0 := by
      unfold PoolState.running
      rw [List.countP_eq_zero]
      intro t ht
      simp [hall t ht]
    have hper := h.permits
    refine ⟨.acquire, trivial, ?_⟩
    cases hl : s.loop with
    | dispatching msgs =>
        cases msgs with
        | nil => simp [hl, LoopPoint.rest] at hrest
        | cons m rest =>
            have hpos : 0 < s.permits := by omega
            simp [poolStep, hl, hpos]
    | _ => simp [hl, LoopPoint.rest] at hrest
  · push Not at hall
    obtain ⟨t, ht, hd⟩ := hall
    obtain ⟨i, hi⟩ := List.getElem?_of_mem ht
    cases hp : t.point with
    | created => exact ⟨.start i, trivial, by simp [poolStep, PoolState.advance, hi, hp]⟩
    | handling =>
        exact ⟨.handled i (.ok ()), trivial, by simp [poolStep, PoolState.advance, hi, hp]⟩
    | settling =>
        exact ⟨.settled i false, trivial, by simp [poolStep, PoolState.advance, hi, hp]⟩
    | done => exact absurd hp hd

theorem work_advance {i : ℕ} {point : DispatchPoint} {f : Dispatch → Dispatch}
    (hstep : s.advance i point f = some s')
    (hf : ∀ t, t.point = point → (f t).awaits < t.awaits) : s'.work < s.work := by
  obtain ⟨l₁, t, l₂, htasks, hp, rfl, -, -⟩ := advance_cases hstep
  have hlt := hf t hp
  unfold PoolState.work
  rw [htasks]
  simp
  omega

/-- Every step of a task, and of the loop with a message at hand, is one await less. -/
theorem work_decreases {l : PoolStep} (hl : l.Works) (hstep : poolStep s l = some s') :
    s'.work < s.work := by
  cases l with
  | acquire =>
      obtain ⟨m, rest, hloop, -, rfl⟩ := acquire_cases hstep
      unfold PoolState.work
      rw [hloop]
      show 4 * (s.enter rest).rest.length +
        ((s.tasks ++ [Dispatch.create m]).map Dispatch.awaits).sum < _
      rw [enter_rest]
      simp [LoopPoint.rest, Dispatch.create, Dispatch.awaits]
      omega
  | start i =>
      apply work_advance hstep
      intro t hp
      by_cases htoken : t.msg.serviceToken = ""
      · simp [Dispatch.start, Dispatch.awaits, hp, htoken]
      · simp [Dispatch.start, Dispatch.awaits, hp, htoken]
  | handled i r =>
      apply work_advance hstep
      intro t hp
      simp [Dispatch.handled, Dispatch.awaits, hp]
  | settled i raised =>
      obtain ⟨s1, hs1, rfl⟩ := Option.map_eq_some_iff.mp hstep
      have hlt : s1.work < s.work := by
        apply work_advance hs1
        intro t hp
        simp [Dispatch.settled, Dispatch.awaits, hp]
      exact hlt
  | _ => exact absurd hl fun hno => hno

/-- **Dispatch settles every message once**: whatever is fetched, however the tasks
interleave, however `handle_message` and the settle calls end. Permits and tasks under
way make up `max_inflight`; each message has one task, in the order of the fetches, and
the task makes one settle call, the one that its token and its handling call for; when
`run` has returned, every message fetched is settled; until then some task or the loop
can go on, and can do so only so often. -/
theorem dispatch_settles_once (config : WorkerConfig) {s : PoolState}
    (hs : (poolSystem config).Reachable s) : SettledOnce config.maxInflight s := by
  have h : PoolInv config.maxInflight s := by
    apply hs.invariant
    · rintro s ⟨hloop, hpermits, htasks, -, hfetched⟩
      refine ⟨?_, ?_, ?_, ?_, ?_⟩
      · simp [PoolState.running, hpermits, htasks]
      · rw [hloop, top_rest, htasks, hfetched]
        rfl
      · simp [htasks]
      · simp [htasks]
      · simp [htasks]
    · exact fun s l s' h _ hstep => h.step hstep
  constructor
  · have hle : s.handlers ≤ s.running := by
      apply List.countP_mono_left
      intro t _ ht
      have hp : t.point = .handling := of_decide_eq_true ht
      simp [hp]
    have hper := h.permits
    omega
  · exact h.permits
  · exact h.dispatched
  · exact fun t ht => (h.sound t ht).attempts_le
  · exact fun t ht how hmem => (h.sound t ht).owes hmem
  · exact fun t ht hp => (h.sound t ht).settledOnce hp
  · exact fun hret => ⟨by rw [hret]; rfl, h.ended hret⟩
  · exact fun hn hidle => h.goesOn hn hidle
  · exact fun l s' hl hstep => work_decreases hl hstep

/-- The message of the sample alert with a token, and one without. -/
def twoMessages : List NatsMsg :=
  [sampleMsg "token", { sampleMsg "" with headers := [] }]

/-- One permit: the second message waits for the first, whose triage raises. -/
def onePermit : List PoolStep :=
  [.fetch twoMessages, .acquire, .start 0, .handled 0 (.error (.other "boom")), .stop,
    .settled 0 true, .acquire, .discard 0, .start 1, .settled 1 false, .drained]

/-- The worker with one permit, before its first fetch. -/
def PoolState.fresh : PoolState := ⟨.fetching, false, 1, [], [], []⟩

theorem dispatch_settles_once_onePermit :
    ∃ s, (poolSystem ⟨1, 2, 60, 5⟩).run PoolState.fresh onePermit = some s ∧
      s.loop = .returned ∧ s.tasks.map Dispatch.attempts = [[.nak], [.term]] ∧
      SettledOnce 1 s := by
  have hrun : ((poolSystem ⟨1, 2, 60, 5⟩).run PoolState.fresh onePermit).any (fun s =>
      decide (s.loop = .returned ∧ s.tasks.map Dispatch.attempts = [[.nak], [.term]])) =
      true := by decide +kernel
  obtain ⟨s, hs, hend⟩ := (Option.any_eq_true _ _).mp hrun
  obtain ⟨hret, hattempts⟩ := of_decide_eq_true hend
  have hreach := System.reached_of_run (S := poolSystem ⟨1, 2, 60, 5⟩)
    (.start ⟨rfl, rfl, rfl, rfl, rfl⟩) hs
  exact ⟨s, hs, hret, hattempts, dispatch_settles_once ⟨1, 2, 60, 5⟩ hreach⟩

end AlertTriage
