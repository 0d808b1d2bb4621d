import AlertTriage.Library.Transition
import AlertTriage.Runtime.TriageWorker

/-!
# The ack window and the workers

The dispatch loops of any number of worker processes on one pull consumer
(`TriageWorker.run`). JetStream hands out a message that is new, negatively
acknowledged or has been with a worker for `ack_wait_seconds` without an
answer; the window runs from the fetch on, so it also runs while the message
waits for the semaphore. No worker marks a message as in progress, hence
nothing but a settlement ends the window early.

As long as no worker keeps a message beyond its window, one message is never
triaged twice at the same time (`one_investigation`). A triage that outlives
the window is joined by a second one.
-/

namespace AlertTriage

open Library

/-! ## §1  The consumer and the workers -/

/-- What JetStream keeps about a message of the consumer. -/
structure MsgRecord where
  deliveries : ℕ
  lastDelivered : ℕ
  nakked : Bool
  settled : Bool
deriving DecidableEq, Repr

/-- Published and not delivered yet. -/
def MsgRecord.published : MsgRecord := ⟨0, 0, false, false⟩

/-- How far a worker is with a message: fetched and waiting for the semaphore,
in its task, inside `run_triage`, or past it. -/
inductive Stage where
  | waiting | dispatched | triaging | triaged
deriving DecidableEq, Repr

/-- A message in the hands of a worker. -/
structure Held where
  ticket : ℕ
  worker : ℕ
  msg : ℕ
  deliveredAt : ℕ
  stage : Stage
deriving DecidableEq, Repr

structure Cluster where
  now : ℕ
  record : ℕ → MsgRecord
  held : List Held
  nextTicket : ℕ

def Cluster.fresh : Cluster := ⟨0, fun _ => .published, [], 0⟩

inductive ClusterStep where
  | tick (d : ℕ)
  | fetch (worker : ℕ) (msgs : List ℕ)
  | acquire (worker ticket : ℕ)
  | begin (ticket : ℕ)
  | finish (ticket : ℕ)
  | settle (ticket : ℕ) (how : Settlement) (applied : Bool)
  | crash (worker : ℕ)
deriving DecidableEq, Repr

/-- JetStream may hand the message out. -/
def MsgRecord.due (config : WorkerConfig) (now : ℕ) (r : MsgRecord) : Bool :=
  !r.settled && decide (r.deliveries < config.maxDeliveries) &&
    (r.deliveries == 0 || r.nakked ||
      decide (r.lastDelivered + config.ackWaitSeconds * second ≤ now))

/-- The messages of one fetch, in order. -/
def handOut (worker now : ℕ) : ℕ → List ℕ → List Held
  | _, [] => []
  | n, m :: ms => ⟨n, worker, m, now, .waiting⟩ :: handOut worker now (n + 1) ms

def Cluster.deliver (s : Cluster) (msgs : List ℕ) (m : ℕ) : MsgRecord :=
  if m ∈ msgs then
    ⟨(s.record m).deliveries + 1, s.now, false, (s.record m).settled⟩
  else s.record m

/-- A stage change of one held message. -/
def Cluster.move (s : Cluster) (ticket : ℕ) (stage : Stage) : Cluster :=
  { s with
    held := s.held.map fun h =>
      if h.ticket = ticket then { h with stage := stage } else h }

def MsgRecord.settle (how : Settlement) (r : MsgRecord) : MsgRecord :=
  match how with
  | .nak => { r with nakked := true }
  | _ => { r with settled := true }

/-- The first message a worker has waiting. -/
def Cluster.firstWaiting (s : Cluster) (worker : ℕ) : Option Held :=
  s.held.find? fun h => h.worker == worker && h.stage == .waiting

/-- The messages that hold a permit of the worker's semaphore. -/
def Cluster.inflight (s : Cluster) (worker : ℕ) : ℕ :=
  s.held.countP fun h => h.worker == worker && h.stage != .waiting

def Cluster.isAt (s : Cluster) (ticket : ℕ) (stage : Stage) : Bool :=
  s.held.any fun h => h.ticket == ticket && h.stage == stage

/-- The loops: a worker fetches once everything it fetched is dispatched, and
dispatches in order as the semaphore allows. A settlement that does not reach
JetStream still ends the task. -/
def clusterStep (config : WorkerConfig) (s : Cluster) :
    ClusterStep → Option Cluster
  | .tick d => some { s with now := s.now + d }
  | .fetch worker msgs =>
      if (s.firstWaiting worker).isNone && decide (msgs.length ≤ config.pullBatch)
          && decide msgs.Nodup
          && msgs.all fun m => (s.record m).due config s.now then
        some { s with
          record := s.deliver msgs
          held := s.held ++ handOut worker s.now s.nextTicket msgs
          nextTicket := s.nextTicket + msgs.length }
      else none
  | .acquire worker ticket =>
      if (s.firstWaiting worker).any (fun h => h.ticket == ticket) &&
          decide (s.inflight worker < config.maxInflight) then
        some (s.move ticket .dispatched)
      else none
  | .begin ticket =>
      if s.isAt ticket .dispatched then some (s.move ticket .triaging) else none
  | .finish ticket =>
      if s.isAt ticket .triaging then some (s.move ticket .triaged) else none
  | .settle ticket how applied =>
      if s.isAt ticket .dispatched || s.isAt ticket .triaged then
        some { s with
          record := fun m =>
            if applied && s.held.any (fun h => h.ticket == ticket && h.msg == m)
            then (s.record m).settle how else s.record m
          held := s.held.filter fun h => h.ticket != ticket }
      else none
  | .crash worker =>
      some { s with held := s.held.filter fun h => h.worker != worker }

/-- Any messages published, no worker has fetched yet. -/
def clusterSystem (config : WorkerConfig) : System Cluster ClusterStep where
  start s := s.held = [] ∧ ∀ m, s.record m = .published
  step := clusterStep config

/-! ## §2  One investigation at a time -/

/-- No two triages of one message are in progress. -/
def OneAtATime (s : Cluster) : Prop :=
  ∀ h ∈ s.held, ∀ h' ∈ s.held, h.stage = .triaging → h'.stage = .triaging →
    h.msg = h'.msg → h = h'

/-- The time that a step takes. -/
def ClusterStep.duration : ClusterStep → ℕ
  | .tick d => d
  | _ => 0

/-- The condition: at the step, and to its end, every held message is within
its ack window. -/
def InWindow (config : WorkerConfig) (s : Cluster) (a : ClusterStep) : Prop :=
  ∀ h ∈ s.held,
    s.now + a.duration < h.deliveredAt + config.ackWaitSeconds * second

instance (s : Cluster) : Decidable (OneAtATime s) :=
  inferInstanceAs (Decidable (∀ h ∈ s.held, ∀ h' ∈ s.held,
    h.stage = .triaging → h'.stage = .triaging → h.msg = h'.msg → h = h'))

instance (config : WorkerConfig) (s : Cluster) (a : ClusterStep) :
    Decidable (InWindow config s a) :=
  inferInstanceAs (Decidable (∀ h ∈ s.held,
    s.now + a.duration < h.deliveredAt + config.ackWaitSeconds * second))

/-- A message that is held is held once, under its last delivery, and neither
settled nor given back. -/
structure HeldOnce (s : Cluster) : Prop where
  nodup : (s.held.map Held.msg).Nodup
  current : ∀ h ∈ s.held, (s.record h.msg).lastDelivered = h.deliveredAt ∧
    0 < (s.record h.msg).deliveries ∧ (s.record h.msg).nakked = false

theorem HeldOnce.oneAtATime {s : Cluster} (h : HeldOnce s) : OneAtATime s :=
  fun _ h1 _ h2 _ _ hm => List.inj_on_of_nodup_map h.nodup h1 h2 hm

theorem HeldOnce.of_held {s s' : Cluster} (h : HeldOnce s)
    (hsub : s'.held.Sublist s.held) (hrec : s'.record = s.record) :
    HeldOnce s' where
  nodup := h.nodup.sublist (hsub.map Held.msg)
  current x hx := by
    rw [hrec]
    exact h.current x (hsub.subset hx)

theorem HeldOnce.move {s : Cluster} (h : HeldOnce s) (ticket : ℕ)
    (stage : Stage) : HeldOnce (s.move ticket stage) where
  nodup := by
    have hmsg : (s.move ticket stage).held.map Held.msg = s.held.map Held.msg := by
      rw [Cluster.move, List.map_map]
      refine List.map_congr_left fun x _ => ?_
      dsimp only [Function.comp]
      split <;> rfl
    rw [hmsg]
    exact h.nodup
  current x hx := by
    obtain ⟨y, hy, rfl⟩ := List.mem_map.mp hx
    have hcur := h.current y hy
    split
    · exact hcur
    · exact hcur

theorem map_msg_handOut (worker now : ℕ) : ∀ (n : ℕ) (msgs : List ℕ),
    (handOut worker now n msgs).map Held.msg = msgs
  | _, [] => rfl
  | n, m :: ms => by
      rw [handOut, List.map_cons, map_msg_handOut worker now (n + 1) ms]

theorem deliveredAt_handOut {worker now : ℕ} {h : Held} :
    ∀ {n : ℕ} {msgs : List ℕ}, h ∈ handOut worker now n msgs →
      h.deliveredAt = now ∧ h.msg ∈ msgs
  | n, m :: ms, hm => by
      rcases List.mem_cons.mp hm with rfl | hm
      · exact ⟨rfl, List.mem_cons_self⟩
      · obtain ⟨ht, hmem⟩ := deliveredAt_handOut hm
        exact ⟨ht, List.mem_cons_of_mem _ hmem⟩

/-- **JetStream does not hand out a message that a worker holds in its
window.** -/
theorem not_due_of_held {config : WorkerConfig} {s : Cluster} {h : Held}
    (hs : HeldOnce s) (hh : h ∈ s.held)
    (hw : s.now < h.deliveredAt + config.ackWaitSeconds * second) :
    (s.record h.msg).due config s.now = false := by
  obtain ⟨hlast, hpos, hnak⟩ := hs.current h hh
  have hne : (s.record h.msg).deliveries ≠ 0 := by omega
  have hlt : ¬ (s.record h.msg).lastDelivered +
      config.ackWaitSeconds * second ≤ s.now := by omega
  simp [MsgRecord.due, hnak, hne, hlt]

theorem HeldOnce.fetch {config : WorkerConfig} {s : Cluster} (hs : HeldOnce s)
    {worker : ℕ} {msgs : List ℕ} (hw : InWindow config s (.fetch worker msgs))
    (hnodup : msgs.Nodup)
    (hdue : ∀ m ∈ msgs, (s.record m).due config s.now = true) :
    HeldOnce { s with
      record := s.deliver msgs
      held := s.held ++ handOut worker s.now s.nextTicket msgs
      nextTicket := s.nextTicket + msgs.length } := by
  have hfree : ∀ h ∈ s.held, h.msg ∉ msgs := by
    intro h hh hm
    have hno := not_due_of_held hs hh (hw h hh)
    rw [hdue h.msg hm] at hno
    exact absurd hno (by simp)
  refine ⟨?_, fun h hh => ?_⟩
  · rw [List.map_append, map_msg_handOut]
    apply List.Nodup.append hs.nodup hnodup
    intro m hm hm'
    obtain ⟨h, hh, rfl⟩ := List.mem_map.mp hm
    exact hfree h hh hm'
  · rcases List.mem_append.mp hh with hh | hh
    · simpa [Cluster.deliver, hfree h hh] using hs.current h hh
    · obtain ⟨ht, hm⟩ := deliveredAt_handOut hh
      simp [Cluster.deliver, hm, ht]

theorem HeldOnce.settle {s : Cluster} (hs : HeldOnce s) (ticket : ℕ)
    (how : Settlement) (applied : Bool) :
    HeldOnce { s with
      record := fun m =>
        if applied && s.held.any (fun h => h.ticket == ticket && h.msg == m)
        then (s.record m).settle how else s.record m
      held := s.held.filter fun h => h.ticket != ticket } := by
  refine ⟨hs.nodup.sublist (List.filter_sublist.map Held.msg), fun h hh => ?_⟩
  obtain ⟨hh, hne⟩ := List.mem_filter.mp hh
  have hkeep : (s.held.any fun h' => h'.ticket == ticket && h'.msg == h.msg) =
      false := by
    rw [List.any_eq_false]
    intro h' hh' heq
    simp only [Bool.and_eq_true, beq_iff_eq] at heq
    obtain rfl := List.inj_on_of_nodup_map hs.nodup hh' hh heq.2
    simp [heq.1] at hne
  simpa [hkeep] using hs.current h hh

/-- **One step**: within the windows, held messages stay held once. -/
theorem HeldOnce.step {config : WorkerConfig} {s s' : Cluster} {a : ClusterStep}
    (hs : HeldOnce s) (hw : InWindow config s a)
    (h : clusterStep config s a = some s') : HeldOnce s' := by
  cases a with
  | tick d =>
      obtain rfl := Option.some.inj h
      exact hs.of_held (List.Sublist.refl _) rfl
  | fetch worker msgs =>
      simp only [clusterStep, Option.ite_none_right_eq_some, Bool.and_eq_true,
        decide_eq_true_eq, List.all_eq_true, Option.some.injEq] at h
      obtain ⟨⟨⟨-, hnodup⟩, hdue⟩, rfl⟩ := h
      exact hs.fetch hw hnodup hdue
  | acquire worker ticket =>
      simp only [clusterStep, Option.ite_none_right_eq_some,
        Option.some.injEq] at h
      obtain ⟨-, rfl⟩ := h
      exact hs.move ticket .dispatched
  | begin ticket =>
      simp only [clusterStep, Option.ite_none_right_eq_some,
        Option.some.injEq] at h
      obtain ⟨-, rfl⟩ := h
      exact hs.move ticket .triaging
  | finish ticket =>
      simp only [clusterStep, Option.ite_none_right_eq_some,
        Option.some.injEq] at h
      obtain ⟨-, rfl⟩ := h
      exact hs.move ticket .triaged
  | settle ticket how applied =>
      simp only [clusterStep, Option.ite_none_right_eq_some,
        Option.some.injEq] at h
      obtain ⟨-, rfl⟩ := h
      exact hs.settle ticket how applied
  | crash worker =>
      obtain rfl := Option.some.inj h
      exact hs.of_held List.filter_sublist rfl

/-- **One investigation at a time**: in every run in which no worker holds a
message beyond its ack window, no two triages of a message ever overlap. -/
theorem one_investigation {config : WorkerConfig} {s : Cluster}
    (h : (clusterSystem config).Reached (InWindow config) s) :
    OneAtATime s := by
  refine HeldOnce.oneAtATime (h.invariant (P := HeldOnce) ?_ ?_)
  · rintro s ⟨hheld, -⟩
    exact ⟨by simp [hheld], by simp [hheld]⟩
  · exact fun s a s' hs hw hstep => hs.step hw hstep

/-- A worker begins the triage of message 7, and most of a minute passes. -/
def quickStart : List ClusterStep :=
  [.fetch 0 [7], .acquire 0 0, .begin 0, .tick (59 * second)]

theorem one_investigation_quick :
    ∃ s, (clusterSystem .default).run .fresh quickStart = some s ∧
      OneAtATime s := by
  have h0 : (clusterSystem .default).Reached (InWindow .default) .fresh :=
    .start ⟨rfl, fun _ => rfl⟩
  have h1 := h0.step (a := .fetch 0 [7]) (by decide) rfl
  have h2 := h1.step (a := .acquire 0 0) (by decide) rfl
  have h3 := h2.step (a := .begin 0) (by decide) rfl
  have h4 := h3.step (a := .tick (59 * second)) (by decide) rfl
  exact ⟨_, rfl, one_investigation h4⟩

/-- The triage takes a minute, and another worker begins the same one. -/
theorem investigated_twice :
    ∃ s, (clusterSystem .default).run .fresh
        [.fetch 0 [7], .acquire 0 0, .begin 0, .tick (60 * second),
          .fetch 1 [7], .acquire 1 1, .begin 1] = some s ∧ ¬ OneAtATime s :=
  ⟨_, rfl, by decide⟩

end AlertTriage
