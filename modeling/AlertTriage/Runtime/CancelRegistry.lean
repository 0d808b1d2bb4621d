import AlertTriage.Runtime.TriageWorker

/-!
# `services/_runtime/cancel.py`

How the cancel flag of an alert comes to be set: a request leaves a pending
mark, and a timer that nobody stopped turns the mark into the flag. The timers
themselves are the scheduler's; here is what each call does to Redis.
-/

namespace AlertTriage

open Library

def cancelPendingKey (alertId : String) : String := "cancel_pending:" ++ alertId

def defaultGraceSec : ℕ := 5

def cancelledTtlSec : ℕ := 24 * 60 * 60

/-- How the outside calls of `_fire_after_grace` end. -/
structure FireEnv where
  getPending : Outcome
  setCancelled : Outcome
  deletePending : Outcome
deriving DecidableEq, Repr

/-- `request_cancel`: was a timer started? -/
def requestCancel (hasClient : Bool) (graceSeconds : ℕ) (o : Outcome)
    (alertId : String) : Io Bool :=
  if !hasClient then return false
  else
    Run.tryExcept
      (do
        redisSetEx o (cancelPendingKey alertId) (graceSeconds + 5) (.text "1")
        return true)
      (fun _ => return false)

/-- `revoke_cancel`, once the timer is stopped. -/
def revokeCancel (hasClient : Bool) (o : Outcome) (alertId : String) : Io Unit :=
  if !hasClient then return ()
  else
    Run.tryExcept (redisDelete o [cancelPendingKey alertId]) (fun _ => return ())

/-- `_fire_after_grace`, once the timer has run out. -/
def fireAfterGrace (hasClient : Bool) (e : FireEnv) (alertId : String) :
    Io Unit :=
  if !hasClient then return ()
  else
    Run.tryExcept
      (do
        let stillPending ← redisGet e.getPending (cancelPendingKey alertId)
        if stillPending.map RedisValue.toText ≠ some "1" then return ()
        else
          redisSetEx e.setCancelled (cancelledKey alertId) cancelledTtlSec
            (.text "1")
          redisDelete e.deletePending [cancelPendingKey alertId])
      (fun _ => return ())

/-- **A cancel that is not revoked takes effect**: with Redis up, a request and
its timer leave the flag that the workers read. The pending mark outlives the
timer by five seconds. -/
theorem cancelled_after_grace (graceSeconds : ℕ) (alertId : String) (w : World) :
    let requested := (requestCancel true graceSeconds .returned alertId w).2
    let due := requested.advance (graceSeconds * second)
    ((fireAfterGrace true ⟨.returned, .returned, .returned⟩ alertId due).2.lookup
      (cancelledKey alertId)).map RedisValue.toText = some "1" := by
  intro requested due
  have hpending : due.lookup (cancelPendingKey alertId) = some (.text "1") := by
    have hlive : graceSeconds * second < (graceSeconds + 5) * second :=
      Nat.mul_lt_mul_of_pos_right (by omega) (by decide)
    show TtlStore.get (w.now + graceSeconds * second) (cancelPendingKey alertId)
      (TtlStore.setEx w.now (cancelPendingKey alertId) _ _ w.redis) = _
    simp [TtlStore.get, TtlStore.setEx, Entry.live, hlive]
  have hfire : (fireAfterGrace true ⟨.returned, .returned, .returned⟩ alertId
      due).2 = (due.setEx (cancelledKey alertId) (.text "1")
        (cancelledTtlSec * second)).delete [cancelPendingKey alertId] := by
    simp [fireAfterGrace, Run.tryExcept, Run.bind_apply, redisGet, Run.call,
      hpending, redisSetEx, redisDelete]
    rfl
  have hne : cancelledKey alertId ∉ [cancelPendingKey alertId] := by
    intro hmem
    have h' := congrArg String.toList (List.mem_singleton.mp hmem)
    simp only [cancelledKey, cancelPendingKey, String.toList_append] at h'
    have h6 := congrArg (fun l => l[6]?) h'
    simp at h6
  rw [hfire, World.lookup_delete_of_notMem hne,
    World.lookup_setEx (by decide)]
  rfl

end AlertTriage
