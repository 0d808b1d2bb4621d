import AlertTriage.Library.TtlStore

/-!
# The durable object of an analyst

One object owns the websocket of one analyst. It keeps in memory the session of
the redeemed ticket, the alerts being watched and the timers of the cancels that
a close has scheduled; all of this is gone when the object is evicted, while a
hibernated socket may stay.

A handler runs from one await to the next. What it leaves in memory and what it
does outside (`Event`) is a pair here; a `watch` message under way is kept in
`watches` until its snapshot and then its registration have come back.
-/

namespace AlertTriage.Gateway

open Library

/-! ## §1  Messages -/

structure TicketRedemption where
  user_id : String
  tenant_id : String
  role : Option String
deriving DecidableEq, Repr

structure WatchRegistration where
  do_id : String
  user_id : String
  tenant_id : String
  alert_id : String
  push_url : String
deriving DecidableEq, Repr

/-- The requests of the object to `/api/internal/…` of the BFF. -/
inductive Post where
  | watch (registration : WatchRegistration)
  | unwatch (do_id alert_id : String)
  | disconnect (do_id user_id : String)
  | cancel (do_id tenant_id user_id alert_id : String)
deriving DecidableEq, Repr

inductive TriageEvent where
  | phase (alert_id tenant_id : String) (event_seq : ℕ) (phase : String)
  | token (alert_id tenant_id : String) (event_seq : ℕ) (node text : String)
deriving DecidableEq, Repr

/-- The body of a push; a field may be missing. -/
inductive PushEnvelope where
  | phase (event : Option TriageEvent)
  | token (event : Option TriageEvent)
  | cancel (alert_id : Option String)
  | revoked
  | unknown
deriving DecidableEq, Repr

inductive ClientMessage where
  | watch (alert_id : String)
  | unwatch (alert_id : String)
  | ping
  | unknown
deriving DecidableEq, Repr

structure Snapshot where
  last_seq : ℕ
  current_phase : Option String
deriving DecidableEq, Repr

inductive ServerMessage where
  | snapshot (alert_id : String) (s : Snapshot)
  | event (e : TriageEvent)
  | revoked
  | error (code : String)
  | pong
deriving DecidableEq, Repr

/-- What happens at an object, as far as others can see it. -/
inductive Event where
  | accepted (do_id ticket : String) (session : TicketRedemption)
  | sent (do_id : String) (frame : ServerMessage)
  | pushed (do_id : String) (envelope : PushEnvelope)
  | closed (do_id : String)
  | posted (p : Post)
deriving DecidableEq, Repr

/-! ## §2  The memory of an object -/

inductive WatchStage where
  | snapshot
  | registration
deriving DecidableEq, Repr

structure AnalystSession where
  ticket : Option TicketRedemption
  watchedAlerts : List String
  /-- The alerts with a timer, and when it is due. -/
  pendingCancels : List (String × ℕ)
  watches : List (String × WatchStage)
  sockets : ℕ

/-- A new object, and one that has lost its memory. -/
def AnalystSession.fresh (sockets : ℕ) : AnalystSession := ⟨none, [], [], [], sockets⟩

/-- `CANCEL_GRACE_MS`, in microseconds. -/
def cancelGrace : ℕ := 5 * second

abbrev Handler : Type := AnalystSession → AnalystSession × List Event

namespace AnalystSession

def hasPending (o : AnalystSession) (alertId : String) : Bool :=
  (o.pendingCancels.map Prod.fst).contains alertId

def scheduleCancel (now : ℕ) (o : AnalystSession) (alertId : String) :
    AnalystSession :=
  if o.ticket = none ∨ o.hasPending alertId = true then o
  else { o with pendingCancels := o.pendingCancels ++ [(alertId, now + cancelGrace)] }

def cancelScheduledCancel (alertId : String) (o : AnalystSession) : AnalystSession :=
  { o with pendingCancels := o.pendingCancels.filter fun p => p.1 ≠ alertId }

/-! ## §3  Handlers -/

/-- The end of `handleUpgrade`, once the ticket is redeemed. -/
def accept (doId ticket : String) (session : TicketRedemption) : Handler := fun o =>
  ({ o with ticket := some session, sockets := o.sockets + 1 },
    [.accepted doId ticket session])

/-- `handleWatch` up to the snapshot. -/
def handleWatch (alertId : String) : Handler := fun o =>
  if o.ticket = none ∨ alertId ∈ o.watchedAlerts then (o, [])
  else
    let o := o.cancelScheduledCancel alertId
    ({ o with watches := o.watches ++ [(alertId, .snapshot)] }, [])

/-- `handleWatch` from the snapshot to the registration. -/
def afterSnapshot (doId pushUrl : String) (i : ℕ) (alertId : String)
    (snapshot : Option Snapshot) : Handler := fun o =>
  match snapshot, o.ticket with
  | none, _ =>
      ({ o with watches := o.watches.eraseIdx i },
        [.sent doId (.error "snapshot_failed")])
  | some snapshot, none =>
      -- the session is read again: without one the handler ends here
      ({ o with watches := o.watches.eraseIdx i },
        [.sent doId (.snapshot alertId snapshot)])
  | some snapshot, some session =>
      ({ o with watches := o.watches.set i (alertId, .registration) },
        [.sent doId (.snapshot alertId snapshot),
          .posted (.watch
            { do_id := doId
              user_id := session.user_id
              tenant_id := session.tenant_id
              alert_id := alertId
              push_url := pushUrl })])

/-- `handleWatch` after the registration. -/
def afterRegistration (doId : String) (i : ℕ) (alertId : String) (ok : Bool) :
    Handler := fun o =>
  let o := { o with watches := o.watches.eraseIdx i }
  if ok then
    (if alertId ∈ o.watchedAlerts then o
      else { o with watchedAlerts := o.watchedAlerts ++ [alertId] }, [])
  else (o, [.sent doId (.error "registration_failed")])

def handleUnwatch (doId alertId : String) : Handler := fun o =>
  if alertId ∉ o.watchedAlerts ∨ o.ticket = none then (o, [])
  else
    ({ o with watchedAlerts := o.watchedAlerts.filter (· ≠ alertId) },
      [.posted (.unwatch doId alertId)])

/-- `webSocketMessage`; the message is absent when the text is no JSON. -/
def webSocketMessage (doId : String) (msg : Option ClientMessage) : Handler := fun o =>
  match msg with
  | none => (o, [.sent doId (.error "invalid_json")])
  | some msg =>
      if o.ticket = none then (o, [.sent doId (.error "session_not_initialised")])
      else match msg with
        | .watch alertId => handleWatch alertId o
        | .unwatch alertId => handleUnwatch doId alertId o
        | .ping => (o, [.sent doId .pong])
        | .unknown => (o, [.sent doId (.error "unknown_type")])

/-- `webSocketClose`, and `webSocketError`, which calls it. -/
def webSocketClose (now : ℕ) (doId : String) : Handler := fun o =>
  let scheduled := o.watchedAlerts.foldl (scheduleCancel now) o
  ({ scheduled with watchedAlerts := [], sockets := o.sockets - 1 },
    .closed doId :: match o.ticket with
      | some session => [.posted (.disconnect doId session.user_id)]
      | none => [])

/-- The frame that a push becomes, or the status of its refusal. -/
def pushFrame (ticket : Option TicketRedemption) :
    PushEnvelope → Except ℕ ServerMessage
  | .phase (some e) => .ok (.event e)
  | .token (some e) => .ok (.event e)
  | .cancel (some alertId) =>
      .ok (.event (.phase alertId ((ticket.map TicketRedemption.tenant_id).getD "") 0
        "cancelled"))
  | .revoked => .ok .revoked
  | _ => .error 400

/-- `handlePush` after the token check; the envelope is absent when the body is
no JSON. -/
def handlePush (doId : String) (envelope : Option PushEnvelope) (o : AnalystSession) :
    ℕ × List Event :=
  match envelope with
  | none => (400, [])
  | some envelope =>
      if o.sockets = 0 then (410, [])
      else match pushFrame o.ticket envelope with
        | .error status => (status, [])
        | .ok frame => (204, [.pushed doId envelope, .sent doId frame])

/-- `fireCancel`, when the timer is due. -/
def fireCancel (doId alertId : String) : Handler := fun o =>
  match o.ticket with
  | none => (o, [])
  | some session =>
      (o.cancelScheduledCancel alertId,
        [.posted (.cancel doId session.tenant_id session.user_id alertId)])

/-! ## §4  What scheduling leaves alone -/

/-- Scheduling only adds timers. -/
theorem scheduleCancel_eq (now : ℕ) (o : AnalystSession) (alertId : String) :
    ∃ pending, scheduleCancel now o alertId = { o with pendingCancels := pending } := by
  unfold scheduleCancel
  split
  · exact ⟨o.pendingCancels, rfl⟩
  · exact ⟨_, rfl⟩

theorem foldl_scheduleCancel_eq (now : ℕ) (alertIds : List String)
    (o : AnalystSession) : ∃ pending,
      alertIds.foldl (scheduleCancel now) o = { o with pendingCancels := pending } := by
  induction alertIds generalizing o with
  | nil => exact ⟨o.pendingCancels, rfl⟩
  | cons a alertIds ih =>
      obtain ⟨pending, h⟩ := scheduleCancel_eq now o a
      rw [List.foldl_cons, h]
      exact ih _

end AnalystSession

end AlertTriage.Gateway
