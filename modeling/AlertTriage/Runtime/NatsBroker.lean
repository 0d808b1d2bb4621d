import AlertTriage.Runtime.World

/-!
# `services/_runtime/nats_broker.py`

Subject names and the publishing client. `publish` connects lazily, and turns
every failure of the connection or of the call into the answer `False`; only
the end of the process passes through it.
-/

namespace AlertTriage

open Library

/-! ## §1  Subjects -/

def schemaVersionTag : String := "v1"

def subjAlert (tenantId source alertId : String) : String :=
  "alerts." ++ schemaVersionTag ++ "." ++ tenantId ++ "." ++ source ++ "." ++
    alertId

def subjTriageEvent (tenantId alertId phase : String) : String :=
  "triage.events." ++ schemaVersionTag ++ "." ++ tenantId ++ "." ++ alertId ++
    "." ++ phase

def subjDlq (tenantId originStream alertId : String) : String :=
  "dlq." ++ schemaVersionTag ++ "." ++ tenantId ++ "." ++ originStream ++ "." ++
    alertId

/-- The retention of the ALERTS stream, in seconds. -/
def alertsMaxAgeSeconds : ℕ := 24 * 60 * 60

/-! ## §2  The client -/

def natsError : PyExn := .other "nats"

/-- How the two outside calls of one `publish` end. -/
structure PublishEnv where
  connect : Outcome
  send : Outcome
deriving DecidableEq, Repr

def World.setConn (c : Connection) (w : World) : World := { w with conn := c }

@[simp] theorem World.setConn_log (c : Connection) (w : World) :
    (w.setConn c).log = w.log := rfl

@[simp] theorem World.setConn_redis (c : Connection) (w : World) :
    (w.setConn c).redis = w.redis := rfl

@[simp] theorem World.setConn_now (c : Connection) (w : World) :
    (w.setConn c).now = w.now := rfl

/-- `NatsBroker.connect`: a failed attempt leaves the client disconnected. -/
def connect (o : Outcome) : Io Unit := fun w =>
  if w.conn.connected then (.ok (), w)
  else
    match o with
    | .returned => (.ok (), w.setConn ⟨true, true⟩)
    | .raised _ => (.ok (), w)
    | .killed _ => (.error .kill, w)

/-- The headers of a published message: `Nats-Msg-Id` unless the id is empty,
then the caller's. -/
def allHeaders (msgId : Option String) (headers : List (String × String)) :
    List (String × String) :=
  let own := match msgId with
    | some id => if id = "" then [] else [("Nats-Msg-Id", id)]
    | none => []
  own.filter (fun h => headers.all fun h' => h'.1 != h.1) ++ headers

/-- The publishing call itself: JetStream stores the message and acknowledges
it, core NATS just sends it. -/
def send (o : Outcome) (msgId : Option String) (msg : NatsMsg)
    (awaitAck : Bool) : Io Unit :=
  if awaitAck then
    Run.call o natsError (World.record (.stored msgId msg (o = .returned)))
      fun _ => ()
  else Run.call o natsError (World.record (.sent msg)) fun _ => ()

/-- `NatsBroker.publish`. -/
def publish (e : PublishEnv) (subject : String) (payload : Body)
    (msgId : Option String) (headers : List (String × String))
    (awaitAck : Bool) : Io Bool := do
  connect e.connect
  let w ← Run.get
  if !w.conn.connected || !w.conn.js then
    return false
  else
    Run.tryExcept
      (do
        send e.send msgId ⟨subject, payload, allHeaders msgId headers⟩ awaitAck
        return true)
      (fun _ => return false)

/-- `publish` under a subject of any type: nothing but a string can be sent,
and the client's exception is the answer `False` like any other. -/
def publishJson (e : PublishEnv) (subject : Json) (payload : Body)
    (msgId : Option String) (headers : List (String × String))
    (awaitAck : Bool) : Io Bool :=
  match subject with
  | .str s => publish e s payload msgId headers awaitAck
  | _ => do
      connect e.connect
      return false

/-! ## §3  What a publish does -/

/-- The client holds a connection once `publish` has tried to make one. -/
def PublishEnv.reaches (e : PublishEnv) (c : Connection) : Bool :=
  if c.connected then c.js else e.connect = .returned

/-- The client after that attempt. -/
def PublishEnv.connAfter (e : PublishEnv) (c : Connection) : Connection :=
  if c.connected then c else if e.connect = .returned then ⟨true, true⟩ else c

/-- The process dies while publishing. -/
def PublishEnv.dies (e : PublishEnv) (c : Connection) : Bool :=
  (!c.connected && e.connect.kills) || (e.reaches c && e.send.kills)

/-- The message takes effect at the broker. -/
def PublishEnv.delivers (e : PublishEnv) (c : Connection) : Bool :=
  e.reaches c && e.send.applied

/-- The publisher learns that it did. -/
def PublishEnv.confirms (e : PublishEnv) (c : Connection) : Bool :=
  e.reaches c && e.send = .returned

def publishEvent (msgId : Option String) (msg : NatsMsg) (awaitAck : Bool)
    (o : Outcome) : Event :=
  if awaitAck then .stored msgId msg (o = .returned) else .sent msg

/-- The world after a publish: one event if the message took effect. -/
def World.afterPublish (e : PublishEnv) (msgId : Option String)
    (msg : NatsMsg) (awaitAck : Bool) (w : World) : World :=
  let w' := w.setConn (e.connAfter w.conn)
  if e.delivers w.conn then
    w'.record (publishEvent msgId msg awaitAck e.send)
  else w'

@[simp] theorem World.afterPublish_conn (e : PublishEnv)
    (msgId : Option String) (msg : NatsMsg) (awaitAck : Bool) (w : World) :
    (w.afterPublish e msgId msg awaitAck).conn = e.connAfter w.conn := by
  unfold World.afterPublish
  dsimp only
  split <;> rfl

/-- **What `publish` does**: it answers whether the broker confirmed, unless
the process dies; the world changes by the one event. -/
theorem publish_spec (e : PublishEnv) (subject : String) (payload : Body)
    (msgId : Option String) (headers : List (String × String))
    (awaitAck : Bool) (w : World) :
    publish e subject payload msgId headers awaitAck w =
      (if e.dies w.conn then .error .kill else .ok (e.confirms w.conn),
        w.afterPublish e msgId ⟨subject, payload, allHeaders msgId headers⟩
          awaitAck) := by
  obtain ⟨now, redis, ⟨connected, js⟩, cache, seq, mem, log⟩ := w
  obtain ⟨c, s⟩ := e
  cases connected <;> cases js <;> cases awaitAck <;>
    rcases c with _ | b | b <;> rcases s with _ | b' | b' <;> rfl

def PublishEnv.diesJson (e : PublishEnv) (subject : Json) (c : Connection) :
    Bool :=
  match subject with
  | .str _ => e.dies c
  | _ => !c.connected && e.connect.kills

def PublishEnv.confirmsJson (e : PublishEnv) (subject : Json)
    (c : Connection) : Bool :=
  match subject with
  | .str _ => e.confirms c
  | _ => false

def World.afterPublishJson (e : PublishEnv) (subject : Json) (payload : Body)
    (msgId : Option String) (headers : List (String × String))
    (awaitAck : Bool) (w : World) : World :=
  match subject with
  | .str s =>
      w.afterPublish e msgId ⟨s, payload, allHeaders msgId headers⟩ awaitAck
  | _ => w.setConn (e.connAfter w.conn)

theorem connect_spec (e : PublishEnv) (w : World) :
    connect e.connect w =
      (if !w.conn.connected && e.connect.kills then .error .kill else .ok (),
        w.setConn (e.connAfter w.conn)) := by
  obtain ⟨now, redis, ⟨connected, js⟩, cache, seq, mem, log⟩ := w
  obtain ⟨c, s⟩ := e
  cases connected <;> rcases c with _ | b | b <;> rfl

theorem publishJson_spec (e : PublishEnv) (subject : Json) (payload : Body)
    (msgId : Option String) (headers : List (String × String))
    (awaitAck : Bool) (w : World) :
    publishJson e subject payload msgId headers awaitAck w =
      (if e.diesJson subject w.conn then .error .kill
        else .ok (e.confirmsJson subject w.conn),
        w.afterPublishJson e subject payload msgId headers awaitAck) := by
  cases subject with
  | str s => exact publish_spec e s payload msgId headers awaitAck w
  | _ =>
      simp only [publishJson, PublishEnv.diesJson, PublishEnv.confirmsJson,
        World.afterPublishJson, Run.bind_apply, connect_spec]
      by_cases h : (!w.conn.connected && e.connect.kills) = true
      · simp [h]
      · simp [h]

end AlertTriage
