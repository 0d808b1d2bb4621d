import AlertTriage.Bff.RegistryRuns
import AlertTriage.Gateway.Sessions
import AlertTriage.Gateway.SnapshotUrls
import AlertTriage.Runtime.NatsBroker

/-!
# The feed of an alert

From the worker that numbers a phase event to the websocket it is handed to:
the sequence numbers in Redis, the broker, the loops of any number of BFF
processes that share the queue group, the watcher registry, the durable objects
with their snapshots and registrations, and every request between them.

Each await of each party is a step of its own, so the steps interleave in every
way; a label says what the environment decides, among it whether a call arrives
and what its caller is told. The objects and the registry are those of
`Sessions` and `Registry`, and the programs of the BFF those of the fan-out.

§1 messages, §2 what an object reads, §3 the parties, §4 steps.
-/

namespace AlertTriage.Live

open Library Bff Gateway

/-! ## §1  Messages -/

/-- A message about an alert: a phase event of a worker, or the cancel that the
BFF publishes for an object. -/
inductive Message where
  | phase (event : PhaseEvent)
  | cancel (tenantId alertId userId requestedAt : String)
deriving DecidableEq, Repr

def Message.subscription : Message → Subscription
  | .phase _ => .events
  | .cancel .. => .cancel

def Message.subject : Message → String
  | .phase e => subjTriageEvent e.tenantId e.alertId e.phase.value
  | .cancel tenantId alertId _ _ => "triage.cancel.v1." ++ tenantId ++ "." ++ alertId

/-- The body, as `JSON.parse` has it. -/
def Message.body : Message → Json
  | .phase e => e.modelDump
  | .cancel tenantId alertId userId requestedAt =>
      .obj [("alert_id", .str alertId), ("tenant_id", .str tenantId),
        ("user_id", .str userId), ("reason", .str "ws_closed"),
        ("requested_at", .str requestedAt)]

def Message.alertId : Message → String
  | .phase e => e.alertId
  | .cancel _ alertId _ _ => alertId

structure LoopId where
  process : ℕ
  subscription : Subscription
deriving DecidableEq, Repr

/-- A message with its place in publication order and the process of the queue
group that it goes to. -/
structure Delivery where
  index : ℕ
  process : ℕ
  message : Message
deriving DecidableEq, Repr

/-- The `subscribeForever` that takes the message. -/
def Delivery.loop (δ : Delivery) : LoopId := ⟨δ.process, δ.message.subscription⟩

/-! ## §2  What an object reads -/

def textField (key : String) (j : Json) : Option String :=
  match fieldOf key j with
  | some (.str s) => some s
  | _ => none

/-- An event of the schema. -/
def readEvent (j : Json) : Option TriageEvent := do
  let alertId ← textField "alert_id" j
  let tenantId ← textField "tenant_id" j
  let seq ← match fieldOf "event_seq" j with
    | some (.int i) => some i.toNat
    | _ => none
  match textField "kind" j with
  | some "token" => do
      let node ← textField "node" j
      let text ← textField "text" j
      some (.token alertId tenantId seq node text)
  | _ => do
      let phase ← textField "phase" j
      some (.phase alertId tenantId seq phase)

/-- The envelope in the body of a push. -/
def readEnvelope (j : Json) : PushEnvelope :=
  match textField "kind" j with
  | some "phase" => .phase ((fieldOf "event" j).bind readEvent)
  | some "token" => .token ((fieldOf "event" j).bind readEvent)
  | some "cancel" => .cancel ((fieldOf "cancel" j).bind (textField "alert_id"))
  | some "revoked" => .revoked
  | _ => .unknown

/-- A phase event as the frame of an object has it. -/
def triageEvent (e : PhaseEvent) : TriageEvent :=
  .phase e.alertId e.tenantId e.eventSeq e.phase.value

theorem readEvent_modelDump (e : PhaseEvent) :
    readEvent e.modelDump = some (triageEvent e) := by
  have hkind : textField "kind" e.modelDump = some "phase" := rfl
  unfold readEvent
  rw [hkind]
  rfl

/-- **An event comes through**: what the fan-out sends is read as the event. -/
theorem readEnvelope_phase (e : PhaseEvent) (alertId : Json) :
    readEnvelope (envelopeOf .phaseOrToken e.modelDump alertId) =
      .phase (some (triageEvent e)) := by
  show PushEnvelope.phase (readEvent e.modelDump) = _
  rw [readEvent_modelDump]

/-! ## §3  The parties -/

def seqKey (alertId : String) : String := "seq:" ++ alertId

/-- `_DEFAULT_TTL_SEC` of the sequencer. -/
def seqTtlSec : ℕ := 24 * 60 * 60

/-- `next_seq`: `INCR` and then `EXPIRE`. -/
def nextSeq (now : ℕ) (alertId : String) (seqs : TtlStore ℕ) : ℕ × TtlStore ℕ :=
  let seq := (seqs.get now (seqKey alertId)).getD 0 + 1
  (seq, seqs.setEx now (seqKey alertId) seq (seqTtlSec * second))

/-- `current_seq`. -/
def currentSeq (now : ℕ) (alertId : String) (seqs : TtlStore ℕ) : ℕ :=
  (seqs.get now (seqKey alertId)).getD 0

/-- How far a loop is with a message. -/
inductive Work where
  | begun
  | lookup (x : Bff.Task (List Push))
  | pushes (ps : List (Push × Bff.Task Unit))

/-- A loop has the messages that have come for it, and works on one at a time. -/
structure Loop where
  queue : List Delivery
  current : Option (Delivery × Work)

/-- What a client has been promised by a snapshot, for as long as its object
stays connected and registered, or on the way to it. -/
structure View where
  doId : String
  tenantId : String
  alertId : String
  lastSeq : ℕ
  registered : Bool
deriving DecidableEq, Repr

structure Handed where
  doId : String
  delivery : Delivery
deriving DecidableEq, Repr

structure Feed where
  sessions : Sessions
  registry : Registry
  seqs : TtlStore ℕ
  /-- The events that have a number and are not published yet. -/
  numbered : List PhaseEvent
  /-- How many messages have been published. -/
  published : ℕ
  loops : LoopId → Loop
  /-- The messages whose watchers have been asked for. -/
  lookedUp : List Delivery
  finished : List Delivery
  /-- The requests of the objects, with what is left of their programs. -/
  posts : List (Post × Bff.Task Response)
  /-- The snapshots on their way to an object: for which alert, and what. -/
  answers : List (String × String × Snapshot)
  /-- What the objects have handed to their sockets, in this order. -/
  handed : List Handed
  /-- The attempts that handed a message over and failed all the same. -/
  lost : List Handed
  views : List View

def Feed.start : Feed where
  sessions := Sessions.start
  registry := Registry.empty
  seqs := ∅
  numbered := []
  published := 0
  loops := fun _ => ⟨[], none⟩
  lookedUp := []
  finished := []
  posts := []
  answers := []
  handed := []
  lost := []
  views := []

structure Deployment where
  platform : Platform
  isUrl : String → Bool
  numText : Json → String

section Programs

variable (D : Deployment)

/-- The handler of a message. -/
def Delivery.program (δ : Delivery) : Bff.Task (List Push) :=
  δ.message.subscription.handler D.numText δ.message.subject (some δ.message.body)

def watchBody (w : WatchRegistration) : Json :=
  .obj [("do_id", .str w.do_id), ("user_id", .str w.user_id),
    ("tenant_id", .str w.tenant_id), ("alert_id", .str w.alert_id),
    ("push_url", .str w.push_url)]

/-- The route of a request of an object. A cancel is a message of its own. -/
def postProgram (claims : Except Response String) : Post → Option (Bff.Task Response)
  | .watch w => some (postWatch D.isUrl claims (some (watchBody w)))
  | .unwatch doId alertId =>
      some (postUnwatch claims
        (some (.obj [("do_id", .str doId), ("alert_id", .str alertId)])))
  | .disconnect doId userId =>
      some (postDisconnect claims
        (some (.obj [("do_id", .str doId), ("user_id", .str userId)])))
  | .cancel .. => none

def Post.doId : Post → String
  | .watch w => w.do_id
  | .unwatch doId _ => doId
  | .disconnect doId _ => doId
  | .cancel doId _ _ _ => doId

/-- The tenant of the token that an object signs for its requests. -/
def tokenTenant (o : AnalystSession) : String :=
  (o.ticket.map TicketRedemption.tenant_id).getD "anon"

/-- The requests that the objects have posted in these events. -/
def newPosts (s : Sessions) (es : List Gateway.Event) : List (Post × Bff.Task Response) :=
  es.filterMap fun
    | .posted q =>
        (postProgram D (.ok (tokenTenant (s.objects (Post.doId q)))) q).map fun x => (q, x)
    | _ => none

end Programs

/-! ## §4  Steps -/

inductive Label where
  /-- A step of the objects that needs nothing from the BFF. -/
  | session (l : Step)
  | pass (d : ℕ)
  | nextSeq (tenantId alertId : String) (phase : TriagePhase) (emittedAt : String)
  | publish (i process : ℕ)
  | cancel (process : ℕ) (tenantId alertId userId requestedAt : String)
  | take (loop : LoopId)
  | lookup (loop : LoopId) (reply : Option Environment) (reached : Bool)
  | push (loop : LoopId) (j : ℕ) (reply : Option Environment) (reached : Bool)
  | finish (loop : LoopId)
  | read (doId alertId named : String) (phase : Option String)
  | snapshot (doId : String) (i j : ℕ)
  | post (i : ℕ) (reply : Option Environment) (reached : Bool)
  | registered (doId : String) (i j : ℕ)

/-- A push, a snapshot and an accepted registration come from the other
parties. -/
def alone : Step → Bool
  | .push _ _ => false
  | .snapshot _ _ result => result.isNone
  | .registered _ _ ok => !ok
  | .pass _ => false
  | _ => true

/-- One call of a program; where its caller is told nothing, it fails, and may
have reached the far end. -/
def resume {α : Type} (reply : Option Environment) (reached : Bool)
    (x : Bff.Task α) (r : Registry) : Bff.Task α × Registry :=
  x.resume (answer (reply.getD ⟨0, "", 0⟩))
    (if reply.isSome then .returned else .raised reached) r

/-- The body of the request that the call brings to an object. -/
def arriving (x : Bff.Task Unit) (reached : Bool) : Option Json :=
  match x.awaited with
  | some (.fetch _ _ body) => if reached then some body else none
  | _ => none

/-- The objects after a push, and the status that the object gives. -/
def Feed.arrive (s : Feed) (doId : String) (body : Json) : Sessions × ℕ :=
  let envelope := some (readEnvelope body)
  (s.sessions.handle doId fun o => (o, (o.handlePush doId envelope).2),
    ((s.sessions.objects doId).handlePush doId envelope).1)

/-- The object has handed the message over, and the attempt has failed: the
answer is lost or is no 204, or the refresh behind it fails. -/
def failsHanded (x : Bff.Task Unit) (accepted : Bool) (reply : Option Environment) : Bool :=
  match x.awaited with
  | some (.fetch ..) => accepted && (reply.map Environment.status != some 204)
  | some .dateNow => reply.isNone
  | some (.exec (.refreshTtl ..)) => reply.isNone
  | _ => false

/-- The signing of a token does not fail, and no timer does. -/
def cannotFail (x : Bff.Task Unit) : Bool :=
  match x.awaited with
  | some (.mintServiceToken ..) => true
  | some (.setTimeout _) => true
  | _ => false

def Feed.withSessions (D : Deployment) (s : Feed) (sessions : Sessions) : Feed :=
  { s with
    sessions := sessions
    posts := s.posts ++ newPosts D sessions (sessions.log.drop s.sessions.log.length) }

def Feed.setLoop (s : Feed) (id : LoopId) (loop : Loop) : Feed :=
  { s with loops := Function.update s.loops id loop }

/-- A message is published and goes to one process. -/
def Feed.dispatch (s : Feed) (process : ℕ) (message : Message) : Feed :=
  let δ : Delivery := ⟨s.published, process, message⟩
  let loop := s.loops δ.loop
  { s.setLoop δ.loop { loop with queue := loop.queue ++ [δ] } with
    published := s.published + 1 }

/-- The object is on record as a watcher. -/
def View.found (r : Registry) (v : View) : Bool :=
  (r.members (k.alert v.tenantId v.alertId)).contains v.doId &&
    !(r.fields v.doId).isEmpty

/-- What is left of a promise in a state. -/
def View.kept (s : Feed) (v : View) : Option View :=
  let o := s.sessions.objects v.doId
  if o.sockets = 0 then none
  else if v.found s.registry then some { v with registered := true }
  else if v.registered then none
  else if v.alertId ∈ o.watches.map Prod.fst then some v
  else none

def Feed.settle (s : Feed) : Feed :=
  { s with views := s.views.filterMap (View.kept s) }

variable (D : Deployment)

/-- A step, but for the promises that it ends. -/
def Feed.move (s : Feed) : Label → Option Feed
  | .session l =>
      if alone l then (s.sessions.step D.platform l).map (s.withSessions D) else none
  | .pass d =>
      some { s with
        sessions := { s.sessions with clock := s.sessions.clock + d }
        registry := s.registry.pass d }
  | .nextSeq tenantId alertId phase emittedAt =>
      -- without a tenant the worker publishes nothing
      if tenantId = "" then none
      else
        let next := nextSeq s.sessions.clock alertId s.seqs
        some { s with
          seqs := next.2
          numbered := s.numbered ++
            [⟨alertId, tenantId, next.1, emittedAt, none, phase⟩] }
  | .publish i process =>
      (s.numbered[i]?).map fun e =>
        { s with numbered := s.numbered.eraseIdx i }.dispatch process (.phase e)
  | .cancel process tenantId alertId userId requestedAt =>
      some (s.dispatch process (.cancel tenantId alertId userId requestedAt))
  | .take id =>
      match s.loops id with
      | ⟨δ :: queue, none⟩ => some (s.setLoop id ⟨queue, some (δ, .begun)⟩)
      | _ => none
  | .lookup id reply reached =>
      let advance (loop : Loop) (δ : Delivery) (x : Bff.Task (List Push)) : Feed :=
        let next := resume reply reached x s.registry
        let work := match next.1.result with
          | some ps => .pushes (ps.map fun p => (p, pushWithRetry p))
          | none => .lookup next.1
        { s.setLoop id { loop with current := some (δ, work) } with registry := next.2 }
      match s.loops id with
      | ⟨queue, some (δ, .begun)⟩ =>
          some { advance ⟨queue, none⟩ δ (δ.program D) with lookedUp := s.lookedUp ++ [δ] }
      | ⟨queue, some (δ, .lookup x)⟩ => some (advance ⟨queue, none⟩ δ x)
      | _ => none
  | .push id j reply reached =>
      match s.loops id with
      | ⟨queue, some (δ, .pushes ps)⟩ =>
          match ps[j]? with
          | some (p, x) =>
              if cannotFail x && reply.isNone then none
              else
                let next := resume reply reached x s.registry
                let arrived := (arriving x reached).map (s.arrive p.watcher.do_id)
                let accepted := arrived.map Prod.snd == some 204
                let mark : Handed := ⟨p.watcher.do_id, δ⟩
                some { s.setLoop id ⟨queue, some (δ, .pushes (ps.set j (p, next.1)))⟩ with
                  registry := next.2
                  sessions := (arrived.map Prod.fst).getD s.sessions
                  handed := s.handed ++ if accepted then [mark] else []
                  lost := s.lost ++ if failsHanded x accepted reply then [mark] else [] }
          | none => none
      | _ => none
  | .finish id =>
      match s.loops id with
      | ⟨queue, some (δ, .pushes ps)⟩ =>
          if ps.all (fun q => q.2.awaited.isNone) then
            some { s.setLoop id ⟨queue, none⟩ with finished := s.finished ++ [δ] }
          else none
      | _ => none
  | .read doId alertId named phase =>
      let o := s.sessions.objects doId
      -- the alert in the URL is the one meant, at least if its id is plain
      if (alertId, WatchStage.snapshot) ∈ o.watches ∧ alertId ≠ "" ∧
          (PlainAlertId (Url.utf16 alertId.toList) → named = alertId) then
        let lastSeq := currentSeq s.sessions.clock named s.seqs
        some { s with
          answers := s.answers ++ [(doId, alertId, ⟨lastSeq, phase⟩)]
          views := s.views ++ [⟨doId, tokenTenant o, alertId, lastSeq, false⟩] }
      else none
  | .snapshot doId i j =>
      match s.answers[j]?, (s.sessions.objects doId).watches[i]? with
      | some (doId', alertId', snapshot), some (alertId, _) =>
          if doId' = doId ∧ alertId' = alertId then
            (s.sessions.step D.platform (.snapshot doId i (some snapshot))).map
              fun sessions =>
                { s.withSessions D sessions with answers := s.answers.eraseIdx j }
          else none
      | _, _ => none
  | .post i reply reached =>
      (s.posts[i]?).map fun post =>
        let next := resume reply reached post.2 s.registry
        { s with
          registry := next.2
          posts := s.posts.set i (post.1, next.1) }
  | .registered doId i j =>
      match s.posts[j]?, (s.sessions.objects doId).watches[i]? with
      | some (.watch w, .pure response), some (alertId, _) =>
          if w.do_id = doId ∧ w.alert_id = alertId ∧ response.status = 200 then
            (s.sessions.step D.platform (.registered doId i true)).map
              fun sessions =>
                { s.withSessions D sessions with posts := s.posts.eraseIdx j }
          else none
      | _, _ => none

def Feed.step (s : Feed) (l : Label) : Option Feed := (s.move D l).map Feed.settle

def feedSystem : System Feed Label where
  start := (· = Feed.start)
  step := Feed.step D

end AlertTriage.Live
