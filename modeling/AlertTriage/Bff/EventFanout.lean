import AlertTriage.Bff.WatcherRegistry
import AlertTriage.Library.UrlPath

/-!
# The event fan-out

For a message of the broker: whom it is for (`onTriageEvent`,
`onRevocationEvent`), the lookup of their durable objects, and one push to each,
with its retries (`pushWithRetry`). The pushes of a message run side by side, so
a handler ends here in the list of its pushes.

A field of the body may be any JSON value. What becomes of a number in a
template is a parameter, `numText`.
-/

namespace AlertTriage.Bff

open Library

/-! ## §1  Push with retry -/

/-- The characters that `encodeURIComponent` leaves alone. -/
def isUriUnreserved (c : Char) : Bool :=
  c.isAlphanum || "-_.!~*'()".toList.contains c

def encodeURIComponent (s : String) : String :=
  String.ofList (s.toList.flatMap fun c =>
    if isUriUnreserved c then [c]
    else (String.utf8EncodeChar c).flatMap Url.percentEncodeByte)

def mintServiceToken (userId tenantId : String) : Task String :=
  Async.await (Call.mintServiceToken userId tenantId)

def fetch (url token : String) (body : Json) : Task ℕ :=
  Async.await (Call.fetch url token body)

def setTimeout (ms : ℕ) : Task Unit := Async.await (Call.setTimeout ms)

def maxAttempts : ℕ := 3

/-- One POST to the durable object: its part under another name. -/
structure Push where
  watcher : WatcherMeta
  envelope : Json
  tenantId : String
  alertId : Option String

def Push.url (p : Push) : String :=
  p.watcher.push_url ++ "?do=" ++ encodeURIComponent p.watcher.do_id

/-- The body of the `try`: did it return? -/
def Push.send (p : Push) (token : String) : Task Bool := do
  let status ← fetch p.url token p.envelope
  if status = 204 then do
    match p.alertId with
    | some alertId => refreshTtl p.watcher.do_id alertId p.tenantId none
    | none => pure ()
    pure true
  else if status = 410 ∨ status = 404 then do
    pruneDoEverywhere p.watcher.do_id
    pure true
  else pure (decide (400 ≤ status ∧ status < 500))

/-- The loop, with the attempts that are left and those that are behind. -/
def Push.retry (p : Push) (token : String) : ℕ → ℕ → Task Unit
  | 0, _ => pure ()
  | left + 1, attempt => do
      let returned ← (p.send token).attempt
      if returned = some true then pure ()
      else do
        -- the last failure is not waited for
        if left ≠ 0 then setTimeout (100 * (attempt + 1)) else pure ()
        p.retry token left (attempt + 1)

def pushWithRetry (p : Push) : Task Unit := do
  let token ← mintServiceToken p.watcher.user_id p.tenantId
  p.retry token maxAttempts 0

/-! ## §2  Whom a message is for -/

/-- A member of a value that has members; `none` is `undefined`. -/
def fieldOf (key : String) : Json → Option Json
  | .obj fields => Json.lookup key fields
  | _ => none

/-- `body[key]`. Only `null` has no members at all. -/
def member (key : String) : Json → Task (Option Json)
  | .null => .raise
  | body => pure (fieldOf key body)

/-- `value ?? fallback`. -/
def orElse (value : Option Json) (fallback : Option String) : Option Json :=
  match value with
  | none => fallback.map Json.str
  | some .null => fallback.map Json.str
  | some v => some v

/-- Truth of a value in a condition of a script. -/
def isTruthy : Json → Bool
  | .arr _ => true
  | .obj _ => true
  | .nan => false
  | v => v.truthy

section Text

variable (numText : Json → String)

mutual

/-- A value in a template; nothing where the conversion throws. An object with
a `toString` of its own has none that can be called. -/
def jsText : Json → Option String
  | .null => some "null"
  | .bool b => some (if b then "true" else "false")
  | .str s => some s
  | .arr items => (jsTexts items).map fun texts => ",".intercalate texts
  | .obj fields =>
      if (Json.lookup "toString" fields).isSome then none else some "[object Object]"
  | v => some (numText v)

/-- The elements of an array, as `join` takes them. -/
def jsTexts : List Json → Option (List String)
  | [] => some []
  | v :: vs => do
      let text ← match v with
        | .null => some ""
        | v => jsText v
      let texts ← jsTexts vs
      some (text :: texts)

end

end Text

def orRaise {α : Type} : Option α → Task α
  | some a => pure a
  | none => .raise

/-- `subject.split(".")`. -/
def splitSubject (subject : String) : List String :=
  (subject.toList.splitOn '.').map String.ofList

def extractTenantAlertFromSubject (subject : String) : Option (String × String) :=
  match splitSubject subject with
  | p₀ :: p₁ :: p₂ :: tenantId :: alertId :: _ =>
      if p₀ = "triage" ∧ p₁ = "events" ∧ p₂ = "v1" then some (tenantId, alertId)
      else if p₀ = "triage" ∧ p₁ = "cancel" ∧ p₂ = "v1" then some (tenantId, alertId)
      else none
  | _ => none

/-- `body.kind === "token" ? "token" : "phase"`. -/
def inferKindFromBody (body : Json) : String :=
  match fieldOf "kind" body with
  | some (.str "token") => "token"
  | _ => "phase"

inductive Shape where
  | phaseOrToken
  | cancel
deriving DecidableEq, Repr

def envelopeOf (shape : Shape) (body alertId : Json) : Json :=
  match shape with
  | .cancel => .obj [("kind", .str "cancel"), ("cancel", .obj [("alert_id", alertId)])]
  | .phaseOrToken =>
      .obj [("kind", .str (inferKindFromBody body)), ("event", body)]

/-! ## §3  The handlers -/

variable (numText : Json → String)

def onTriageEvent (subject : String) (body : Json) (shape : Shape) :
    Task (List Push) := do
  let found := extractTenantAlertFromSubject subject
  let tenantId := orElse (← member "tenant_id" body) (found.map Prod.fst)
  let alertId := orElse (← member "alert_id" body) (found.map Prod.snd)
  match tenantId.filter isTruthy, alertId.filter isTruthy with
  | some tenantId, some alertId => do
      let tenantText ← orRaise (jsText numText tenantId)
      let alertText ← orRaise (jsText numText alertId)
      let watchers ← watchersForAlert tenantText alertText
      pure (watchers.map fun w =>
        { watcher := w
          envelope := envelopeOf shape body alertId
          tenantId := tenantText
          alertId := some alertText })
  | _, _ => pure []

def onRevocationEvent (subject : String) (body : Json) : Task (List Push) := do
  let parts := splitSubject subject
  let tenantId := orElse (← member "tenant_id" body) parts[3]?
  let userId := orElse (← member "user_id" body) parts[4]?
  match tenantId.filter isTruthy, userId.filter isTruthy with
  | some tenantId, some userId => do
      let tenantText ← orRaise (jsText numText tenantId)
      let userText ← orRaise (jsText numText userId)
      let dos ← dosForUser tenantText userText
      pure (dos.map fun w =>
        { watcher := w
          envelope := .obj [("kind", .str "revoked"),
            ("revoked", .obj [("user_id", userId)])]
          tenantId := tenantText
          alertId := none })
  | _, _ => pure []

/-- The three subscriptions. -/
inductive Subscription where
  | events
  | cancel
  | revocations
deriving DecidableEq, Repr

/-- A message of a subscription: the body is absent when it is no JSON, and
what the handler raises is only logged. -/
def Subscription.handler (sub : Subscription) (subject : String)
    (body : Option Json) : Task (List Push) :=
  match body with
  | none => pure []
  | some body => do
      let pushes ← (match sub with
        | .events => onTriageEvent numText subject body .phaseOrToken
        | .cancel => onTriageEvent numText subject body .cancel
        | .revocations => onRevocationEvent numText subject body).attempt
      pure (pushes.getD [])

end AlertTriage.Bff
