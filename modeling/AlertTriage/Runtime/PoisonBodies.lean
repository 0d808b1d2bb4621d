import AlertTriage.Runtime.OutcomeOnRecord

/-!
# Bodies that are no alert

`_parse_alert` turns `json.JSONDecodeError` and every failure of the validation into a
poison pill. `json.loads` raises other exceptions too: a `UnicodeDecodeError` where the
bytes decode to no text, and what the interpreter's own limits raise, a
`RecursionError` for deep nesting and a plain `ValueError` for an integer of too many
digits. Those are transient errors to `_dispatch_one`, so the message comes again
(`poison_termed_iff`).
-/

namespace AlertTriage

open Library

/-- The limits of the interpreter that reads the body: the exception that `json.loads`
raises on a text, if it is no `JSONDecodeError`. -/
structure JsonLimits where
  refuses : String → Option String

/-- `_parse_alert` under these limits. -/
def parseAlertIn (py : JsonLimits) (codec : AlertCodec) (data : Body)
    (auth : AuthContext) : Except PyExn NormalizedAlert :=
  match data with
  | .undecodable _ => .error (.other "codec can't decode byte")
  | .utf8 text =>
      match py.refuses text with
      | some reason => .error (.other reason)
      | none => parseAlert codec (.utf8 text) auth

/-- `handle_message` under these limits, up to the cancellation check. -/
def acceptAlertIn (py : JsonLimits) (deps : WorkerDeps) (e : HandleEnv) (data : Body)
    (serviceToken : String) : Io (Option NormalizedAlert) := do
  let auth ← verify deps.lib deps.jwtService e.revoked serviceToken
  let alert ← Run.ofExcept (parseAlertIn py deps.codec data auth)
  publishPhase deps e.queued alert .queued
  let cancelled ← isCancelled deps e.cancelBefore alert.alertId
  if cancelled then do
    publishPhase deps e.cancelled alert .cancelled
    return none
  else return some alert

def handleMessageIn (py : JsonLimits) (deps : WorkerDeps) (e : HandleEnv) (data : Body)
    (serviceToken : String) : Io Unit := do
  match ← acceptAlertIn py deps e data serviceToken with
  | none => return ()
  | some alert => investigate deps e alert

/-- How `_dispatch_one` decides to settle a message, under these limits. -/
def settleAsIn (py : JsonLimits) (deps : WorkerDeps) (e : HandleEnv) (msg : NatsMsg) :
    Io Settlement :=
  if msg.serviceToken = "" then return .term
  else
    Run.tryExcept
      (do
        handleMessageIn py deps e msg.data msg.serviceToken
        return .ack)
      (fun x => return settlementOf x)

/-- An interpreter without limits. -/
def unlimited : JsonLimits := ⟨fun _ => none⟩

theorem parseAlertIn_unlimited (codec : AlertCodec) (data : Body) (auth : AuthContext) :
    parseAlertIn unlimited codec data auth = parseAlert codec data auth := by
  cases data <;> rfl

/-- Without limits this is the worker of the other modules. -/
theorem settleAsIn_unlimited (deps : WorkerDeps) (e : HandleEnv) (msg : NatsMsg) :
    settleAsIn unlimited deps e msg = settleAs deps e msg := by
  unfold settleAsIn settleAs handleMessageIn handleMessage acceptAlertIn acceptAlert
  simp only [parseAlertIn_unlimited]
  all_goals rfl

/-- The body decodes to text, and `json.loads` gets through it or finds it invalid. -/
def Readable (py : JsonLimits) (data : Body) : Prop :=
  ∃ text, data = .utf8 text ∧ py.refuses text = none

section

variable {py : JsonLimits} {deps : WorkerDeps} {e : HandleEnv} {msg : NatsMsg}
  {w w' : World} {auth : AuthContext}

/-- A readable body that is no alert is a poison pill. -/
theorem settlement_of_readable {data : Body} (hread : Readable py data) {x : PyExn}
    (hx : parseAlertIn py deps.codec data auth = .error x) : settlementOf x = .term := by
  obtain ⟨text, rfl, hrefuses⟩ := hread
  simp only [parseAlertIn, hrefuses, parseAlert] at hx
  cases hj : Json.loads text with
  | none =>
      simp only [hj] at hx
      cases hx
      rfl
  | some raw =>
      simp only [hj] at hx
      split at hx
      · cases hx
        rfl
      · cases hx

/-- Another exception is no poison pill. -/
theorem settlement_of_unreadable (deps : WorkerDeps) (auth : AuthContext) {data : Body}
    (hread : ¬ Readable py data) :
    ∃ x, parseAlertIn py deps.codec data auth = .error x ∧ settlementOf x = .nak := by
  cases data with
  | undecodable bytes => exact ⟨_, rfl, rfl⟩
  | utf8 text =>
      cases hrefuses : py.refuses text with
      | none => exact absurd ⟨text, rfl, hrefuses⟩ hread
      | some reason => exact ⟨.other reason, by simp only [parseAlertIn, hrefuses], rfl⟩

/-- What `_dispatch_one` does with a message whose body raises. -/
theorem settleAsIn_error (htoken : msg.serviceToken ≠ "")
    (hauth : verify deps.lib deps.jwtService e.revoked msg.serviceToken w = (.ok auth, w'))
    {x : PyExn} (hx : parseAlertIn py deps.codec msg.data auth = .error x) :
    settleAsIn py deps e msg w = (.ok (settlementOf x), w') := by
  have haccept : acceptAlertIn py deps e msg.data msg.serviceToken w =
      (.error (.exception x), w') := by
    rw [acceptAlertIn, Run.bind_ok hauth, hx]
    rfl
  rw [settleAsIn, if_neg htoken, Run.tryExcept, handleMessageIn,
    Run.bind_error (Run.bind_error haccept)]
  rfl

end

/-- A message with the known token and this body. -/
def msgWith (data : Body) : NatsMsg := { sampleMsg "tok" with data := data }

theorem msgWith_token (data : Body) : (msgWith data).serviceToken ≠ "" := by
  have htoken : (msgWith data).serviceToken = "tok" := rfl
  rw [htoken]
  decide

theorem verify_tokenKnown (lib : PyJwt) :
    verify (sampleDeps lib).lib (sampleDeps lib).jwtService smoothHandle.revoked "tok"
      tokenKnown = (.ok (toAuth sampleClaims "worker"), tokenKnown) := rfl

end AlertTriage
