import AlertTriage.Runtime.OutcomeOnRecord

/-!
# The tenant of a message is its token's

`handle_message` takes the tenant from the verified token: the parser drops the
body's own `tenant_id` and `__subject__` before anything looks at it. Two
bodies that differ in these alone are handled alike, whatever the outside
systems make of the alert and the tenant that they are handed, and the token's
tenant is the only one that appears (`token_decides_tenant`).
-/

namespace AlertTriage

open Library

/-! ## §1  A handler whose environment sees its arguments -/

/-- How the calls end that are handed a tenant or an alert:
`get_checkpointer(auth.tenant_id)` and `run_triage(alert, …)`. -/
structure Reactions where
  checkpointer : String → Outcome
  triage : NormalizedAlert → TriageOutcome

/-- The first two steps: the verified token and the alert of the body. -/
def authenticate (deps : WorkerDeps) (e : HandleEnv) (data : Body)
    (serviceToken : String) : Io (AuthContext × NormalizedAlert) := do
  let auth ← verify deps.lib deps.jwtService e.revoked serviceToken
  let alert ← Run.ofExcept (parseAlert deps.codec data auth)
  return (auth, alert)

/-- `handle_message`, its environment seeing what it is handed. -/
def handleReactively (deps : WorkerDeps) (e : HandleEnv) (react : Reactions)
    (data : Body) (serviceToken : String) : Io Unit := do
  let (auth, alert) ← authenticate deps e data serviceToken
  publishPhase deps e.queued alert .queued
  let cancelled ← isCancelled deps e.cancelBefore alert.alertId
  if cancelled then publishPhase deps e.cancelled alert .cancelled
  else
    investigate deps
      { e with
        checkpointer := react.checkpointer auth.tenantId
        triage := react.triage alert }
      alert

/-- With calls that end the same whatever they are handed, this is
`handle_message`. -/
theorem handleReactively_const (deps : WorkerDeps) (e : HandleEnv)
    (data : Body) (serviceToken : String) (w : World) :
    handleReactively deps e ⟨fun _ => e.checkpointer, fun _ => e.triage⟩ data
      serviceToken w = handleMessage deps e data serviceToken w := by
  unfold handleReactively handleMessage acceptAlert authenticate
  simp only [Run.bind_apply]
  rcases verify deps.lib deps.jwtService e.revoked serviceToken w with
    ⟨_ | auth, w₁⟩
  · rfl
  dsimp only
  rcases Run.ofExcept (parseAlert deps.codec data auth) w₁ with ⟨_ | alert, w₂⟩
  · rfl
  simp only [Run.pure_apply]
  rcases publishPhase deps e.queued alert .queued w₂ with ⟨_ | _, w₃⟩
  · rfl
  dsimp only
  rcases isCancelled deps e.cancelBefore alert.alertId w₃ with
    ⟨_ | _ | _, w₄⟩
  · rfl
  · rfl
  · simp only [if_true, Run.bind_apply]
    rcases publishPhase deps e.cancelled alert .cancelled w₄ with ⟨_ | _, w₅⟩
    · rfl
    · rfl

/-! ## §2  Bodies that differ in their tenant -/

/-- What the parser leaves of a body's fields. -/
def stripTenant (fields : Params) : Params :=
  Json.remove "__subject__" (Json.remove "tenant_id" fields)

/-- The alert of a body depends on what is left of it. -/
theorem parseAlert_obj {codec : AlertCodec} {text : String} {fields : Params}
    (h : Json.loads text = some (.obj fields)) (auth : AuthContext) :
    parseAlert codec (.utf8 text) auth =
      (codec.modelValidate (.obj (stripTenant fields))).elim
        (.error (.poisonPill "message body fails NormalizedAlert validation"))
        fun alert => .ok { alert with tenantId := some auth.tenantId } := by
  cases hv : codec.modelValidate (.obj (stripTenant fields)) with
  | none =>
      unfold stripTenant at hv
      simp only [parseAlert, h, hv, Option.elim]
  | some alert =>
      unfold stripTenant at hv
      simp only [parseAlert, h, hv, Option.elim]

theorem authenticate_congr (deps : WorkerDeps) (e : HandleEnv)
    {text text' : String} {fields fields' : Params} (token : String)
    (h : Json.loads text = some (.obj fields))
    (h' : Json.loads text' = some (.obj fields'))
    (hrest : stripTenant fields = stripTenant fields') :
    authenticate deps e (.utf8 text) token =
      authenticate deps e (.utf8 text') token := by
  have hparse : ∀ auth, parseAlert deps.codec (.utf8 text) auth =
      parseAlert deps.codec (.utf8 text') auth := by
    intro auth
    rw [parseAlert_obj h, parseAlert_obj h', hrest]
  unfold authenticate
  simp only [hparse]

/-! ## §3  Every tenant is the token's -/

/-- The payload that a token is verified by: the cached one, else the decoded
one. -/
def tokenPayload (deps : WorkerDeps) (token : String) (w : World) :
    Option Params :=
  match cachedEntry token w with
  | some entry => some entry.payload
  | none => decodeWithRotation deps.lib deps.jwtService token w.now

/-- The `tid` of a token. -/
def tokenTenant (deps : WorkerDeps) (token : String) (w : World) :
    Option String :=
  (tokenPayload deps token w).map fun payload =>
    pyStr ((claim "tid" payload).getD .null)

/-- The verified context names the token's tenant. -/
theorem tenant_of_verify {deps : WorkerDeps} {e : RevokedAnswer}
    {token : String} {w w' : World} {auth : AuthContext}
    (h : verify deps.lib deps.jwtService e token w = (.ok auth, w')) :
    tokenTenant deps token w = some auth.tenantId := by
  unfold verify at h
  obtain ⟨_, _, hget, h⟩ := Run.bind_eq_ok h
  obtain ⟨hw, rfl⟩ := Prod.mk.inj hget
  obtain rfl := Except.ok.inj hw
  unfold tokenTenant tokenPayload
  cases hc : cachedEntry token w with
  | some entry =>
      simp only [hc] at h
      obtain ⟨_, _, _, h⟩ := Run.bind_eq_ok h
      obtain ⟨hauth, -⟩ := Prod.mk.inj h
      rw [← Except.ok.inj hauth]
      rfl
  | none =>
      simp only [hc] at h
      cases hd : decodeWithRotation deps.lib deps.jwtService token w.now with
      | none =>
          rw [hd] at h
          exact absurd (congrArg Prod.fst h) (by simp)
      | some payload =>
          simp only [hd] at h
          split at h
          · exact absurd (congrArg Prod.fst h) (by simp)
          split at h
          · exact absurd (congrArg Prod.fst h) (by simp)
          obtain ⟨_, _, _, h⟩ := Run.bind_eq_ok h
          obtain ⟨_, _, _, h⟩ := Run.bind_eq_ok h
          obtain ⟨hauth, -⟩ := Prod.mk.inj h
          rw [← Except.ok.inj hauth]
          rfl

/-- The message is a phase event of the tenant, under a subject of the
tenant. -/
def OfTenant (tenantId : String) (msg : NatsMsg) : Prop :=
  ∃ event : PhaseEvent, event.tenantId = tenantId ∧ msg = phaseMsg event

/-- Since a world, only phase events of the tenant have been sent. -/
def SentFor (tenantId : String) (since w : World) : Prop :=
  ∃ new, w.log = new ++ since.log ∧
    ∀ msg, Event.sent msg ∈ new → OfTenant tenantId msg

theorem SentFor.of_log {tenantId : String} {since w w' : World}
    (h : SentFor tenantId since w) (hl : w'.log = w.log) :
    SentFor tenantId since w' := by
  obtain ⟨new, hnew, hall⟩ := h
  exact ⟨new, hl.trans hnew, hall⟩

theorem SentFor.cons {tenantId : String} {since w w' : World} {x : Event}
    (h : SentFor tenantId since w) (hl : w'.log = x :: w.log)
    (hx : ∀ msg, x = .sent msg → OfTenant tenantId msg) :
    SentFor tenantId since w' := by
  obtain ⟨new, hnew, hall⟩ := h
  refine ⟨x :: new, by rw [hl, hnew, List.cons_append], ?_⟩
  intro msg hmsg
  rcases List.mem_cons.mp hmsg with heq | hmsg
  · exact hx msg heq.symm
  · exact hall msg hmsg

/-- Everything that a worker does but publishing a phase keeps this. -/
theorem sentFor_kept (tenantId : String) (since : World) :
    KeptByWorker (fun _ => False) (fun _ => True)
      (SentFor tenantId since) where
  jwtCache _ _ h := h.of_log rfl
  localSeq _ _ h := h.of_log rfl
  incr _ _ _ _ h := h.cons rfl (by simp)
  expire _ _ h := h.of_log rfl
  publish _ _ _ hp := hp.elim
  elapse _ _ _ h := h.of_log rfl
  settled _ _ h := h.cons rfl (by simp)

/-- A phase is published for the alert's tenant. -/
theorem publishPhase_sentFor {alert : NormalizedAlert} {tenantId : String}
    (ht : alert.tenantId = some tenantId) (since : World) (deps : WorkerDeps)
    (e : PhaseEnv) (phase : TriagePhase) :
    Run.Keeps (SentFor tenantId since) (publishPhase deps e alert phase) := by
  unfold publishPhase
  simp only [ht]
  split
  · exact Run.Keeps.pure ()
  refine Run.Keeps.bind
    ((sentFor_kept tenantId since).nextSeq deps e alert.alertId) fun seq => ?_
  refine Run.Keeps.bind ?_ fun _ => Run.Keeps.pure ()
  intro w hw
  rw [publish_spec]
  unfold World.afterPublish
  dsimp only
  split
  · refine hw.cons rfl fun msg hmsg => ?_
    exact ⟨⟨alert.alertId, tenantId, seq, e.emittedAt, none, phase⟩, rfl,
      (Event.sent.inj hmsg).symm⟩
  · exact hw.of_log rfl

theorem investigate_sentFor {alert : NormalizedAlert} {tenantId : String}
    (ht : alert.tenantId = some tenantId) (since : World) (deps : WorkerDeps)
    (e : HandleEnv) :
    Run.Keeps (SentFor tenantId since) (investigate deps e alert) := by
  unfold investigate
  refine Run.Keeps.bind (Run.Keeps.call fun _ hs => hs) fun _ => ?_
  refine Run.Keeps.bind ?_ fun verdict =>
    Run.Keeps.bind (KeptByWorker.isCancelled deps _ _) fun _ =>
      publishPhase_sentFor ht since deps _ _
  unfold awaitTriage
  refine Run.Keeps.bind (fun w hw => hw.of_log rfl) fun _ => ?_
  split
  · exact Run.Keeps.pure _
  · exact Run.Keeps.bind (publishPhase_sentFor ht since deps _ _) fun _ =>
      Run.Keeps.throw _
  · exact fun _ hw => hw

/-! ## §4  The theorem -/

/-- What an authenticated message leads to: the alert is under the token's
tenant, and so is everything that is sent. -/
def TenantOfToken (deps : WorkerDeps) (e : HandleEnv) (react : Reactions)
    (data : Body) (token : String) (w : World) : Prop :=
  ∀ auth alert w₁, authenticate deps e data token w = (.ok (auth, alert), w₁) →
    tokenTenant deps token w = some auth.tenantId ∧
    alert.tenantId = some auth.tenantId ∧
    SentFor auth.tenantId w (handleReactively deps e react data token w).2

theorem tenantOfToken (deps : WorkerDeps) (e : HandleEnv) (react : Reactions)
    (data : Body) (token : String) (w : World) :
    TenantOfToken deps e react data token w := by
  intro auth alert w₁ h
  have hauth := h
  unfold authenticate at hauth
  obtain ⟨auth', w₂, hverify, hauth⟩ := Run.bind_eq_ok hauth
  obtain ⟨alert', w₃, hparse, hauth⟩ := Run.bind_eq_ok hauth
  obtain ⟨hpair, rfl⟩ := Prod.mk.inj hauth
  obtain ⟨rfl, rfl⟩ := Prod.mk.inj (Except.ok.inj hpair)
  have hok : parseAlert deps.codec data auth' = .ok alert' ∧ w₃ = w₂ := by
    cases hp : parseAlert deps.codec data auth' with
    | error x =>
        rw [hp] at hparse
        exact absurd (congrArg Prod.fst hparse) (by simp [Run.ofExcept])
    | ok a =>
        rw [hp] at hparse
        obtain ⟨ha, hw⟩ := Prod.mk.inj hparse
        exact ⟨congrArg Except.ok (Except.ok.inj ha), hw.symm⟩
  obtain ⟨hparsed, rfl⟩ := hok
  have ht := parseAlert_tenant hparsed
  refine ⟨tenant_of_verify hverify, ht, ?_⟩
  have hstart : SentFor auth'.tenantId w w₃ := by
    obtain ⟨c, hw⟩ := verify_world deps.lib deps.jwtService e.revoked token w
    rw [hverify] at hw
    obtain rfl : w₃ = { w with jwtCache := c } := hw
    exact ⟨[], rfl, by simp⟩
  unfold handleReactively
  rw [Run.bind_ok h]
  -- all that follows sends under the alert's tenant, which is the token's
  have hrest : Run.Keeps (SentFor auth'.tenantId w) (do
      publishPhase deps e.queued alert' .queued
      let cancelled ← isCancelled deps e.cancelBefore alert'.alertId
      if cancelled then publishPhase deps e.cancelled alert' .cancelled
      else
        investigate deps
          { e with
            checkpointer := react.checkpointer auth'.tenantId
            triage := react.triage alert' }
          alert') := by
    refine Run.Keeps.bind (publishPhase_sentFor ht w deps _ _) fun _ => ?_
    refine Run.Keeps.bind (KeptByWorker.isCancelled deps _ _) fun cancelled => ?_
    split
    · exact publishPhase_sentFor ht w deps _ _
    · exact investigate_sentFor ht w deps _
  exact hrest w₃ hstart

/-- **The token decides the tenant.** Two bodies that are objects differing in
`tenant_id` and `__subject__` alone are accepted or refused alike, with the same
alert, and are handled alike under every reaction to the tenant and the alert
that are handed out; every tenant in sight is the token's. -/
theorem token_decides_tenant (deps : WorkerDeps) (e : HandleEnv)
    (react : Reactions) (token : String) {text text' : String}
    {fields fields' : Params} (h : Json.loads text = some (.obj fields))
    (h' : Json.loads text' = some (.obj fields'))
    (hrest : stripTenant fields = stripTenant fields') (w : World) :
    authenticate deps e (.utf8 text) token w =
        authenticate deps e (.utf8 text') token w ∧
      handleReactively deps e react (.utf8 text) token w =
        handleReactively deps e react (.utf8 text') token w ∧
      TenantOfToken deps e react (.utf8 text) token w := by
  have hsame := authenticate_congr deps e token h h' hrest
  refine ⟨by rw [hsame], ?_, tenantOfToken deps e react _ token w⟩
  unfold handleReactively
  rw [hsame]

/-- The sample alert as another tenant's. -/
def borrowedAlert : NormalizedAlert := { sampleAlert with tenantId := some "globex" }

/-- Reactions that tell tenants and alerts apart. -/
def sampleReactions : Reactions where
  checkpointer tenantId := if tenantId = "acme" then .returned else .raised false
  triage alert :=
    .verdict
      { sampleVerdict with
        alertId := alert.alertId
        tenantId := alert.tenantId }

theorem token_decides_tenant_borrowed :
    handleReactively (sampleDeps plainLib) smoothHandle sampleReactions
        (.utf8 (Json.dumps pydanticStyle (.obj sampleAlert.plainDump))) "tok"
        tokenKnown =
      handleReactively (sampleDeps plainLib) smoothHandle sampleReactions
        (.utf8 (Json.dumps pydanticStyle (.obj borrowedAlert.plainDump))) "tok"
        tokenKnown :=
  (token_decides_tenant (sampleDeps plainLib) smoothHandle sampleReactions "tok"
    (Json.loads_dumps pydanticStyle (plainDump_distinct sampleAlert))
    (Json.loads_dumps pydanticStyle (plainDump_distinct borrowedAlert)) rfl
    tokenKnown).2.1

end AlertTriage
