import AlertTriage.Api.Requests
import AlertTriage.Pipeline.RunVerdict

/-!
# `GET /verdict/{alert_id}`

The endpoint compares the tenant of the caller's verified token with the one
that the verdict names, and lets a verdict without a tenant pass. Which tenant
a verdict names was decided when it was made: the alert's on a cancelled run,
the one that the model wrote down otherwise, and none on a fallback. So a
verdict is kept from other tenants when its run was cancelled or the model
named the right tenant (`isolated_iff`).
-/

namespace AlertTriage

open Library

/-! ## §1  The endpoint -/

/-- The body of an answer. -/
inductive VerdictReply where
  | complete (alertId : String) (verdict : TriageVerdict)
  | failed (alertId : String) (error : Option Json)
  | processing (alertId : String)

/-- The body, and the `Sunset` header next to a `Deprecation` one. -/
structure VerdictResponse where
  reply : VerdictReply
  sunset : Option String

/-- How the outside calls of one request end. -/
structure VerdictEnv where
  revoked : RevokedAnswer
  getVerdict : Outcome
  getJob : Outcome
  getAlert : Outcome
deriving DecidableEq, Repr

/-- `scrub_verdict_for_log`. -/
def scrubVerdict (scrubString : String → String) (v : TriageVerdict) :
    TriageVerdict :=
  { v with triageSummary := scrubString v.triageSummary }

/-- The tenant check turns the caller away. -/
def crossTenant (settings : ApiSettings) (auth : Option AuthContext)
    (v : TriageVerdict) : Bool :=
  settings.verdictAuthRequired &&
    match auth, v.tenantId with
    | some auth, some tenantId => auth.tenantId != tenantId
    | _, _ => false

/-- `job.get("status") == "failed"`: a record that is no object raises. -/
def jobFailed : Option Json → Except PyExn Bool
  | some (.obj fields) =>
      .ok (decide ((Json.lookup "status" fields).bind Json.asStr? =
        some "failed"))
  | some j =>
      if j.truthy then .error (.other "object has no attribute 'get'")
      else .ok false
  | none => .ok false

def jobError : Option Json → Option Json
  | some (.obj fields) => Json.lookup "error" fields
  | _ => none

/-- `get_verdict`, from the verdict that was found on. -/
def answerVerdict (deps : ApiDeps) (e : VerdictEnv) (alertId : String)
    (auth : Option AuthContext) (sunset : Option String) :
    Option TriageVerdict → ApiIo VerdictResponse
  | some v =>
      if crossTenant deps.settings auth v then Run.throw (.http 403 "forbidden")
      else return ⟨.complete alertId (scrubVerdict deps.scrubString v), sunset⟩
  | none => do
      let job ← getJob deps.persistence e.getJob alertId
      let failed ← onWorld (Run.ofExcept (jobFailed job))
      if failed then return ⟨.failed alertId (jobError job), sunset⟩
      else
        let alert ← getAlert deps.persistence deps.alertCodec e.getAlert alertId
        if alert.isSome then return ⟨.processing alertId, sunset⟩
        else
          Run.throw (.http 404 ("No verdict found for alert_id=" ++ alertId))

/-- `get_verdict`. -/
def getVerdictEndpoint (deps : ApiDeps) (e : VerdictEnv) (alertId : String)
    (r : HttpRequest) : ApiIo VerdictResponse := do
  let auth ← onWorld (attachVerifiedServiceToken deps e.revoked r)
  if deps.settings.verdictAuthRequired then validateApiKey deps.settings r
  let verdict ← onWorld
    (getVerdict deps.persistence deps.verdictCodec e.getVerdict alertId)
  let sunset :=
    if deps.settings.verdictAuthRequired then none
    else some deps.settings.verdictDeprecationSunset
  answerVerdict deps e alertId auth sunset verdict

/-! ## §2  What it does with a stored verdict -/

/-- The request comes with a service token that is verified for the tenant. -/
def CarriesTenant (deps : ApiDeps) (e : RevokedAnswer) (r : HttpRequest)
    (tenantId : String) (w : World) : Prop :=
  ∃ auth, (attachVerifiedServiceToken deps e r w).1 = .ok (some auth) ∧
    auth.tenantId = tenantId

/-- With authentication required, a caller of a tenant is answered where a
verdict is stored only if the verdict names that tenant or none. -/
theorem tenant_of_answered {deps : ApiDeps} {e : VerdictEnv} {alertId : String}
    {r : HttpRequest} {a a' : ApiWorld} {tenantId : String} {v : TriageVerdict}
    {response : VerdictResponse}
    (hauth : deps.settings.verdictAuthRequired = true)
    (htoken : CarriesTenant deps e.revoked r tenantId a.world)
    (hstored : a.world.verdictOf deps.persistence deps.verdictCodec alertId =
      .ok (some v))
    (h : getVerdictEndpoint deps e alertId r a = (.ok response, a')) :
    v.tenantId = none ∨ v.tenantId = some tenantId := by
  obtain ⟨auth, hok, htenant⟩ := htoken
  obtain ⟨c, hworld⟩ := attach_world deps e.revoked r a.world
  obtain ⟨auth', a₁, hfocus, h⟩ := Run.bind_eq_ok h
  obtain ⟨w₁, hattach, rfl⟩ := Run.focus_eq_ok hfocus
  rw [hattach] at hok hworld
  obtain rfl : auth' = some auth := Except.ok.inj hok
  obtain rfl : w₁ = { a.world with jwtCache := c } := hworld
  rw [if_pos hauth] at h
  obtain ⟨_, a₂, hkey, h⟩ := Run.bind_eq_ok h
  obtain rfl : a₂ = { a with world := { a.world with jwtCache := c } } := by
    unfold validateApiKey at hkey
    split at hkey
    · exact absurd (congrArg Prod.fst hkey) (by simp)
    · exact (congrArg Prod.snd hkey).symm
  obtain ⟨found, a₃, hfocus, h⟩ := Run.bind_eq_ok h
  obtain ⟨w₃, hget, rfl⟩ := Run.focus_eq_ok hfocus
  have hfound := verdictOf_of_getVerdict hget
  have hsame : World.verdictOf deps.persistence deps.verdictCodec alertId
      { a.world with jwtCache := c } = .ok (some v) := hstored
  rw [hsame] at hfound
  obtain rfl := Except.ok.inj hfound
  -- the check that shows nothing of other tenants
  simp only [answerVerdict] at h
  split at h
  · exact absurd (congrArg Prod.fst h) (by simp)
  · rename_i hcross
    cases ht : v.tenantId with
    | none => exact .inl rfl
    | some t =>
        have heq : auth.tenantId = t := by
          simpa [crossTenant, hauth, ht] using hcross
        exact .inr (by rw [← heq, htenant])

/-- Where the verdict names that tenant or none, there is a request that is
shown it. -/
theorem shown_of_tenant {tenantId : String} {v : TriageVerdict}
    (alertId : String)
    (h : v.tenantId = none ∨ v.tenantId = some tenantId) :
    ∃ (deps : ApiDeps) (e : VerdictEnv) (r : HttpRequest) (a a' : ApiWorld)
      (sunset : Option String),
      deps.settings.verdictAuthRequired = true ∧
      CarriesTenant deps e.revoked r tenantId a.world ∧
      a.world.verdictOf deps.persistence deps.verdictCodec alertId =
        .ok (some v) ∧
      getVerdictEndpoint deps e alertId r a =
        (.ok ⟨.complete alertId (scrubVerdict deps.scrubString v), sunset⟩,
          a') := by
  -- a service whose store holds the verdict, and whose cache the token
  let a : ApiWorld := { ApiWorld.fresh with
    world := { World.fresh with
      jwtCache := tenantCache tenantId
      memVerdicts := [(alertId, v)] } }
  let e : VerdictEnv := ⟨.answer false, .returned, .returned, .returned⟩
  have hattach : attachVerifiedServiceToken plainApi e.revoked
      (tokenRequest "t") a.world =
      (.ok (some ⟨none, tenantId, "ingest", none, none⟩), a.world) :=
    attach_cached rfl rfl
  have hkey : validateApiKey plainApi.settings (tokenRequest "t") a =
      (.ok (), a) := by
    have hprovided : (tokenRequest "t").providedKey =
        plainApi.settings.apiKey := by decide +kernel
    simp [validateApiKey, hprovided]
  have hget : getVerdict plainApi.persistence plainApi.verdictCodec .returned
      alertId a.world = (.ok (some v), a.world) := by
    simp [getVerdict, plainApi, Run.bind_apply, a, Json.lookup]
  refine ⟨plainApi, e, tokenRequest "t", a, a, none, rfl,
    ⟨_, congrArg Prod.fst hattach, rfl⟩, ?_, ?_⟩
  · simp [World.verdictOf, plainApi, a, Json.lookup]
  · have hcross : crossTenant plainApi.settings
        (some ⟨none, tenantId, "ingest", none, none⟩) v = false := by
      rcases h with h | h <;> simp [crossTenant, h]
    unfold getVerdictEndpoint onWorld
    have hauth : plainApi.settings.verdictAuthRequired = true := rfl
    rw [Run.bind_ok (Run.focus_ok hattach), if_pos hauth, Run.bind_ok hkey]
    refine (Run.bind_ok (Run.focus_ok hget)).trans ?_
    simp only [answerVerdict, hcross]
    rfl

/-! ## §3  Isolation -/

/-- On record for an alert of a tenant, the verdict is returned to no caller
whose token is verified for another. -/
def Isolated (tenantId alertId : String) (verdict : TriageVerdict) : Prop :=
  ∀ (deps : ApiDeps) (e : VerdictEnv) (r : HttpRequest) (a a' : ApiWorld)
    (other : String) (response : VerdictResponse),
    deps.settings.verdictAuthRequired = true → other ≠ tenantId →
    CarriesTenant deps e.revoked r other a.world →
    a.world.verdictOf deps.persistence deps.verdictCodec alertId =
      .ok (some verdict) →
    getVerdictEndpoint deps e alertId r a = (.ok response, a') →
    ∀ id shown, response.reply ≠ .complete id shown

/-- A verdict is isolated just when it names the tenant. -/
theorem isolated_iff_tenant (tenantId alertId : String)
    (verdict : TriageVerdict) :
    Isolated tenantId alertId verdict ↔ verdict.tenantId = some tenantId := by
  constructor
  · intro hisolated
    by_contra hne
    obtain ⟨other, hother, hnames⟩ : ∃ other, other ≠ tenantId ∧
        (verdict.tenantId = none ∨ verdict.tenantId = some other) := by
      cases ht : verdict.tenantId with
      | none =>
          refine ⟨tenantId ++ "'", fun heq => ?_, .inl rfl⟩
          have hlen := congrArg String.length heq
          rw [String.length_append] at hlen
          exact absurd hlen (by simp)
      | some t =>
          exact ⟨t, fun heq => hne (by rw [ht, heq]), .inr rfl⟩
    obtain ⟨deps, e, r, a, a', sunset, hauth, htoken, hstored, hshown⟩ :=
      shown_of_tenant alertId hnames
    exact hisolated deps e r a a' other _ hauth hother htoken hstored hshown _ _
      rfl
  · intro htenant deps e r a a' other response hauth hother htoken hstored h id
      shown _
    rcases tenant_of_answered hauth htoken hstored h with hn | hn
    · rw [htenant] at hn
      exact absurd hn (by simp)
    · rw [htenant] at hn
      exact hother (Option.some.inj hn).symm

/-- **Verdict isolation.** The verdict of a run on an alert of a tenant is
isolated if and only if, where the run comes to the verdict, it is cancelled
(a node saw the flag, or the thread held the marker), or the model that answers
names this very tenant. -/
theorem isolated_iff (deps : PipelineDeps) {alert : NormalizedAlert}
    {tenantId : String} (h : alert.tenantId = some tenantId)
    (thread : TriageThread) (call : TriageCall) :
    (∀ verdict, runTriage deps alert thread call = .verdict verdict →
        Isolated tenantId alert.alertId verdict) ↔
      ∀ v ∈ call.trace deps alert thread, v.node = .generateVerdict →
        ThreadMarked (call.visible thread) ∨
        (call.trace deps alert thread).any sawFlag = true ∨
        ∃ reply ∈ askedVerdict deps v.answers,
          reply.tenantId = some tenantId := by
  have hstart := marked_start deps alert thread call
  constructor
  · intro hisolated v hv hn
    obtain ⟨hof, ⟨verdict, hrun, hgiven⟩, hmark⟩ :=
      run_of_verdict_visit deps hv hn
    have htenant := (isolated_iff_tenant _ _ _).mp (hisolated verdict hrun)
    rw [tenant_of_nodeVerdict deps hgiven] at htenant
    -- a marked run ends in the alert's own tenant, any other in the model's
    by_cases hm : Marked v.before
    · rcases hmark.mp hm with hs | hs
      · exact .inl (hstart.mp hs)
      · exact .inr (.inl hs)
    · rw [if_neg hm] at htenant
      obtain ⟨reply, hreply, hnames⟩ := Option.bind_eq_some_iff.mp htenant
      exact .inr (.inr ⟨reply, hreply, hnames⟩)
  · intro hcond verdict hrun
    obtain ⟨s, a, hv, hgiven, -⟩ := verdict_of_run deps hrun
    obtain ⟨hof, -, hmark⟩ := run_of_verdict_visit deps hv rfl
    rw [isolated_iff_tenant, tenant_of_nodeVerdict deps hgiven]
    by_cases hm : Marked s
    · have hsame : s.alert = alert := hof.same
      rw [if_pos hm, hsame]
      exact h
    · rw [if_neg hm]
      rcases hcond _ hv rfl with hs | hs | ⟨reply, hreply, hnames⟩
      · exact absurd (hmark.mpr (.inl (hstart.mpr hs))) hm
      · exact absurd (hmark.mpr (.inr hs)) hm
      · exact Option.bind_eq_some_iff.mpr ⟨reply, hreply, hnames⟩

/-- The think step sees the cancel flag. -/
def cancelledCall : TriageCall :=
  freshCall (List.replicate 6 { silentAnswers with flagSet := true })

theorem cancelled_verdict_isolated :
    (cancelledCall.trace plainPipeline sampleAlert none).any sawFlag = true ∧
      ∀ verdict, runTriage plainPipeline sampleAlert none cancelledCall =
        .verdict verdict → Isolated "acme" "a1" verdict := by
  have hsaw : (cancelledCall.trace plainPipeline sampleAlert none).any
      sawFlag = true := by decide +kernel
  exact ⟨hsaw, (isolated_iff plainPipeline rfl none cancelledCall).mpr
    fun v _ _ => .inr (.inl hsaw)⟩

theorem fallback_shown_to_others :
    ¬ ∀ (deps : PipelineDeps) (alert : NormalizedAlert) (tenantId : String)
      (thread : TriageThread) (call : TriageCall) (verdict : TriageVerdict),
      alert.tenantId = some tenantId →
      runTriage deps alert thread call = .verdict verdict →
      Isolated tenantId alert.alertId verdict := by
  intro h
  have hnone : (match runTriage plainPipeline sampleAlert none
      (freshCall (List.replicate 6 silentAnswers)) with
    | .verdict verdict => decide (verdict.tenantId = none)
    | _ => false) = true := by decide +kernel
  cases hrun : runTriage plainPipeline sampleAlert none
      (freshCall (List.replicate 6 silentAnswers)) with
  | verdict verdict =>
      rw [hrun] at hnone
      have htenant := (isolated_iff_tenant _ _ _).mp
        (h plainPipeline sampleAlert "acme" none _ verdict rfl hrun)
      rw [of_decide_eq_true hnone] at htenant
      exact absurd htenant (by decide)
  | raised =>
      rw [hrun] at hnone
      exact absurd hnone (by decide)
  | killed =>
      rw [hrun] at hnone
      exact absurd hnone (by decide)

end AlertTriage
