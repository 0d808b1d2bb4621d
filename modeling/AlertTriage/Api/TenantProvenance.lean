import AlertTriage.Api.Ingest
import AlertTriage.Api.Verdicts
import AlertTriage.Ingest.AlertIdentity

/-!
# The tenant of an ingested alert

The BFF puts the tenant of its caller into a service token and sends the token
as the only credential of the request. The ingest endpoints compare that token
with the API key, and nothing else of the service looks into it on this path;
no parser gives an alert a tenant, and the subject falls back to `default`. So
provenance fails for every alert of every request (`provenance_never`), and the
request as the BFF sends it is not even admitted (`bff_refused`).
-/

namespace AlertTriage

open Library

/-! ## §1  The request of the BFF -/

/-- `JSON.stringify` of an object. -/
def jsonStringify (fields : Params) : String :=
  Json.dumps ⟨false, false⟩ (.obj fields)

/-- `POST /api/ingest` of the BFF, once it has minted the token: the endpoint
that it calls and the request that it sends there. -/
def bffIngest (serviceToken : String) (source : Option AlertSource)
    (payload : Params) : IngestEndpoint × HttpRequest :=
  (match source with
    | some known => .single known.value
    | none => .auto,
   ⟨none, some ("Bearer " ++ serviceToken),
    .utf8 (jsonStringify (Json.remove "tenant_id" payload))⟩)

theorem removePrefix_append (pre s : String) : removePrefix pre (pre ++ s) = s := by
  unfold removePrefix
  rw [String.toList_append, if_pos (List.prefix_append _ _),
    ← String.length_toList, List.drop_left, String.ofList_toList]

/-- What such a request offers as its API key is the token. -/
theorem bffIngest_providedKey (serviceToken : String)
    (source : Option AlertSource) (payload : Params) :
    (bffIngest serviceToken source payload).2.providedKey = serviceToken :=
  removePrefix_append "Bearer " serviceToken

/-- **The request of the BFF is refused**, whatever its token says, unless the
token happens to be the API key. -/
theorem bff_refused (deps : IngestDeps) (e : ℕ → IntakeEnv)
    {serviceToken : String} (h : serviceToken ≠ deps.settings.apiKey)
    (source : Option AlertSource) (payload : Params) (a : ApiWorld) :
    ingest deps e (bffIngest serviceToken source payload).1
        (bffIngest serviceToken source payload).2 a =
      (.error (.exception (.http 401 "Invalid or missing API key")), a) := by
  have hguard : validateApiKey deps.settings
      (bffIngest serviceToken source payload).2 a =
      (.error (.exception (.http 401 "Invalid or missing API key")), a) := by
    rw [validateApiKey, bffIngest_providedKey, if_pos h]
    rfl
  cases source with
  | some known => exact Run.bind_error hguard
  | none => exact Run.bind_error hguard

/-! ## §2  No alert has a tenant -/

theorem toOption_eq_some {ε α : Type} {x : Except ε α} {a : α}
    (h : x.toOption = some a) : x = .ok a := by
  cases x with
  | error e => cases h
  | ok b => exact congrArg Except.ok (Option.some.inj h)

theorem resolve_tenantless {py : PyBuiltins} {uuid : String}
    {flat : Option AutoIngestFlatView} {payload : Params} {a : ParsedAlert}
    (h : resolveAlertForAutoIngest py uuid flat payload = .ok a) :
    a.tenantId = none := by
  unfold resolveAlertForAutoIngest at h
  obtain ⟨expanded, -, h⟩ := ok_of_bind h
  obtain ⟨source, -, h⟩ := ok_of_bind h
  dsimp only at h
  split at h
  · obtain ⟨b, hb, h⟩ := ok_of_bind h
    obtain rfl := Except.ok.inj h
    exact (normalize_ids hb).2
  · cases flat with
    | none =>
        obtain ⟨b, hb, h⟩ := ok_of_bind h
        obtain rfl := Except.ok.inj h
        exact (normalize_ids hb).2
    | some flat =>
        obtain ⟨b, hb, h⟩ := ok_of_bind h
        obtain rfl := Except.ok.inj h
        exact (normalize_ids hb).2

theorem singleAlert_tenantless {deps : IngestDeps} {e : IntakeEnv}
    {source : String} {body : Body} {x : BuiltAlert}
    (h : singleAlert deps e source body = .ok x) : x.alert.tenantId = none := by
  unfold singleAlert at h
  obtain ⟨_, -, h⟩ := ok_of_bind h
  split at h
  · cases h
  obtain ⟨payload, -, h⟩ := ok_of_bind h
  split at h
  · rename_i alert halert
    obtain rfl := Except.ok.inj h
    exact (normalize_ids halert).2
  · cases h

theorem autoAlert_tenantless {deps : IngestDeps} {e : IntakeEnv} {body : Body}
    {x : BuiltAlert} (h : autoAlert deps e body = .ok x) :
    x.alert.tenantId = none := by
  unfold autoAlert at h
  obtain ⟨_, -, h⟩ := ok_of_bind h
  obtain ⟨payload, -, h⟩ := ok_of_bind h
  dsimp only at h
  split at h
  · rename_i alert halert
    obtain rfl := Except.ok.inj h
    exact resolve_tenantless halert
  · cases h

theorem rowAlert_tenantless {deps : IngestDeps} {e : IntakeEnv} {row : BatchItem}
    {x : BuiltAlert} (h : rowAlert deps e row = .ok x) :
    x.alert.tenantId = none := by
  unfold rowAlert at h
  split at h
  · cases h
  dsimp only at h
  split at h
  · rename_i alert halert
    obtain rfl := Except.ok.inj h
    exact (normalize_ids halert).2
  · cases h

theorem builtRows_tenantless (deps : IngestDeps) (e : ℕ → IntakeEnv)
    (rows : List BatchItem) :
    ∀ i, ∀ alert ∈ builtRows deps e i rows, alert.tenantId = none := by
  induction rows with
  | nil =>
      intro i alert hmem
      exact absurd hmem (by simp [builtRows])
  | cons row rows ih =>
      intro i alert hmem
      rcases List.mem_append.mp hmem with hmem | hmem
      · obtain ⟨x, hx, rfl⟩ := List.mem_map.mp hmem
        exact rowAlert_tenantless
          (toOption_eq_some (Option.mem_toList.mp hx))
      · exact ih (i + 1) alert hmem

/-- No endpoint builds an alert that has a tenant. -/
theorem built_tenantless {deps : IngestDeps} {e : ℕ → IntakeEnv} {body : Body}
    {endpoint : IngestEndpoint} {alert : ParsedAlert}
    (h : alert ∈ builtAlerts deps e body endpoint) : alert.tenantId = none := by
  cases endpoint with
  | single source =>
      obtain ⟨x, hx, rfl⟩ := List.mem_map.mp h
      exact singleAlert_tenantless
        (toOption_eq_some (Option.mem_toList.mp hx))
  | auto =>
      obtain ⟨x, hx, rfl⟩ := List.mem_map.mp h
      exact autoAlert_tenantless
        (toOption_eq_some (Option.mem_toList.mp hx))
  | batch =>
      unfold builtAlerts at h
      dsimp only at h
      split at h
      · exact builtRows_tenantless deps e _ 0 alert h
      · exact absurd h (by simp)

/-- Whatever a request gets onto the stream goes out under `default`. -/
theorem published_default (deps : IngestDeps) (e : ℕ → IntakeEnv)
    (endpoint : IngestEndpoint) (r : HttpRequest) (a : ApiWorld)
    {id : Option String} {msg : NatsMsg} {acked : Bool}
    (h : Event.stored id msg acked ∈ (ingest deps e endpoint r a).2.world.log)
    (hnew : Event.stored id msg acked ∉ a.world.log) :
    ∃ alert : ParsedAlert, alert ∈ builtAlerts deps e r.body endpoint ∧
      msg.subject = subjAlert "default" alert.source.value alert.alertId := by
  have hstart : OnlyOf ((builtAlerts deps e r.body endpoint).map
      ParsedAlert.toNormalizedAlert) a a :=
    ⟨fun _ _ => .inl, fun _ _ _ => .inl, fun _ => .inl⟩
  have honly := ingest_only_built deps e endpoint r a hstart
  rcases honly.stream id msg acked h with hold | ⟨alert, hmem, body, rfl⟩
  · exact absurd hold hnew
  · obtain ⟨parsed, hparsed, rfl⟩ := List.mem_map.mp hmem
    refine ⟨parsed, hparsed, ?_⟩
    show subjectForAlert parsed.toNormalizedAlert = _
    simp [subjectForAlert, built_tenantless hparsed]

/-! ## §3  Provenance -/

/-- What a tenant's request should come to for an alert that it builds: the
request is admitted, the alert is of the tenant, and so is its subject. -/
structure TenantProvenance (deps : IngestDeps) (e : ℕ → IntakeEnv)
    (endpoint : IngestEndpoint) (r : HttpRequest) (a : ApiWorld)
    (tenantId : String) (alert : ParsedAlert) : Prop where
  admitted : ∃ reply a', ingest deps e endpoint r a = (.ok reply, a')
  tenant : alert.tenantId = some tenantId
  subject : subjectForAlert alert.toNormalizedAlert =
    subjAlert tenantId alert.source.value alert.alertId

/-- **Tenant provenance never holds**: on no endpoint, for no request that
carries a tenant's token, and for no alert that is built from its payload. -/
theorem provenance_never (deps : IngestDeps) (e : ℕ → IntakeEnv)
    (revoked : RevokedAnswer) (endpoint : IngestEndpoint) (r : HttpRequest)
    (a : ApiWorld) (tenantId : String) (alert : ParsedAlert) :
    CarriesTenant deps.toApiDeps revoked r tenantId a.world →
      alert ∈ builtAlerts deps e r.body endpoint →
      ¬ TenantProvenance deps e endpoint r a tenantId alert := by
  intro _ hbuilt hprovenance
  have htenant := hprovenance.tenant
  rw [built_tenantless hbuilt] at htenant
  exact absurd htenant (by simp)

/-! ## §4  A request -/

/-- The BFF forwards a Splunk alert of a caller of tenant `acme`. -/
def acmeRequest : HttpRequest := (bffIngest "t" (some .splunk) indexedPayload).2

/-- The API process has verified that token. -/
def acmeWorld : ApiWorld :=
  { ApiWorld.fresh with
    world := { World.fresh with jwtCache := tenantCache "acme" } }

theorem acme_carries : CarriesTenant plainIngest.toApiDeps (.answer false)
    acmeRequest "acme" acmeWorld.world :=
  ⟨⟨none, "acme", "ingest", none, none⟩,
    congrArg Prod.fst (attach_cached (w := acmeWorld.world) rfl rfl), rfl⟩

/-- The alert that is built from it, as far as routing is concerned. -/
theorem acme_built :
    (builtAlerts plainIngest (fun _ => smoothIntake) acmeRequest.body
      (.single "splunk")).map (fun alert =>
        (alert.tenantId, subjectForAlert alert.toNormalizedAlert)) =
      [(none, "alerts.v1.default.splunk.15ef9bbecabd794f")] := by
  decide +kernel

theorem provenance_never_acme :
    ∃ alert, ¬ TenantProvenance plainIngest (fun _ => smoothIntake)
      (.single "splunk") acmeRequest acmeWorld "acme" alert := by
  obtain ⟨alert, hmem⟩ : ∃ alert, alert ∈ builtAlerts plainIngest
      (fun _ => smoothIntake) acmeRequest.body (.single "splunk") := by
    apply List.exists_mem_of_ne_nil
    intro hnil
    have hbuilt := acme_built
    rw [hnil] at hbuilt
    exact absurd hbuilt (by simp)
  exact ⟨alert, provenance_never plainIngest _ (.answer false) _ _ acmeWorld
    "acme" alert acme_carries hmem⟩

/-- The subjects of the messages on the stream, newest first. -/
def storedSubjects (log : List Event) : List String :=
  log.filterMap fun
    | .stored _ msg _ => some msg.subject
    | _ => none

/-- The same request with the API key besides. -/
def keyedRequest : HttpRequest :=
  { acmeRequest with apiKeyHeader := some "analyse_alert" }

/-- With the key the alert is queued, stored without a tenant and published. -/
theorem keyed_queued :
    let run := ingest plainIngest (fun _ => smoothIntake) (.single "splunk")
      keyedRequest acmeWorld
    run.1 = .ok (.queued "15ef9bbecabd794f") ∧
      run.2.memAlerts.map (fun entry => (entry.1, entry.2.tenantId)) =
        [("15ef9bbecabd794f", none)] ∧
      storedSubjects run.2.world.log =
        ["alerts.v1.default.splunk.15ef9bbecabd794f"] := by
  decide +kernel

/-- The request as it is sent is refused; with the API key besides, it is
admitted, and its alert is stored without a tenant and published for
`default`. -/
theorem provenance_lost :
    (ingest plainIngest (fun _ => smoothIntake) (.single "splunk") acmeRequest
        acmeWorld).1 =
        .error (.exception (.http 401 "Invalid or missing API key")) ∧
      (ingest plainIngest (fun _ => smoothIntake) (.single "splunk") keyedRequest
        acmeWorld).1 = .ok (.queued "15ef9bbecabd794f") ∧
      (ingest plainIngest (fun _ => smoothIntake) (.single "splunk") keyedRequest
        acmeWorld).2.memAlerts.map (fun entry => (entry.1, entry.2.tenantId)) =
        [("15ef9bbecabd794f", none)] ∧
      storedSubjects (ingest plainIngest (fun _ => smoothIntake)
        (.single "splunk") keyedRequest acmeWorld).2.world.log =
        ["alerts.v1.default.splunk.15ef9bbecabd794f"] ∧
      ¬ ∀ (deps : IngestDeps) (e : ℕ → IntakeEnv) (revoked : RevokedAnswer)
        (endpoint : IngestEndpoint) (r : HttpRequest) (a : ApiWorld)
        (tenantId : String) (alert : ParsedAlert),
        CarriesTenant deps.toApiDeps revoked r tenantId a.world →
        alert ∈ builtAlerts deps e r.body endpoint →
        TenantProvenance deps e endpoint r a tenantId alert := by
  obtain ⟨hreply, hstored, hsubjects⟩ := keyed_queued
  refine ⟨?_, hreply, hstored, hsubjects, ?_⟩
  · -- the token alone is refused: there is a key to be given
    exact congrArg Prod.fst (bff_refused plainIngest _ (by decide)
      (some .splunk) indexedPayload acmeWorld)
  · intro h
    have hbuilt := acme_built
    cases hb : builtAlerts plainIngest (fun _ => smoothIntake) acmeRequest.body
        (.single "splunk") with
    | nil =>
        rw [hb] at hbuilt
        exact absurd hbuilt (by simp)
    | cons alert rest =>
        have hmem : alert ∈ builtAlerts plainIngest (fun _ => smoothIntake)
            acmeRequest.body (.single "splunk") := by
          rw [hb]
          exact List.mem_cons_self
        have htenant := (h plainIngest _ (.answer false) _ acmeRequest acmeWorld
          "acme" alert acme_carries hmem).tenant
        rw [built_tenantless hmem] at htenant
        exact absurd htenant (by simp)

end AlertTriage
