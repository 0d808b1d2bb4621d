import AlertTriage.Api.AlertFootprint
import AlertTriage.Ingest.AlertIdentity
import AlertTriage.Library.Transition

/-!
# `services/_runtime/audit.py` behind the ingest endpoints

The audit store keeps a payload for every alert and, if a model made up the alert's fields, a
trace of that. The endpoints hand it the payload that the guard has been over, and none of
them records a trace: a bundle shows what was received just when the guard leaves the payload
alone and no model had a part in the alert (`audit_shows_iff`).
-/

namespace AlertTriage

open Library

/-! ## §1  Bundles -/

def coercionKey (traceId : String) : String := "coercion_traces:" ++ traceId

/-- `get_raw_payload` and `get_coercion`: what cannot be read counts as absent. -/
def readAudit (audit : Option ℕ) (o : Outcome) (key : String) : Io (Option Json) :=
  match audit with
  | none => return none
  | some _ =>
      Run.tryExcept
        (do
          let v ← redisGet o key
          Run.ofExcept (readStored loadsJob v))
        (fun _ => return none)

def getRawPayload (audit : Option ℕ) (o : Outcome) (alertId : String) : Io (Option Json) :=
  readAudit audit o (rawKey alertId)

def getCoercion (audit : Option ℕ) (o : Outcome) (traceId : String) : Io (Option Json) :=
  readAudit audit o (coercionKey traceId)

/-- The bundle has a coercion only if a trace was asked for. -/
structure AuditBundle where
  alertId : String
  rawPayload : Option Json
  coercion : Option (Option Json)

/-- How the reads of a bundle end. -/
structure BundleEnv where
  rawPayload : Outcome
  coercion : Outcome

/-- `get_bundle`. -/
def getBundle (audit : Option ℕ) (e : BundleEnv) (alertId : String)
    (coercionTraceId : Option String) : Io AuditBundle := do
  let rawPayload ← getRawPayload audit e.rawPayload alertId
  match coercionTraceId with
  | none => return ⟨alertId, rawPayload, none⟩
  | some traceId =>
      if traceId = "" then return ⟨alertId, rawPayload, none⟩
      else do
        let coercion ← getCoercion audit e.coercion traceId
        return ⟨alertId, rawPayload, some coercion⟩

/-- Redis answers. -/
def answeredReads : BundleEnv := ⟨.returned, .returned⟩

/-! ## §2  What was received -/

/-- The fields of an alert that say whether a model made it up. -/
structure CoercionMarks where
  coercedByLlm : Bool := false
  coercionTraceId : Option String := none

/-- The marks of an alert as it is stored: no parser passes them, and auto-ingest updates
`raw_payload` alone. -/
def BuiltAlert.marks (_ : BuiltAlert) : CoercionMarks := {}

/-- An alert that an endpoint accepts, the payload as it was received, and whether the fields
of the alert are a model's. -/
structure Acceptance where
  received : Params
  built : BuiltAlert
  coerced : Bool

def Acceptance.alertId (t : Acceptance) : String := t.built.alert.alertId

/-- `resolve_alert_for_auto_ingest` takes the fields from the model's answer. -/
def fieldsCoerced (flat : Option AutoIngestFlatView) (payload : Params) : Bool :=
  match expandAutoIngestPayload payload with
  | .error _ => false
  | .ok expanded =>
      match detectSource expanded with
      | .ok .generic => flat.isSome
      | _ => false

/-- The object in a body. -/
def objectIn (body : Body) : Option Params :=
  match requestJson body with
  | .ok (.obj fields) => some fields
  | _ => none

/-- The rows of a batch from the `i`-th on. -/
def acceptedRows (deps : IngestDeps) (e : ℕ → IntakeEnv) : ℕ → List BatchItem → List Acceptance
  | _, [] => []
  | i, row :: rows =>
      match rowAlert deps (e i) row with
      | .ok x => ⟨row.payload, x, false⟩ :: acceptedRows deps e (i + 1) rows
      | .error _ => acceptedRows deps e (i + 1) rows

/-- What an endpoint accepts from a body, in the order in which it is taken in. -/
def accepted (deps : IngestDeps) (e : ℕ → IntakeEnv) (body : Body) :
    IngestEndpoint → List Acceptance
  | .single source =>
      match objectIn body, singleAlert deps (e 0) source body with
      | some fields, .ok x => [⟨fields, x, false⟩]
      | _, _ => []
  | .auto =>
      match objectIn body, autoAlert deps (e 0) body with
      | some fields, .ok x =>
          [⟨fields, x, fieldsCoerced (if deps.coerceLlm then (e 0).flat else none)
            (sanitisePayload deps.guard fields)⟩]
      | _, _ => []
  | .batch =>
      match batchItems body with
      | .ok rows => acceptedRows deps e 0 rows
      | .error _ => []

variable {deps : IngestDeps} {e : ℕ → IntakeEnv} {body : Body} {t : Acceptance}

theorem requestJson_of_objectIn {fields : Params} (h : objectIn body = some fields) :
    requestJson body = .ok (.obj fields) := by
  unfold objectIn at h
  split at h
  · rename_i hjson
    rw [hjson, Option.some.inj h]
  · cases h

theorem requestPayload_of_objectIn {guard : GuardPatterns} {fields payload : Params}
    (h : objectIn body = some fields) (hp : requestPayload guard body = .ok payload) :
    payload = sanitisePayload guard fields := by
  unfold requestPayload at hp
  rw [requestJson_of_objectIn h] at hp
  exact (Except.ok.inj hp).symm

theorem rowAlert_payload {e : IntakeEnv} {row : BatchItem} {x : BuiltAlert}
    (h : rowAlert deps e row = .ok x) : x.payload = sanitisePayload deps.guard row.payload := by
  unfold rowAlert at h
  split at h
  · cases h
  · dsimp only at h
    split at h
    · obtain rfl := Except.ok.inj h
      rfl
    · cases h

theorem mem_acceptedRows {rows : List BatchItem} {i : ℕ} (h : t ∈ acceptedRows deps e i rows) :
    ∃ row ∈ rows, t.received = row.payload ∧
      t.built.payload = sanitisePayload deps.guard row.payload := by
  induction rows generalizing i with
  | nil => cases h
  | cons row rows ih =>
      unfold acceptedRows at h
      split at h
      · rename_i x hx
        rcases List.mem_cons.mp h with rfl | h
        · exact ⟨row, List.mem_cons_self, rfl, rowAlert_payload hx⟩
        · obtain ⟨found, hmem, hfound⟩ := ih h
          exact ⟨found, List.mem_cons_of_mem _ hmem, hfound⟩
      · obtain ⟨found, hmem, hfound⟩ := ih h
        exact ⟨found, List.mem_cons_of_mem _ hmem, hfound⟩

/-- An alert is accepted with the object of the body, or with that of a row. -/
theorem accepted_cases {endpoint : IngestEndpoint} (h : t ∈ accepted deps e body endpoint) :
    (objectIn body = some t.received ∨
      ∃ rows, batchItems body = .ok rows ∧ ∃ row ∈ rows, t.received = row.payload) ∧
    t.built.payload = sanitisePayload deps.guard t.received := by
  cases endpoint with
  | single source =>
      simp only [accepted] at h
      split at h
      · rename_i fields x hfields hx
        obtain rfl := List.mem_singleton.mp h
        refine ⟨.inl hfields, ?_⟩
        unfold singleAlert at hx
        obtain ⟨_, -, hx⟩ := ok_of_bind hx
        split at hx
        · cases hx
        · obtain ⟨payload, hpayload, hx⟩ := ok_of_bind hx
          split at hx
          · obtain rfl := Except.ok.inj hx
            exact requestPayload_of_objectIn hfields hpayload
          · cases hx
      · cases h
  | auto =>
      simp only [accepted] at h
      split at h
      · rename_i fields x hfields hx
        obtain rfl := List.mem_singleton.mp h
        refine ⟨.inl hfields, ?_⟩
        unfold autoAlert at hx
        obtain ⟨_, -, hx⟩ := ok_of_bind hx
        obtain ⟨payload, hpayload, hx⟩ := ok_of_bind hx
        dsimp only at hx
        split at hx
        · obtain rfl := Except.ok.inj hx
          exact requestPayload_of_objectIn hfields hpayload
        · cases hx
      · cases h
  | batch =>
      -- a row keeps the payload that it came with
      simp only [accepted] at h
      split at h
      · rename_i rows hrows
        obtain ⟨row, hmem, hreceived, hpayload⟩ := mem_acceptedRows h
        refine ⟨.inr ⟨rows, hrows, row, hmem, hreceived⟩, ?_⟩
        rw [hreceived]
        exact hpayload
      · cases h

/-! ## §3  Payloads are read back -/

theorem distinct_of_lookup {fields : Params} {key : String} {v : Json}
    (h : Json.Distinct (.obj fields)) (hv : Json.lookup key fields = some v) :
    Json.Distinct v := by
  obtain ⟨f, hf, rfl⟩ := Option.map_eq_some_iff.mp hv
  exact Json.distinctFields_iff.mp h.2 f (List.mem_of_find?_eq_some hf)

theorem batchItem_distinct {j : Json} {row : BatchItem} (h : Json.Distinct j)
    (hrow : batchItem j = some row) : Json.Distinct (.obj row.payload) := by
  unfold batchItem at hrow
  split at hrow
  · split at hrow
    · rename_i hpayload
      obtain rfl := Option.some.inj hrow
      exact distinct_of_lookup h hpayload
    · cases hrow
  · cases hrow

/-- What a `mapM` comes to is made of its items. -/
theorem exists_of_mem_mapM {α β : Type} {f : α → Option β} {xs : List α} {ys : List β}
    (h : xs.mapM f = some ys) {y : β} (hy : y ∈ ys) : ∃ x ∈ xs, f x = some y := by
  induction xs generalizing ys with
  | nil =>
      obtain rfl : [] = ys := by simpa using h
      cases hy
  | cons x xs ih =>
      rw [List.mapM_cons] at h
      obtain ⟨z, hz, h⟩ := Option.bind_eq_some_iff.mp h
      obtain ⟨zs, hzs, h⟩ := Option.bind_eq_some_iff.mp h
      obtain rfl := Option.some.inj h
      rcases List.mem_cons.mp hy with rfl | hy
      · exact ⟨x, List.mem_cons_self, hz⟩
      · obtain ⟨w, hw, hfw⟩ := ih hzs hy
        exact ⟨w, List.mem_cons_of_mem _ hw, hfw⟩

theorem batchBody_distinct {j : Json} {rows : List BatchItem} (h : Json.Distinct j)
    (hrows : batchBody j = some rows) : ∀ row ∈ rows, Json.Distinct (.obj row.payload) := by
  unfold batchBody at hrows
  split at hrows
  · split at hrows
    · obtain rfl := Option.some.inj hrows
      simp
    · rename_i items hitems
      split at hrows
      · intro row hmem
        have hdistinct := Json.distinctItems_iff.mp (distinct_of_lookup h hitems)
        obtain ⟨j, hj, hrow⟩ := exists_of_mem_mapM hrows hmem
        exact batchItem_distinct (hdistinct j hj) hrow
      · cases hrows
    · cases hrows
  · cases hrows

theorem objectIn_distinct {fields : Params} (h : objectIn body = some fields) :
    Json.Distinct (.obj fields) := by
  have hjson := requestJson_of_objectIn h
  unfold requestJson at hjson
  split at hjson
  · split at hjson
    · rename_i hloads
      obtain rfl := Except.ok.inj hjson
      exact Json.loads_distinct hloads
    · cases hjson
  · cases hjson

/-- A payload that was received repeats no key. -/
theorem accepted_distinct {endpoint : IngestEndpoint} (h : t ∈ accepted deps e body endpoint) :
    Json.Distinct (.obj t.received) := by
  obtain ⟨hfields | ⟨rows, hrows, row, hmem, hreceived⟩, -⟩ := accepted_cases h
  · exact objectIn_distinct hfields
  · rw [hreceived]
    unfold batchItems at hrows
    split at hrows
    · split at hrows
      · rename_i items hitems
        obtain rfl := Except.ok.inj hrows
        obtain ⟨j, hj, hbody⟩ := Option.bind_eq_some_iff.mp hitems
        exact batchBody_distinct (Json.loads_distinct hj) hbody row hmem
      · cases hrows
    · cases hrows

/-- The guard keeps the keys apart. -/
theorem sanitiseFields_distinct (guard : GuardPatterns) : ∀ (n : ℕ) {fields : Params},
    Json.Distinct (.obj fields) → Json.Distinct (.obj (sanitiseFields guard n fields)) := by
  intro n
  induction n with
  | zero => exact id
  | succ n ih =>
      rintro fields ⟨hkeys, hvalues⟩
      rw [Json.distinctFields_iff] at hvalues
      refine ⟨?_, Json.distinctFields_iff.mpr ?_⟩
      · rw [sanitiseFields, List.map_map]
        exact hkeys
      · intro f hf
        obtain ⟨⟨key, v⟩, hmem, rfl⟩ := List.mem_map.mp hf
        have hv := hvalues _ hmem
        cases v with
        | obj inner => exact ih hv
        | arr items =>
            rw [Json.Distinct, Json.distinctItems_iff] at hv
            refine Json.distinctItems_iff.mpr fun item hitem => ?_
            obtain ⟨old, hold, rfl⟩ := List.mem_map.mp hitem
            have hdistinct := hv old hold
            cases old with
            | obj inner => exact ih hdistinct
            | str s => trivial
            | _ => exact hdistinct
        | str s => trivial
        | _ => exact hv

/-! ## §4  What stays on record -/

/-- The payload is on record for the alert until `limit`; the clock says `n`. -/
structure PayloadKept (alertId : String) (payload : Params) (n limit : ℕ) (w : World) : Prop where
  now : w.now = n
  record : ∀ t < limit, w.redis.get t (rawKey alertId) = some (.text (jsonDumps payload))

section Calls

variable {alertId : String} {payload : Params} {n limit : ℕ} {w w' : World}

/-- Nothing is on record before time begins. -/
theorem PayloadKept.of_now (h : w.now = n) : PayloadKept alertId payload n 0 w :=
  ⟨h, fun t ht => absurd ht (Nat.not_lt_zero t)⟩

theorem PayloadKept.of_get (h : PayloadKept alertId payload n limit w) (hnow : w'.now = w.now)
    (hget : ∀ t, w'.redis.get t (rawKey alertId) = w.redis.get t (rawKey alertId)) :
    PayloadKept alertId payload n limit w' := by
  refine ⟨hnow.trans h.now, fun t ht => ?_⟩
  rw [hget]
  exact h.record t ht

/-- What a service keeps of the world, the process keeps. -/
theorem keeps_inWorld {P : World → Prop} {α : Type} {x : Io α} (h : Run.Keeps P x) :
    Run.Keeps (fun a : ApiWorld => P a.world) (onWorld x) :=
  Run.Keeps.focus h (fun _ ha => ha) fun _ _ _ hw => hw

theorem payloadKept_redisSet {key : String} (h : rawKey alertId ≠ key) (o : Outcome)
    (value : RedisValue) :
    Run.Keeps (PayloadKept alertId payload n limit) (redisSet o key value) :=
  Run.Keeps.call fun _ hw => hw.of_get rfl fun _ => TtlStore.get_set_ne h

theorem payloadKept_putAlert (p : AlertPersistence) (codec : AlertCodec) (o : Outcome)
    (alert : NormalizedAlert) :
    Run.Keeps (fun a => PayloadKept alertId payload n limit a.world)
      (putAlert p codec o alert) := by
  unfold putAlert
  split
  · apply keeps_inWorld
    refine Run.Keeps.bind (Run.Keeps.ofExcept _) fun text => payloadKept_redisSet ?_ o _
    exact AlertSlot.key_ne_of_stem .rawPayload .alert (by decide) _ _
  · exact Run.Keeps.modify fun _ ha => ha

theorem payloadKept_setJob (p : AlertPersistence) (o : Outcome) (id : String) (status : JobStatus)
    (error : Option String) :
    Run.Keeps (fun a => PayloadKept alertId payload n limit a.world)
      (setJob p o id status error) := by
  unfold setJob
  split
  · apply keeps_inWorld
    apply payloadKept_redisSet
    exact AlertSlot.key_ne_of_stem .rawPayload .job (by decide) _ _
  · exact Run.Keeps.modify fun _ ha => ha

theorem payloadKept_putVerdict (p : AlertPersistence) (codec : VerdictCodec) (o : Outcome)
    (id : String) (verdict : TriageVerdict) :
    Run.Keeps (PayloadKept alertId payload n limit) (putVerdict p codec o id verdict) := by
  unfold putVerdict
  split
  · refine Run.Keeps.bind (Run.Keeps.ofExcept _) fun text => payloadKept_redisSet ?_ o _
    exact AlertSlot.key_ne_of_stem .rawPayload .verdict (by decide) _ _
  · exact Run.Keeps.modify fun _ hw => hw.of_get rfl fun _ => rfl

theorem rawKey_inj {id id' : String} (h : rawKey id = rawKey id') : id = id' :=
  String.append_right_inj _ |>.mp h

/-- The payload of another alert is recorded elsewhere. -/
theorem payloadKept_recordRawPayload {id : String} (h : id ≠ alertId) (audit : Option ℕ)
    (o : Outcome) (raw : Params) :
    Run.Keeps (PayloadKept alertId payload n limit) (recordRawPayload audit o id raw) := by
  unfold recordRawPayload
  split
  · exact Run.Keeps.pure ()
  · refine Run.Keeps.tryExcept (Run.Keeps.call fun w hw => ?_) fun _ => Run.Keeps.pure ()
    refine hw.of_get rfl fun _ => TtlStore.get_setEx_ne fun heq => ?_
    exact h (rawKey_inj heq).symm

theorem payloadKept_enqueue (codec : AlertCodec) (state : Option RuntimeState) (e : EnqueueEnv)
    (alert : NormalizedAlert) :
    Run.Keeps (PayloadKept alertId payload n limit) (enqueueViaNats codec state e alert) := by
  apply enqueue_keeps
  · intro value ttl w hw
    refine hw.of_get rfl fun _ => TtlStore.get_setEx_ne ?_
    exact AlertSlot.key_ne_of_stem .rawPayload .entry (by decide) _ _
  · intro e body w hw
    unfold World.afterPublish
    dsimp only
    split
    · exact hw.of_get rfl fun _ => rfl
    · exact hw.of_get rfl fun _ => rfl
  · intro w hw
    refine hw.of_get rfl fun _ => TtlStore.get_removeAll_of_notMem ?_
    have hentry := AlertSlot.key_ne_of_stem .rawPayload .entry (by decide) alertId alert.alertId
    have hlease := AlertSlot.key_ne_of_stem .rawPayload .lease (by decide) alertId alert.alertId
    have hattempts :=
      AlertSlot.key_ne_of_stem .rawPayload .attempts (by decide) alertId alert.alertId
    simpa using ⟨hentry, hlease, hattempts⟩

theorem payloadKept_dispatchTriage (deps : IngestDeps) (e : EnqueueEnv) (alert : NormalizedAlert) :
    Run.Keeps (fun a => PayloadKept alertId payload n limit a.world)
      (dispatchTriage deps e alert) := by
  unfold dispatchTriage offerToNats
  refine Run.Keeps.bind ?_ fun sent => Run.Keeps.pure _
  split
  · exact Run.Keeps.tryExcept (keeps_inWorld (payloadKept_enqueue _ _ e alert)) fun _ =>
      Run.Keeps.pure false
  · exact Run.Keeps.pure false

/-- An intake leaves the record of another alert. -/
theorem payloadKept_intake {deps : IngestDeps} {e : IntakeEnv} {x : BuiltAlert}
    (h : x.alert.alertId ≠ alertId) :
    Run.Keeps (fun a => PayloadKept alertId payload n limit a.world) (intake deps e x) := by
  unfold intake
  refine Run.Keeps.bind (payloadKept_putAlert _ _ _ _) fun _ => ?_
  refine Run.Keeps.bind (payloadKept_setJob _ _ _ _ _) fun _ => ?_
  refine Run.Keeps.bind (keeps_inWorld (payloadKept_recordRawPayload h _ _ _)) fun _ => ?_
  exact payloadKept_dispatchTriage deps e.enqueue _

/-- An intake puts the payload of its alert on record. -/
theorem intake_records {deps : IngestDeps} {ttl : ℕ} (haudit : deps.audit = some ttl)
    {e : IntakeEnv} (hup : e.audit = .returned) {x : BuiltAlert} {a a' : ApiWorld}
    {tasks : List NormalizedAlert} (hnow : a.world.now = n)
    (h : intake deps e x a = (.ok tasks, a')) :
    PayloadKept x.alert.alertId x.payload n (n + ttl * second) a'.world := by
  unfold intake at h
  obtain ⟨_, a₁, hput, h⟩ := Run.bind_eq_ok h
  obtain ⟨_, a₂, hset, h⟩ := Run.bind_eq_ok h
  obtain ⟨_, a₃, hrecord, h⟩ := Run.bind_eq_ok h
  have hstart : PayloadKept x.alert.alertId x.payload n 0 a.world := .of_now hnow
  have h₁ := (payloadKept_putAlert _ _ _ _).result hstart hput
  have h₂ := (payloadKept_setJob _ _ _ _ _).result h₁ hset
  obtain ⟨w₃, hwrote, rfl⟩ := Run.focus_eq_ok hrecord
  simp only [haudit, hup, recordRawPayload] at hwrote
  obtain rfl := (congrArg Prod.snd hwrote : _ = w₃)
  refine (payloadKept_dispatchTriage deps e.enqueue _).result ?_ h
  refine ⟨h₂.now, fun t ht => ?_⟩
  rw [← h₂.now] at ht
  exact TtlStore.get_setEx_of_lt ht

theorem payloadKept_takeRows {deps : IngestDeps} {e : ℕ → IntakeEnv} {rows : List BatchItem} :
    ∀ {i : ℕ}, (∀ t ∈ acceptedRows deps e i rows, t.alertId ≠ alertId) →
      Run.Keeps (fun a => PayloadKept alertId payload n limit a.world)
        (takeRows deps e i rows) := by
  induction rows with
  | nil => exact fun _ => Run.Keeps.pure _
  | cons row rows ih =>
      intro i h
      unfold acceptedRows at h
      unfold takeRows
      cases hrow : rowAlert deps (e i) row with
      | error text =>
          rw [hrow] at h
          exact Run.Keeps.bind (ih h) fun _ => Run.Keeps.pure _
      | ok x =>
          rw [hrow] at h
          obtain ⟨hx, hrest⟩ := List.forall_mem_cons.mp h
          refine Run.Keeps.bind (payloadKept_intake hx) fun _ => ?_
          exact Run.Keeps.bind (ih hrest) fun _ => Run.Keeps.pure _

/-- The rows of a batch put the payload on record of every alert that no later row is of. -/
theorem takeRows_records {deps : IngestDeps} {ttl : ℕ} (haudit : deps.audit = some ttl)
    {e : ℕ → IntakeEnv} (hup : ∀ i, (e i).audit = .returned) {t : Acceptance}
    {later : List Acceptance} (hlast : ∀ y ∈ later, y.alertId ≠ t.alertId)
    {rows : List BatchItem} : ∀ {i : ℕ} {before : List Acceptance} {a a' : ApiWorld}
      {res : List BatchResult × List NormalizedAlert},
      acceptedRows deps e i rows = before ++ t :: later → a.world.now = n →
      takeRows deps e i rows a = (.ok res, a') →
      PayloadKept t.alertId t.built.payload n (n + ttl * second) a'.world := by
  induction rows with
  | nil =>
      intro i before a a' res hrows
      simp [acceptedRows] at hrows
  | cons row rows ih =>
      intro i before a a' res hrows hnow h
      unfold acceptedRows at hrows
      unfold takeRows at h
      cases hrow : rowAlert deps (e i) row with
      | error text =>
          rw [hrow] at hrows h
          obtain ⟨rest, a₁, hrest, h⟩ := Run.bind_eq_ok h
          obtain rfl : a₁ = a' := congrArg Prod.snd h
          exact ih hrows hnow hrest
      | ok x =>
          rw [hrow] at hrows h
          obtain ⟨tasks, a₁, hintake, h⟩ := Run.bind_eq_ok h
          obtain ⟨rest, a₂, hrest, h⟩ := Run.bind_eq_ok h
          obtain rfl : a₂ = a' := congrArg Prod.snd h
          have hrecorded := intake_records haudit (hup i) hnow hintake
          cases before with
          | nil =>
              -- the row is the one in question, and the rows after it are of other alerts
              obtain ⟨rfl, rfl⟩ := List.cons.inj hrows
              exact (payloadKept_takeRows hlast).result hrecorded hrest
          | cons first before =>
              obtain ⟨-, hrows⟩ := List.cons.inj hrows
              exact ih hrows hrecorded.now hrest

theorem of_validateApiKey {settings : ApiSettings} {r : HttpRequest} {a a' : ApiWorld} {u : Unit}
    (h : validateApiKey settings r a = (.ok u, a')) : a' = a := by
  unfold validateApiKey at h
  split at h
  · cases congrArg Prod.fst h
  · exact (congrArg Prod.snd h).symm

theorem of_ofExcept {α : Type} {x : Except ApiExn α} {y : α} {a a' : ApiWorld}
    (h : Run.ofExcept x a = (.ok y, a')) : x = .ok y ∧ a' = a := by
  cases x with
  | error u => cases congrArg Prod.fst h
  | ok z =>
      obtain ⟨hz, ha⟩ := Prod.mk.inj h
      exact ⟨congrArg Except.ok (Except.ok.inj hz), ha.symm⟩

/-- The one alert of a request, and the tasks that its intake adds. -/
theorem one_records {deps : IngestDeps} {ttl : ℕ} (haudit : deps.audit = some ttl)
    {e : IntakeEnv} (hup : e.audit = .returned) {r : HttpRequest}
    {built : Except ApiExn BuiltAlert} {answer : BuiltAlert → IngestReply} {reply : IngestReply}
    {a a' : ApiWorld}
    (h : (do
        validateApiKey deps.settings r
        let x ← Run.ofExcept built
        let tasks ← intake deps e x
        schedule tasks
        return answer x) a = (.ok reply, a')) :
    ∃ x, built = .ok x ∧
      PayloadKept x.alert.alertId x.payload a.world.now (a.world.now + ttl * second) a'.world := by
  obtain ⟨_, a₁, hkey, h⟩ := Run.bind_eq_ok h
  obtain ⟨x, a₂, hbuilt, h⟩ := Run.bind_eq_ok h
  obtain ⟨hx, ha₂⟩ := of_ofExcept hbuilt
  rw [ha₂, of_validateApiKey hkey] at h
  obtain ⟨tasks, a₃, hintake, h⟩ := Run.bind_eq_ok h
  have hworld : a₃.world = a'.world := congrArg (fun res => ApiWorld.world res.2) h
  rw [← hworld]
  exact ⟨x, hx, intake_records haudit hup rfl hintake⟩

/-- The one alert that a request of its own builds. -/
theorem acceptance_of_one {read : Option Params} {built : Except ApiExn BuiltAlert}
    {coerced : Params → Bool} {t : Acceptance} {before later : List Acceptance}
    (h : (match read, built with
      | some fields, .ok x => [⟨fields, x, coerced fields⟩]
      | _, _ => []) = before ++ t :: later) {x : BuiltAlert} (hx : built = .ok x) :
    t.built = x := by
  subst hx
  cases read with
  | none => simp at h
  | some fields =>
      cases before with
      | nil => rw [← (List.cons.inj h).1]
      | cons first before => simp at h

/-- **An ingest that answers has put on record** what it was handed for every alert that it
accepted, unless it accepted the alert again. -/
theorem ingest_records {deps : IngestDeps} {ttl : ℕ} (haudit : deps.audit = some ttl)
    {e : ℕ → IntakeEnv} (hup : ∀ i, (e i).audit = .returned) {endpoint : IngestEndpoint}
    {r : HttpRequest} {t : Acceptance} {before later : List Acceptance}
    (haccepted : accepted deps e r.body endpoint = before ++ t :: later)
    (hlast : ∀ y ∈ later, y.alertId ≠ t.alertId) {a a' : ApiWorld} {reply : IngestReply}
    (h : ingest deps e endpoint r a = (.ok reply, a')) :
    PayloadKept t.alertId t.built.payload a.world.now (a.world.now + ttl * second) a'.world := by
  cases endpoint with
  | single source =>
      obtain ⟨x, hx, hkept⟩ := one_records haudit (hup 0) h
      have hone : t.built = x := acceptance_of_one haccepted hx
      rw [Acceptance.alertId, hone]
      exact hkept
  | auto =>
      obtain ⟨x, hx, hkept⟩ := one_records haudit (hup 0) h
      have hone : t.built = x := acceptance_of_one haccepted hx
      rw [Acceptance.alertId, hone]
      exact hkept
  | batch =>
      simp only [ingest] at h
      obtain ⟨rows, a₁, hrows, hrest⟩ := Run.bind_eq_ok h
      obtain ⟨hitems, ha₁⟩ := of_ofExcept hrows
      obtain ⟨_, a₂, hkey, hrest⟩ := Run.bind_eq_ok hrest
      obtain ⟨res, a₃, htake, hanswer⟩ := Run.bind_eq_ok hrest
      have hworld : a₃.world = a'.world := congrArg (fun res => ApiWorld.world res.2) hanswer
      rw [of_validateApiKey hkey, ha₁] at htake
      simp only [accepted, hitems] at haccepted
      rw [← hworld]
      exact takeRows_records haudit hup hlast haccepted rfl htake

end Calls

/-! ## §5  Whatever comes later -/

/-- What requests and tasks call of the stores, and what goes on meanwhile. -/
inductive StoreCall where
  | putAlert (o : Outcome) (alert : NormalizedAlert)
  | setJob (o : Outcome) (alertId : String) (status : JobStatus) (error : Option String)
  | recordRaw (o : Outcome) (x : BuiltAlert)
  | dispatch (e : EnqueueEnv) (alert : NormalizedAlert)
  | putVerdict (o : Outcome) (alertId : String) (verdict : TriageVerdict)
  -- time passes, and other programs write
  | elapse (i : Interlude)

def StoreCall.perform (deps : IngestDeps) : StoreCall → ApiIo Unit
  | .putAlert o alert => AlertTriage.putAlert deps.persistence deps.alertCodec o alert
  | .setJob o alertId status error => AlertTriage.setJob deps.persistence o alertId status error
  | .recordRaw o x => onWorld (recordRawPayload deps.audit o x.alert.alertId x.payload)
  | .dispatch e alert => do
      let _ ← dispatchTriage deps e alert
      return ()
  | .putVerdict o alertId verdict =>
      onWorld (AlertTriage.putVerdict deps.persistence deps.verdictCodec o alertId verdict)
  | .elapse i => Run.modify fun a => { a with world := a.world.elapse i }

/-- The calls of requests and tasks side by side, in any order and however they end. -/
def storeCalls (deps : IngestDeps) (a₁ : ApiWorld) : System ApiWorld StoreCall where
  start a := a = a₁
  step a c := some (c.perform deps a).2

/-- The call is of no ingest of the alert, and nobody else writes its payload. -/
def StoreCall.leaves (alertId : String) : StoreCall → Bool
  | .recordRaw _ x => x.alert.alertId != alertId
  | .elapse i => i.spares (rawKey alertId)
  | _ => true

/-- **A step leaves the record** of an alert that it does not take in. -/
theorem PayloadKept.perform {alertId : String} {payload : Params} {n limit : ℕ}
    {deps : IngestDeps} {a : ApiWorld} (h : PayloadKept alertId payload n limit a.world) {c : StoreCall}
    (hc : c.leaves alertId = true) :
    ∃ n', PayloadKept alertId payload n' limit (c.perform deps a).2.world := by
  cases c with
  | putAlert o alert =>
      exact ⟨n, payloadKept_putAlert deps.persistence deps.alertCodec o alert a h⟩
  | setJob o id status error => exact ⟨n, payloadKept_setJob _ o id status error a h⟩
  | recordRaw o x =>
      have hne : x.alert.alertId ≠ alertId := by simpa [StoreCall.leaves] using hc
      exact ⟨n, keeps_inWorld (payloadKept_recordRawPayload hne _ o _) a h⟩
  | dispatch e alert =>
      refine ⟨n, ?_⟩
      exact Run.Keeps.bind (payloadKept_dispatchTriage deps e alert)
        (fun _ => Run.Keeps.pure ()) a h
  | putVerdict o id verdict =>
      exact ⟨n, keeps_inWorld (payloadKept_putVerdict _ _ o id verdict) a h⟩
  | elapse i =>
      refine ⟨_, rfl, fun t ht => ?_⟩
      show (a.world.elapse i).redis.get t (rawKey alertId) = _
      rw [World.get_elapse hc]
      exact h.record t ht

theorem payloadKept_reached {alertId : String} {payload : Params} {n limit : ℕ}
    {deps : IngestDeps} {a₁ a₂ : ApiWorld} (h : PayloadKept alertId payload n limit a₁.world)
    (hrun : (storeCalls deps a₁).Reached (fun _ c => c.leaves alertId) a₂) :
    ∃ n', PayloadKept alertId payload n' limit a₂.world := by
  apply hrun.invariant
  · rintro a rfl
    exact ⟨n, h⟩
  · rintro a c a' ⟨m, hm⟩ hc hstep
    obtain rfl := Option.some.inj hstep
    exact hm.perform hc

/-! ## §6  What a bundle shows -/

/-- The bundle of an alert shows the payload as it was received, and, where the fields of the
alert are a model's, the stored alert says so and names the record of it. -/
structure AuditShows (deps : IngestDeps) (t : Acceptance) (w : World) : Prop where
  raw : ∃ bundle, (getBundle deps.audit answeredReads t.alertId none w).1 = .ok bundle ∧
    bundle.rawPayload = some (.obj t.received)
  coercion : t.coerced = true → t.built.marks.coercedByLlm = true ∧
    ∃ traceId bundle record, t.built.marks.coercionTraceId = some traceId ∧
      (getBundle deps.audit answeredReads t.alertId (some traceId) w).1 = .ok bundle ∧
      bundle.coercion = some (some record)

/-- A bundle has the payload that is on record. -/
theorem getBundle_payloadKept {alertId : String} {payload : Params} {n limit : ℕ} {w : World}
    (h : PayloadKept alertId payload n limit w) (ttl : ℕ) (hd : Json.Distinct (.obj payload))
    (htime : w.now < limit) :
    (getBundle (some ttl) answeredReads alertId none w).1 =
      .ok ⟨alertId, some (.obj payload), none⟩ := by
  have hget : w.lookup (rawKey alertId) = some (.text (jsonDumps payload)) :=
    h.record w.now htime
  have hread : getRawPayload (some ttl) .returned alertId w = (.ok (some (.obj payload)), w) := by
    apply Run.tryExcept_ok
    show Run.ofExcept (readStored loadsJob (w.lookup (rawKey alertId))) w = _
    rw [hget]
    exact congrArg (fun x => Run.ofExcept x w) (readStored_dumps hd)
  exact congrArg Prod.fst (Run.bind_ok hread)

/-- **The audit bundle shows what was received and what was done** just when the guard leaves
the payload as it is and the fields are not a model's. -/
theorem audit_shows_iff {deps : IngestDeps} {ttl : ℕ} (haudit : deps.audit = some ttl)
    {e : ℕ → IntakeEnv} (hup : ∀ i, (e i).audit = .returned) {endpoint : IngestEndpoint}
    {r : HttpRequest} {t : Acceptance} {before later : List Acceptance}
    (haccepted : accepted deps e r.body endpoint = before ++ t :: later)
    (hlast : ∀ y ∈ later, y.alertId ≠ t.alertId) {a a₁ a₂ : ApiWorld} {reply : IngestReply}
    (h : ingest deps e endpoint r a = (.ok reply, a₁))
    (hrun : (storeCalls deps a₁).Reached (fun _ c => c.leaves t.alertId) a₂)
    (htime : a₂.world.now < a.world.now + ttl * second) :
    AuditShows deps t a₂.world ↔
      sanitisePayload deps.guard t.received = t.received ∧ t.coerced = false := by
  have hmem : t ∈ accepted deps e r.body endpoint := by
    rw [haccepted]
    exact List.mem_append_right _ List.mem_cons_self
  have hpayload := (accepted_cases hmem).2
  -- stored text is parsed again, which keeps payloads without repeated keys
  have hdistinct := sanitiseFields_distinct deps.guard 6 (accepted_distinct hmem)
  obtain ⟨n, hrecorded⟩ :=
    payloadKept_reached (ingest_records haudit hup haccepted hlast h) hrun
  rw [hpayload] at hrecorded
  have hbundle := getBundle_payloadKept hrecorded ttl hdistinct htime
  rw [← haudit] at hbundle
  constructor
  · rintro ⟨⟨bundle, hok, hraw⟩, hcoercion⟩
    constructor
    · rw [hbundle] at hok
      obtain rfl := Except.ok.inj hok
      exact Json.obj.inj (Option.some.inj hraw)
    · cases hcoerced : t.coerced with
      | false => rfl
      | true => cases (hcoercion hcoerced).1
  · rintro ⟨hsame, hcoerced⟩
    constructor
    · refine ⟨_, hbundle, ?_⟩
      show some (Json.obj (sanitisePayload deps.guard t.received)) = _
      rw [hsame]
    · intro hyes
      rw [hcoerced] at hyes
      cases hyes

/-! ## §7  Bundles for examples -/

/-- A service with an audit store, a guard that takes a script out, and a model to ask. -/
def auditedIngest : IngestDeps :=
  { plainIngest with
    toApiDeps := plainApi
    runtime := none
    guard :=
      ⟨fun s => if s = "<script>alert(1)</script>Login" then "Login" else s, fun _ => false⟩
    coerceLlm := true
    audit := some 2592000 }

def keyed (text : String) : HttpRequest := ⟨some "analyse_alert", none, .utf8 text⟩

def loginRequest : HttpRequest := keyed "\x7b\"id\": \"a1\", \"title\": \"Login\"\x7d"

def scriptRequest : HttpRequest :=
  keyed "\x7b\"id\": \"a1\", \"title\": \"<script>alert(1)</script>Login\"\x7d"

def unknownRequest : HttpRequest := keyed "\x7b\"msg\": \"Login\"\x7d"

/-- The model answers with a summary. -/
def summarised : IntakeEnv :=
  { smoothIntake with flat := some ⟨"Login", "", "high", none, none, none, none⟩ }

/-- The service after the request. -/
def afterIngest (e : IntakeEnv) (endpoint : IngestEndpoint) (r : HttpRequest) : ApiWorld :=
  (ingest auditedIngest (fun _ => e) endpoint r ApiWorld.fresh).2

theorem ingest_ok {e : IntakeEnv} {endpoint : IngestEndpoint} {r : HttpRequest}
    {reply : IngestReply}
    (h : (ingest auditedIngest (fun _ => e) endpoint r ApiWorld.fresh).1 = .ok reply) :
    ingest auditedIngest (fun _ => e) endpoint r ApiWorld.fresh =
      (.ok reply, afterIngest e endpoint r) :=
  Prod.ext h rfl

theorem audit_shows_iff_login :
    ∃ t, accepted auditedIngest (fun _ => smoothIntake) loginRequest.body (.single "generic") =
        [t] ∧
      (AuditShows auditedIngest t (afterIngest smoothIntake (.single "generic") loginRequest).world
        ↔ sanitisePayload auditedIngest.guard t.received = t.received ∧ t.coerced = false) := by
  have hone : (accepted auditedIngest (fun _ => smoothIntake) loginRequest.body
      (.single "generic")).length = 1 := by decide +kernel
  have hreply : (ingest auditedIngest (fun _ => smoothIntake) (.single "generic") loginRequest
      ApiWorld.fresh).1 = .ok (.queued smoothIntake.uuid) := by decide +kernel
  have hnow : (afterIngest smoothIntake (.single "generic") loginRequest).world.now = 0 := by
    decide +kernel
  obtain ⟨t, ht⟩ := List.length_eq_one_iff.mp hone
  have haccepted : accepted auditedIngest (fun _ => smoothIntake) loginRequest.body
      (.single "generic") = [] ++ t :: [] := ht
  refine ⟨t, ht, ?_⟩
  apply audit_shows_iff rfl (fun _ => rfl) haccepted
  · exact fun y hy => absurd hy List.not_mem_nil
  · exact ingest_ok hreply
  · exact .start rfl
  · rw [hnow]
    decide

/-- What the bundle of an alert has as its payload, as text. -/
def shownText (t : Acceptance) (w : World) : Option String :=
  ((getBundle auditedIngest.audit answeredReads t.alertId none w).1.toOption.bind
    AuditBundle.rawPayload).map (Json.dumps pythonStyle)

theorem AuditShows.shownText {t : Acceptance} {w : World} (h : AuditShows auditedIngest t w) :
    AlertTriage.shownText t w = some (jsonDumps t.received) := by
  obtain ⟨bundle, hok, hraw⟩ := h.raw
  simp [AlertTriage.shownText, hok, hraw, Except.toOption, jsonDumps]

/-- The script is gone from the bundle, and nothing says that a model made the other alert up,
or what it answered. -/
theorem audit_shows_less :
    (∃ t, accepted auditedIngest (fun _ => smoothIntake) scriptRequest.body
        (.single "generic") = [t] ∧
      jsonDumps t.received = "\x7b\"id\": \"a1\", \"title\": \"<script>alert(1)</script>Login\"\x7d" ∧
      shownText t (afterIngest smoothIntake (.single "generic") scriptRequest).world =
        some "\x7b\"id\": \"a1\", \"title\": \"Login\"\x7d") ∧
    (∃ t, accepted auditedIngest (fun _ => summarised) unknownRequest.body .auto = [t] ∧
      t.coerced = true ∧ t.built.marks.coercedByLlm = false) ∧
    ¬ ∀ (deps : IngestDeps) (ttl : ℕ) (e : ℕ → IntakeEnv) (endpoint : IngestEndpoint)
      (r : HttpRequest) (t : Acceptance) (before later : List Acceptance)
      (a a₁ a₂ : ApiWorld) (reply : IngestReply), deps.audit = some ttl →
      (∀ i, (e i).audit = .returned) →
      accepted deps e r.body endpoint = before ++ t :: later →
      (∀ y ∈ later, y.alertId ≠ t.alertId) →
      ingest deps e endpoint r a = (.ok reply, a₁) →
      (storeCalls deps a₁).Reached (fun _ c => c.leaves t.alertId) a₂ →
      a₂.world.now < a.world.now + ttl * second → AuditShows deps t a₂.world := by
  -- the title held a script, which the guard strips before anything is stored
  have hone : (accepted auditedIngest (fun _ => smoothIntake) scriptRequest.body
      (.single "generic")).length = 1 := by decide +kernel
  have hother : (accepted auditedIngest (fun _ => summarised) unknownRequest.body
      .auto).length = 1 := by decide +kernel
  obtain ⟨t, ht⟩ := List.length_eq_one_iff.mp hone
  obtain ⟨u, hu⟩ := List.length_eq_one_iff.mp hother
  have hreceived : jsonDumps t.received =
      "\x7b\"id\": \"a1\", \"title\": \"<script>alert(1)</script>Login\"\x7d" := by
    have hall : ∀ t ∈ accepted auditedIngest (fun _ => smoothIntake) scriptRequest.body
        (.single "generic"), jsonDumps t.received =
          "\x7b\"id\": \"a1\", \"title\": \"<script>alert(1)</script>Login\"\x7d" := by decide +kernel
    exact hall t (by simp [ht])
  have hshown : shownText t (afterIngest smoothIntake (.single "generic") scriptRequest).world =
      some "\x7b\"id\": \"a1\", \"title\": \"Login\"\x7d" := by
    have hall : ∀ t ∈ accepted auditedIngest (fun _ => smoothIntake) scriptRequest.body
        (.single "generic"),
        shownText t (afterIngest smoothIntake (.single "generic") scriptRequest).world =
          some "\x7b\"id\": \"a1\", \"title\": \"Login\"\x7d" := by decide +kernel
    exact hall t (by simp [ht])
  -- the summary filled fields in, yet the alert is not marked as coerced
  have hcoerced : u.coerced = true := by
    have hall : ∀ u ∈ accepted auditedIngest (fun _ => summarised) unknownRequest.body .auto,
        u.coerced = true := by decide +kernel
    exact hall u (by simp [hu])
  have hreply : (ingest auditedIngest (fun _ => smoothIntake) (.single "generic") scriptRequest
      ApiWorld.fresh).1 = .ok (.queued smoothIntake.uuid) := by decide +kernel
  have hnow : (afterIngest smoothIntake (.single "generic") scriptRequest).world.now = 0 := by
    decide +kernel
  refine ⟨⟨t, ht, hreceived, hshown⟩, ⟨u, hu, hcoerced, rfl⟩, ?_⟩
  intro hall
  have hshows := hall auditedIngest 2592000 _ _ _ t [] [] _ _ _ _ rfl (fun _ => rfl) ht
    (fun y hy => absurd hy List.not_mem_nil) (ingest_ok hreply) (.start rfl) (by
      rw [hnow]
      decide)
  have htext := hshows.shownText
  rw [hshown, hreceived] at htext
  exact absurd (Option.some.inj htext) (by decide)

end AlertTriage
