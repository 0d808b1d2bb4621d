import AlertTriage.Api.AlertFootprint
import AlertTriage.Ingest.AlertIdentity
import AlertTriage.Runtime.OutcomeOnRecord

/-!
# The alert state of two tenants

What is kept for an alert is kept under its id, so two alerts share their state
just when they share the id; and an id is the digest of what the vendor calls
the event, whoever the tenant is. Two tenants that are sent the same event share
everything: the stored alert, the verdict and the job, the write-ahead entry,
the cancel flag, the event counter and the checkpoint thread (`separate_iff`).
-/

namespace AlertTriage

open Library

/-! ## §1  What is kept for an alert -/

/-- The API process with the systems around it, and the threads of the
checkpointer by their id. -/
structure Service where
  api : ApiWorld
  threads : String → TriageThread

/-- What a process and Redis keep under an alert's id: what is under its keys
at every time from now on, its event counter and its verdict. -/
structure WorldState where
  redis : AlertSlot → ℕ → Option RedisValue
  localSeq : Option ℕ
  verdict : Option TriageVerdict

/-- Everything that is kept under an alert's id. -/
structure AlertState where
  world : WorldState
  alert : Option NormalizedAlert
  job : Option Params
  thread : TriageThread

def World.stateOf (alertId : String) (w : World) : WorldState where
  redis slot t := w.redis.get t (slot.key alertId)
  localSeq := Json.lookup alertId w.localSeq
  verdict := Json.lookup alertId w.memVerdicts

def Service.stateOf (alertId : String) (s : Service) : AlertState where
  world := s.api.world.stateOf alertId
  alert := Json.lookup alertId s.api.memAlerts
  job := Json.lookup alertId s.api.memJobs
  thread := s.threads alertId

section Frame

variable {a b : String}

/-- What is kept under an id lies beside every other. -/
theorem stateOf_beside (ha : Plain a) (hb : Plain b) (hne : a ≠ b)
    (v : WorldState) : KeptBeside a fun w => w.stateOf b = v := by
  have hkey (slot slot' : AlertSlot) : slot.key b ≠ slot'.key a :=
    AlertSlot.key_ne hb ha hne.symm slot slot'
  -- a change of Redis that spares the keys of `b`
  have hredis {w : World} {redis : TtlStore RedisValue} {log : List Event}
      (h : ∀ (slot : AlertSlot) t,
        redis.get t (slot.key b) = w.redis.get t (slot.key b))
      (hw : w.stateOf b = v) :
      World.stateOf b { w with redis, log } = v := by
    rw [← hw]
    unfold World.stateOf
    congr 1
    funext slot t
    exact h slot t
  refine
    { set := fun slot value w => hredis fun slot' t =>
        TtlStore.get_set_ne (hkey slot' slot)
      setEx := fun slot value ttl w => hredis fun slot' t =>
        TtlStore.get_setEx_ne (hkey slot' slot)
      overwrite := fun slot value w => hredis fun slot' t =>
        TtlStore.get_overwrite_ne (hkey slot' slot)
      expire := fun slot ttl w => hredis fun slot' t =>
        TtlStore.get_expire_ne (hkey slot' slot)
      delete := fun slots w => hredis fun slot' t =>
        TtlStore.get_removeAll_of_notMem fun hmem => ?_
      localSeq := fun n w hw => ?_
      memVerdicts := fun v' w hw => ?_
      record := fun _ _ hw => hw
      conn := fun _ _ hw => hw
      jwtCache := fun _ _ hw => hw
      elapse := fun i hi w hw => ?_ }
  · obtain ⟨slot, -, heq⟩ := List.mem_map.mp hmem
    exact hkey slot' slot heq.symm
  · rw [← hw]
    unfold World.stateOf
    rw [Json.lookup_upsert_ne hne.symm]
  · rw [← hw]
    unfold World.stateOf
    rw [Json.lookup_upsert_ne hne.symm]
  · unfold World.elapse
    rw [hi]
    exact hw

end Frame

/-! ## §2  Who reads it -/

section Readers

variable {alertId : String} {s s' : Service}

theorem lookup_of_stateOf (h : s'.stateOf alertId = s.stateOf alertId)
    (hnow : s'.api.world.now = s.api.world.now) (slot : AlertSlot) :
    s'.api.world.lookup (slot.key alertId) =
      s.api.world.lookup (slot.key alertId) := by
  unfold World.lookup
  rw [hnow]
  exact congrArg (fun v => v.world.redis slot s.api.world.now) h

/-- What a read of a slot is made into depends on the slot. -/
theorem readSlot_congr {α : Type} (o : Outcome)
    (h : s'.stateOf alertId = s.stateOf alertId)
    (hnow : s'.api.world.now = s.api.world.now) (slot : AlertSlot)
    (read : Option RedisValue → Except PyExn α) :
    ((redisGet o (slot.key alertId) >>= fun raw => Run.ofExcept (read raw) : Io α)
        s'.api.world).1 =
      ((redisGet o (slot.key alertId) >>= fun raw => Run.ofExcept (read raw) :
        Io α) s.api.world).1 := by
  have hlookup := lookup_of_stateOf h hnow slot
  cases o with
  | returned =>
      show (Run.ofExcept (read (World.lookup _ _)) s'.api.world).1 =
        (Run.ofExcept (read (World.lookup _ _)) s.api.world).1
      rw [hlookup]
      cases read (s.api.world.lookup (slot.key alertId)) <;> rfl
  | raised b => rfl
  | killed b => rfl

theorem onWorld_answer {α : Type} {x : Io α} {a a' : ApiWorld}
    (h : (x a'.world).1 = (x a.world).1) :
    (onWorld x a').1 = (onWorld x a).1 := by
  unfold onWorld Run.focus
  rcases hx : x a.world with ⟨r, w⟩
  rcases hx' : x a'.world with ⟨r', w'⟩
  rw [hx, hx'] at h
  obtain rfl : r' = r := h
  rcases r' with (e | _) | v
  · rfl
  · rfl
  · rfl

/-- **The readers of an alert's state** see nothing else: at one time, equal
states are read alike, by the endpoints and by the workers. -/
theorem reads_of_stateOf (h : s'.stateOf alertId = s.stateOf alertId)
    (hnow : s'.api.world.now = s.api.world.now) (p : AlertPersistence)
    (o : Outcome) :
    (∀ codec, (getAlert p codec o alertId s'.api).1 =
        (getAlert p codec o alertId s.api).1) ∧
      (getJob p o alertId s'.api).1 = (getJob p o alertId s.api).1 ∧
      (∀ codec, (getVerdict p codec o alertId s'.api.world).1 =
        (getVerdict p codec o alertId s.api.world).1) ∧
      ∀ deps, (isCancelled deps o alertId s'.api.world).1 =
        (isCancelled deps o alertId s.api.world).1 := by
  refine ⟨fun codec => ?_, ?_, fun codec => ?_, fun deps => ?_⟩
  · unfold getAlert
    split
    · exact onWorld_answer (readSlot_congr o h hnow .alert _)
    · exact congrArg (fun v => Except.ok v.alert) h
  · unfold getJob
    split
    · exact onWorld_answer (readSlot_congr o h hnow .job _)
    · exact congrArg (fun v => Except.ok (v.job.map Json.obj)) h
  · unfold getVerdict
    split
    · exact readSlot_congr o h hnow .verdict _
    · exact congrArg (fun v => Except.ok v.world.verdict) h
  · have hflag : s'.api.world.lookup (cancelledKey alertId) =
        s.api.world.lookup (cancelledKey alertId) :=
      lookup_of_stateOf h hnow .cancelled
    rw [isCancelled_answer, isCancelled_answer, hflag]

end Readers

/-! ## §3  The processing of an alert -/

/-- The alert at some stage: the tenant may have been set since. -/
def SameAlert (x alert : NormalizedAlert) : Prop :=
  { x with tenantId := alert.tenantId } = alert

theorem SameAlert.alertId {x alert : NormalizedAlert} (h : SameAlert x alert) :
    x.alertId = alert.alertId := by
  rw [← show { x with tenantId := alert.tenantId } = alert from h]

def Service.onWorld (s : Service) (x : World → World) : Service :=
  { s with api := { s.api with world := x s.api.world } }

def Service.setThread (s : Service) (threadId : String) (thread : TriageThread) :
    Service :=
  { s with threads := Function.update s.threads threadId thread }

/-- What is done on behalf of an alert: its intake, its task, the handling of a
message of it, a run of the graph in its thread, a reconciler's turn at its
entry, and the three parts of its cancellation. Nobody else writes meanwhile. -/
inductive Processes (alert : NormalizedAlert) : Service → Service → Prop
  | intake (deps : IngestDeps) (e : IntakeEnv) (x : BuiltAlert) (s : Service)
      (hx : SameAlert x.alert.toNormalizedAlert alert) :
      Processes alert s { s with api := (intake deps e x s.api).2 }
  | task (p : AlertPersistence) (codec : VerdictCodec) (deps : PipelineDeps)
      (e : TaskEnv) (x : NormalizedAlert) (s : Service) (hx : SameAlert x alert)
      (hquiet : e.meanwhile.edits = []) :
      Processes alert s
        { s with api := (runTriageBackground p codec deps e x s.api).2 }
  | deliver (deps : WorkerDeps) (e : HandleEnv) (settle : Outcome)
      (msg : NatsMsg) (s : Service)
      (hx : ∀ auth x, parseAlert deps.codec msg.data auth = .ok x →
        SameAlert x alert) (hquiet : e.meanwhile.edits = []) :
      Processes alert s (s.onWorld fun w => (dispatchOne deps e settle msg w).2)
  | graph (deps : PipelineDeps) (call : TriageCall) (x : NormalizedAlert)
      (s : Service) (hx : SameAlert x alert) :
      Processes alert s (s.setThread x.alertId
        (call.leaves deps x (s.threads x.alertId)))
  | reconcile (r : IngestReconciler) (e : EntryEnv) (s : Service) :
      Processes alert s (s.onWorld fun w => (scanEntry r alert.alertId e w).2)
  | requestCancel (hasClient : Bool) (graceSeconds : ℕ) (o : Outcome)
      (s : Service) :
      Processes alert s (s.onWorld fun w =>
        (requestCancel hasClient graceSeconds o alert.alertId w).2)
  | revokeCancel (hasClient : Bool) (o : Outcome) (s : Service) :
      Processes alert s
        (s.onWorld fun w => (revokeCancel hasClient o alert.alertId w).2)
  | fireAfterGrace (hasClient : Bool) (e : FireEnv) (s : Service) :
      Processes alert s
        (s.onWorld fun w => (fireAfterGrace hasClient e alert.alertId w).2)

/-- However long the alert is processed, what is kept for the other stays. -/
def NeverTouches (alert : NormalizedAlert) (other : String) : Prop :=
  ∀ s s', Relation.ReflTransGen (Processes alert) s s' →
    s'.stateOf other = s.stateOf other

/-- Neither alert's processing touches what is kept for the other. -/
def Separate (a b : NormalizedAlert) : Prop :=
  NeverTouches a b.alertId ∧ NeverTouches b a.alertId

section Steps

variable {alert : NormalizedAlert} {other : String}

/-- A service that keeps what lies beside the alert. -/
theorem stateOf_onWorld (ha : Plain alert.alertId) (ho : Plain other)
    (hne : alert.alertId ≠ other) {α : Type} {x : Io α}
    (hx : ∀ P, KeptBeside alert.alertId P → Run.Keeps P x) (s : Service) :
    (s.onWorld fun w => (x w).2).stateOf other = s.stateOf other := by
  have hw := hx _ (stateOf_beside ha ho hne (s.api.world.stateOf other))
    s.api.world rfl
  unfold Service.stateOf
  congr 1

/-- The same of a service that the API process calls. -/
theorem keeps_onWorld (ha : Plain alert.alertId) (ho : Plain other)
    (hne : alert.alertId ≠ other) {α : Type} {x : Io α}
    (hx : ∀ P, KeptBeside alert.alertId P → Run.Keeps P x)
    (threads : String → TriageThread) (v : AlertState) :
    Run.Keeps (fun a => Service.stateOf other ⟨a, threads⟩ = v) (onWorld x) := by
  refine Run.Keeps.focus (hx _ (stateOf_beside ha ho hne v.world))
    (fun a h => congrArg AlertState.world h) fun a w h hw => ?_
  rw [← h] at hw ⊢
  unfold Service.stateOf
  congr 1

theorem keeps_setJob (ha : Plain alert.alertId) (ho : Plain other)
    (hne : alert.alertId ≠ other) (p : AlertPersistence) (o : Outcome)
    (status : JobStatus) (error : Option String)
    (threads : String → TriageThread) (v : AlertState) :
    Run.Keeps (fun a => Service.stateOf other ⟨a, threads⟩ = v)
      (setJob p o alert.alertId status error) := by
  unfold setJob
  split
  · exact keeps_onWorld ha ho hne (fun P h => h.redisSet o .job _) threads v
  · refine Run.Keeps.modify fun a h => ?_
    rw [← h]
    unfold Service.stateOf
    dsimp only
    rw [Json.lookup_upsert_ne hne.symm]

theorem keeps_putAlert (ha : Plain alert.alertId) (ho : Plain other)
    (hne : alert.alertId ≠ other) (p : AlertPersistence) (codec : AlertCodec)
    (o : Outcome) (x : NormalizedAlert) (hx : x.alertId = alert.alertId)
    (threads : String → TriageThread) (v : AlertState) :
    Run.Keeps (fun a => Service.stateOf other ⟨a, threads⟩ = v)
      (putAlert p codec o x) := by
  unfold putAlert
  rw [hx]
  split
  · exact keeps_onWorld ha ho hne (fun P h => Run.Keeps.bind
      (Run.Keeps.ofExcept _) fun text => h.redisSet o .alert _) threads v
  · refine Run.Keeps.modify fun a h => ?_
    rw [← h]
    unfold Service.stateOf
    dsimp only
    rw [Json.lookup_upsert_ne hne.symm]

/-- **A step leaves the state of every other alert as it is.** -/
theorem stateOf_step (ha : Plain alert.alertId) (ho : Plain other)
    (hne : alert.alertId ≠ other) {s s' : Service}
    (hstep : Processes alert s s') : s'.stateOf other = s.stateOf other := by
  cases hstep with
  | intake deps e x _ hx =>
      have hid := hx.alertId
      refine (?_ : Run.Keeps (fun a => Service.stateOf other ⟨a, s.threads⟩ =
        s.stateOf other) (intake deps e x)) s.api rfl
      unfold AlertTriage.intake
      refine Run.Keeps.bind
        (keeps_putAlert ha ho hne _ _ _ _ hid s.threads _) fun _ => ?_
      rw [hid]
      refine Run.Keeps.bind (keeps_setJob ha ho hne _ _ _ _ s.threads _)
        fun _ => ?_
      refine Run.Keeps.bind (keeps_onWorld ha ho hne
        (fun P h => h.recordRawPayload _ _ _) s.threads _) fun _ => ?_
      refine Run.Keeps.bind ?_ fun sent => Run.Keeps.pure _
      unfold offerToNats
      split
      · exact Run.Keeps.tryExcept (keeps_onWorld ha ho hne
          (fun P h => h.enqueueViaNats _ _ _ hid) s.threads _)
          fun _ => Run.Keeps.pure false
      · exact Run.Keeps.pure false
  | task p codec deps e x _ hx hquiet =>
      have hid := hx.alertId
      refine (?_ : Run.Keeps (fun a => Service.stateOf other ⟨a, s.threads⟩ =
        s.stateOf other) (runTriageBackground p codec deps e x)) s.api rfl
      unfold runTriageBackground
      rw [hid]
      refine Run.Keeps.bind (keeps_setJob ha ho hne _ _ _ _ s.threads _)
        fun _ => Run.Keeps.tryExcept ?_ fun _ =>
          keeps_setJob ha ho hne _ _ _ _ s.threads _
      refine Run.Keeps.bind (keeps_onWorld ha ho hne
        (fun P h => Run.Keeps.modify (h.elapse e.meanwhile hquiet)) s.threads _) fun _ => ?_
      refine Run.Keeps.bind ?_ fun verdict => ?_
      · unfold awaitRun
        split
        · exact Run.Keeps.pure _
        · exact Run.Keeps.throw _
        · exact fun _ h => h
      refine Run.Keeps.bind (keeps_onWorld ha ho hne
        (fun P h => h.putVerdict _ _ _ _) s.threads _) fun _ =>
          keeps_setJob ha ho hne _ _ _ _ s.threads _
  | deliver deps e settle msg _ hx hquiet =>
      exact stateOf_onWorld ha ho hne (fun P h => h.dispatchOne deps e hquiet
        settle msg fun auth x hparse => (hx auth x hparse).alertId) s
  | graph deps call x _ hx =>
      -- threads go by the alert's id
      unfold Service.stateOf Service.setThread
      dsimp only
      rw [Function.update_of_ne (hx.alertId ▸ hne.symm)]
  | reconcile r e _ =>
      exact stateOf_onWorld ha ho hne (fun P h => h.scanEntry r e) s
  | requestCancel hasClient graceSeconds o _ =>
      exact stateOf_onWorld ha ho hne
        (fun P h => h.requestCancel hasClient graceSeconds o) s
  | revokeCancel hasClient o _ =>
      exact stateOf_onWorld ha ho hne (fun P h => h.revokeCancel hasClient o) s
  | fireAfterGrace hasClient e _ =>
      exact stateOf_onWorld ha ho hne (fun P h => h.fireAfterGrace hasClient e) s

/-- **And so does a run of any length.** -/
theorem neverTouches_of_ne (ha : Plain alert.alertId) (ho : Plain other)
    (hne : alert.alertId ≠ other) : NeverTouches alert other := by
  intro s s' hrun
  induction hrun with
  | refl => rfl
  | tail _ hstep ih => exact (stateOf_step ha ho hne hstep).trans ih

/-- An intake puts the job under the id back in the queue, though it was
complete. -/
theorem requeued {a : ParsedAlert} (ha : SameAlert a.toNormalizedAlert alert) :
    ∃ s s', Processes alert s s' ∧
      (s.stateOf alert.alertId).job = some (jobRecord .complete none) ∧
      (s'.stateOf alert.alertId).job = some (jobRecord .queued none) := by
  let s : Service := ⟨{ ApiWorld.fresh with
    memJobs := [(alert.alertId, jobRecord .complete none)] }, fun _ => none⟩
  refine ⟨s, _, .intake { plainIngest with toApiDeps := plainApi } smoothIntake
    ⟨a, a.source, []⟩ s ha, ?_, ?_⟩
  · simp [Service.stateOf, s, Json.lookup]
  · have hafter : (intake { plainIngest with toApiDeps := plainApi }
        smoothIntake ⟨a, a.source, []⟩ s.api).2.memJobs =
          Json.upsert a.alertId (jobRecord .queued none) s.api.memJobs := rfl
    unfold Service.stateOf
    dsimp only
    rw [hafter, ← ha.alertId]
    exact Json.lookup_upsert _ _ _

/-- So an alert's own state is touched. -/
theorem touches_itself {a : ParsedAlert}
    (ha : SameAlert a.toNormalizedAlert alert) :
    ¬ NeverTouches alert alert.alertId := by
  intro h
  obtain ⟨s, s', hstep, hbefore, hafter⟩ := requeued ha
  have hjob := congrArg AlertState.job (h s s' (.single hstep))
  rw [hbefore, hafter] at hjob
  simp [jobRecord, JobStatus.value] at hjob

theorem not_separate_of_eq {a b : ParsedAlert} (h : a.alertId = b.alertId)
    (tenant₁ tenant₂ : Option String) :
    ¬ Separate { a.toNormalizedAlert with tenantId := tenant₁ }
      { b.toNormalizedAlert with tenantId := tenant₂ } := by
  rintro ⟨htouches, -⟩
  have hself : ¬ NeverTouches
      { a.toNormalizedAlert with tenantId := tenant₁ } a.alertId :=
    touches_itself (a := a) rfl
  rw [h] at hself
  exact hself htouches

end Steps

/-! ## §4  Which payloads share -/

/-- The alert of a payload that comes in by a route; a model's summary is used
where one was asked for and given. -/
def ingestVia (py : PyBuiltins) (uuid : String)
    (flat : Option AutoIngestFlatView) :
    IngestRoute → Params → Except PyExn ParsedAlert
  | .direct source, payload => normalizeAlert py uuid source payload
  | .auto, payload => resolveAlertForAutoIngest py uuid flat payload

/-- The text that the id is the digest of, unless the id is new. -/
def hashedBy (py : PyBuiltins) (source : AlertSource) (payload : Params) :
    Option String :=
  if parserOf source payload = .generic then none
  else some ((parserOf source payload).hashedSource ++ ":" ++
    hashedText py payload (parserOf source payload))

/-- The same of a payload that comes in by a route. -/
def hashedVia (py : PyBuiltins) (flat : Option AutoIngestFlatView) :
    IngestRoute → Params → Option String
  | .direct source, payload => hashedBy py source payload
  | .auto, payload =>
      match expandAutoIngestPayload payload with
      | .error _ => none
      | .ok expanded =>
          match detectSource expanded with
          | .error _ => none
          | .ok source =>
              if source = .generic ∧ flat.isSome then none
              else hashedBy py source expanded

section Ids

variable {py : PyBuiltins} {uuid : String} {flat : Option AutoIngestFlatView}
  {payload : Params} {a : ParsedAlert}

theorem normalize_alertId {source : AlertSource}
    (h : normalizeAlert py uuid source payload = .ok a) :
    a.alertId = (hashedBy py source payload).elim uuid py.sha256Hex16 := by
  rw [(normalize_ids h).1]
  unfold hashedBy
  split
  · rfl
  · rfl

theorem lookup_flatField_ne {key key' : String} (h : key ≠ key')
    (value : Option String) : Json.lookup key' (flatField key value) = none := by
  unfold flatField
  split
  · split
    · rfl
    · simp [Json.lookup, h]
  · rfl

theorem lookup_append_none {key : String} {xs ys : Params}
    (hx : Json.lookup key xs = none) (hy : Json.lookup key ys = none) :
    Json.lookup key (xs ++ ys) = none := by
  unfold Json.lookup at hx hy ⊢
  rw [Option.map_eq_none_iff] at hx hy ⊢
  rw [List.find?_append, hx, hy]
  rfl

/-- A model's summary is never taken for a finding. -/
theorem genericPayload_not_finding (flat : AutoIngestFlatView) :
    isDetectionFindingPayload flat.genericPayload = false := by
  have hnone {key : String} (h₀ : key ∉ ["title", "description", "severity",
      "hostname", "mitre_technique", "mitre_tactic", "id"]) :
      Json.lookup key flat.genericPayload = none := by
    simp only [List.mem_cons, List.not_mem_nil, or_false, not_or] at h₀
    obtain ⟨h1, h2, h3, h4, h5, h6, h7⟩ := h₀
    unfold AutoIngestFlatView.genericPayload
    refine lookup_append_none (lookup_append_none (lookup_append_none
      (lookup_append_none ?_ (lookup_flatField_ne (Ne.symm h4) _))
      (lookup_flatField_ne (Ne.symm h5) _))
      (lookup_flatField_ne (Ne.symm h6) _)) (lookup_flatField_ne (Ne.symm h7) _)
    simp [Json.lookup, Ne.symm h1, Ne.symm h2, Ne.symm h3]
  have hclass : get flat.genericPayload "class_uid" = .null := by
    rw [get, getOr, hnone (by decide)]
    rfl
  have hmetadata : get flat.genericPayload "metadata" = .null := by
    rw [get, getOr, hnone (by decide)]
    rfl
  unfold isDetectionFindingPayload
  rw [hclass, hmetadata]
  rfl

theorem ingestVia_alertId {route : IngestRoute}
    (h : ingestVia py uuid flat route payload = .ok a) :
    a.alertId = (hashedVia py flat route payload).elim uuid py.sha256Hex16 := by
  cases route with
  | direct source => exact normalize_alertId h
  | auto =>
      unfold ingestVia resolveAlertForAutoIngest at h
      obtain ⟨expanded, hexpand, h⟩ := ok_of_bind h
      obtain ⟨source, hsource, h⟩ := ok_of_bind h
      unfold hashedVia
      simp only [hexpand, hsource]
      dsimp only at h
      split at h
      · rename_i hne
        obtain ⟨b, hb, h⟩ := ok_of_bind h
        obtain rfl := Except.ok.inj h
        rw [if_neg fun hand => hne hand.1]
        have hid := normalize_alertId hb
        exact hid
      · -- a payload of no known source may be summarised first
        rename_i heq
        obtain rfl : source = .generic := by simpa using heq
        cases flat with
        | none =>
            obtain ⟨b, hb, h⟩ := ok_of_bind h
            obtain rfl := Except.ok.inj h
            rw [if_neg (by simp)]
            have hid := normalize_alertId hb
            exact hid
        | some flat =>
            obtain ⟨b, hb, h⟩ := ok_of_bind h
            obtain rfl := Except.ok.inj h
            rw [if_pos ⟨rfl, rfl⟩]
            have hid := normalize_alertId hb
            have hparser : parserOf .generic flat.genericPayload = .generic := by
              simp [parserOf, genericPayload_not_finding]
            rw [hashedBy, if_pos hparser] at hid
            exact hid

end Ids

/-- Digests are sixteen characters, what `uuid4()` answers is thirty-six and
new, and there is no colon in either. -/
structure IdShapes (py : PyBuiltins) (uuid₁ uuid₂ : String) : Prop where
  digest : ∀ text, (py.sha256Hex16 text).length = 16 ∧
    Plain (py.sha256Hex16 text)
  first : uuid₁.length = 36 ∧ Plain uuid₁
  second : uuid₂.length = 36 ∧ Plain uuid₂
  fresh : uuid₁ ≠ uuid₂

/-- Both ids are derived, and from texts of one digest. -/
def SameDigest (py : PyBuiltins) (hashed₁ hashed₂ : Option String) : Prop :=
  ∃ t₁ ∈ hashed₁, ∃ t₂ ∈ hashed₂, py.sha256Hex16 t₁ = py.sha256Hex16 t₂

theorem IdShapes.plain_elim {py : PyBuiltins} {uuid₁ uuid₂ uuid : String}
    (h : IdShapes py uuid₁ uuid₂) (hu : Plain uuid) (hashed : Option String) :
    Plain (hashed.elim uuid py.sha256Hex16) := by
  cases hashed with
  | none => exact hu
  | some text => exact (h.digest text).2

/-- Ids are the same just when both are one digest. -/
theorem elim_eq_iff {py : PyBuiltins} {uuid₁ uuid₂ : String}
    (h : IdShapes py uuid₁ uuid₂) (hashed₁ hashed₂ : Option String) :
    hashed₁.elim uuid₁ py.sha256Hex16 = hashed₂.elim uuid₂ py.sha256Hex16 ↔
      SameDigest py hashed₁ hashed₂ := by
  have hlength {text uuid : String} (hu : uuid.length = 36) :
      py.sha256Hex16 text ≠ uuid := by
    intro heq
    have hd := (h.digest text).1
    rw [heq, hu] at hd
    exact absurd hd (by decide)
  unfold SameDigest
  cases hashed₁ with
  | none =>
      cases hashed₂ with
      | none => simpa using h.fresh
      | some t₂ => simpa using (hlength h.first.1).symm
  | some t₁ =>
      cases hashed₂ with
      | none => simpa using hlength h.second.1
      | some t₂ => simp

/-- **When two tenants' alerts are kept apart**: unless both ids are derived
from the payloads, and the texts they are derived from have one digest. -/
theorem separate_iff (py : PyBuiltins) {uuid₁ uuid₂ : String}
    (hids : IdShapes py uuid₁ uuid₂) (flat₁ flat₂ : Option AutoIngestFlatView)
    (route₁ route₂ : IngestRoute) (payload₁ payload₂ : Params)
    {a b : ParsedAlert}
    (ha : ingestVia py uuid₁ flat₁ route₁ payload₁ = .ok a)
    (hb : ingestVia py uuid₂ flat₂ route₂ payload₂ = .ok b)
    (tenant₁ tenant₂ : String) :
    tenant₁ ≠ tenant₂ →
      (Separate { a.toNormalizedAlert with tenantId := some tenant₁ }
          { b.toNormalizedAlert with tenantId := some tenant₂ } ↔
        ¬ SameDigest py (hashedVia py flat₁ route₁ payload₁)
          (hashedVia py flat₂ route₂ payload₂)) := by
  intro _
  have hida := ingestVia_alertId ha
  have hidb := ingestVia_alertId hb
  have hplaina : Plain a.alertId := hida ▸ hids.plain_elim hids.first.2 _
  have hplainb : Plain b.alertId := hidb ▸ hids.plain_elim hids.second.2 _
  rw [← elim_eq_iff hids, ← hida, ← hidb]
  constructor
  · exact fun hseparate hsame => not_separate_of_eq hsame _ _ hseparate
  · intro hne
    exact ⟨neverTouches_of_ne hplaina hplainb hne,
      neverTouches_of_ne hplainb hplaina (Ne.symm hne)⟩

/-- Builtins with the digests of the examples, of the right shape. -/
def hexBuiltins : PyBuiltins :=
  { plainBuiltins with
    sha256Hex16 := fun text =>
      if text = "splunk:idx:12345" then "15ef9bbecabd794f"
      else "ca77b4ad7cc6e8e8" }

theorem hexBuiltins_shapes : IdShapes hexBuiltins
    "11111111-1111-4111-8111-111111111111"
    "22222222-2222-4222-8222-222222222222" where
  digest text := by
    unfold hexBuiltins Plain
    dsimp only
    split
    · decide
    · decide
  first := by unfold Plain; decide
  second := by unfold Plain; decide
  fresh := by decide

/-- An incident of one tenant and a Splunk alert of another are kept apart. -/
theorem separate_incident :
    ∃ a b, ingestVia hexBuiltins "11111111-1111-4111-8111-111111111111" none
        (.direct .sentinel) incidentPayload = .ok a ∧
      ingestVia hexBuiltins "22222222-2222-4222-8222-222222222222" none
        (.direct .splunk) indexedPayload = .ok b ∧
      Separate { a.toNormalizedAlert with tenantId := some "acme" }
        { b.toNormalizedAlert with tenantId := some "globex" } := by
  refine ⟨_, _, rfl, rfl, (separate_iff hexBuiltins hexBuiltins_shapes none none
    (.direct .sentinel) (.direct .splunk) incidentPayload indexedPayload rfl rfl
    "acme" "globex" (by decide)).mpr ?_⟩
  rintro ⟨t₁, h₁, -⟩
  exact absurd (show none = some t₁ from h₁) (by simp)

/-- The same Splunk alert, sent to two tenants, is one alert to every store. -/
theorem same_event_shared :
    ∃ a b, ingestVia hexBuiltins "11111111-1111-4111-8111-111111111111" none
        (.direct .splunk) indexedPayload = .ok a ∧
      ingestVia hexBuiltins "22222222-2222-4222-8222-222222222222" none
        (.direct .splunk) indexedPayload = .ok b ∧
      a.alertId = "15ef9bbecabd794f" ∧ b.alertId = "15ef9bbecabd794f" ∧
      ¬ Separate { a.toNormalizedAlert with tenantId := some "acme" }
        { b.toNormalizedAlert with tenantId := some "globex" } := by
  exact ⟨_, _, rfl, rfl, rfl, rfl, not_separate_of_eq rfl _ _⟩

end AlertTriage
