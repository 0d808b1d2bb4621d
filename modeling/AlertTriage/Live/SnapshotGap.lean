import AlertTriage.Bff.SubjectRouting
import AlertTriage.Live.AlertFeed

/-!
# Between the snapshot and the registration

An object reads the snapshot of an alert first and registers afterwards, and a
message goes to the objects that are registered when its watchers are looked up.
So a client gets every event beyond its snapshot where no such event is looked
up in between (`nothing_lost`); an event that is, is lost to it.

A promise (`View`) begins when the snapshot is read and lasts as long as the
object stays connected and registered. The invariant says how far the fan-out
has kept each promise for each message that it has looked up (`Serving`).
-/

namespace AlertTriage.Live

open Library Bff Gateway

/-! ## §1  Lookups that find an object -/

/-- The event is one that the client has been promised. -/
def View.follows (v : View) : Message → Bool
  | .phase e => v.alertId == e.alertId && v.tenantId == e.tenantId &&
      decide (v.lastSeq < e.eventSeq)
  | .cancel .. => false

theorem View.follows_phase {v : View} {e : PhaseEvent}
    (h : v.follows (.phase e) = true) :
    v.alertId = e.alertId ∧ v.tenantId = e.tenantId ∧ v.lastSeq < e.eventSeq := by
  simpa [View.follows, and_assoc] using h

/-- The replies of a registry that has the object on record. -/
def Sees (t a d : String) : (c : Call) → c.Reply → Prop
  | .smembers key, (ds : List String) => key = k.alert t a → d ∈ ds
  | .hgetall key, (fields : List (String × String)) => key = k.meta d → fields ≠ []
  | _, _ => True

/-- The event goes to the object. -/
def PushesTo (d : String) (e : PhaseEvent) (ps : List Push) : Prop :=
  ∃ p ∈ ps, p.watcher.do_id = d ∧
    readEnvelope p.envelope = .phase (some (triageEvent e))

theorem sees_answer {v : View} {r : Registry} (h : v.found r = true) (env : Environment)
    (c : Call) : Sees v.tenantId v.alertId v.doId c (answer env c r).1 := by
  unfold View.found at h
  rw [Bool.and_eq_true, List.contains_iff_mem] at h
  cases c with
  | smembers key =>
      rintro rfl
      exact h.1
  | hgetall key =>
      rintro rfl hnil
      have hfields : r.fields v.doId = [] := hnil
      simp [hfields] at h
  | _ => trivial

section Lookup

variable {t a d : String}

theorem getMeta_returns (d' : String) :
    (getMeta d').Returns (Sees t a d)
      (fun info => d' = d → ∃ w, info = some w ∧ w.do_id = d) := by
  intro fields hfields
  rintro rfl
  exact ⟨_, if_neg (hfields rfl), rfl⟩

theorem getMetas_returns (ds : List String) :
    (getMetas ds).Returns (Sees t a d)
      (fun infos => d ∈ ds → ∃ w, some w ∈ infos ∧ w.do_id = d) := by
  induction ds with
  | nil => exact fun h => by cases h
  | cons d' ds ih =>
      refine (getMeta_returns d').bind fun info hinfo => ?_
      refine ih.bind fun infos hinfos => ?_
      apply Async.Returns.pure
      intro hmem
      rcases List.mem_cons.mp hmem with rfl | hmem
      · obtain ⟨w, rfl, hw⟩ := hinfo rfl
        exact ⟨w, List.mem_cons_self, hw⟩
      · obtain ⟨w, hin, hw⟩ := hinfos hmem
        exact ⟨w, List.mem_cons_of_mem _ hin, hw⟩

/-- A lookup finds the object. -/
theorem watchersForAlert_returns :
    (watchersForAlert t a).Returns (Sees t a d)
      (fun ws => ∃ w ∈ ws, w.do_id = d) := by
  intro (ds : List String) hds
  have hmem : d ∈ ds := hds rfl
  show Async.Returns _ _ (if ds = [] then pure [] else
    getMetas ds >>= fun metas => pure (metas.filterMap id))
  rw [if_neg (List.ne_nil_of_mem hmem)]
  refine (getMetas_returns ds).bind fun infos hinfos => ?_
  obtain ⟨w, hin, hw⟩ := hinfos hmem
  exact Async.Returns.pure ⟨w, List.mem_filterMap.mpr ⟨_, hin, rfl⟩, hw⟩

/-- What the handler of a phase event comes to. -/
def phasePushes (e : PhaseEvent) : Bff.Task (List Push) := do
  let watchers ← watchersForAlert e.tenantId e.alertId
  pure (watchers.map fun w =>
    { watcher := w
      envelope := envelopeOf .phaseOrToken e.modelDump (.str e.alertId)
      tenantId := e.tenantId
      alertId := some e.alertId })

theorem program_phase (D : Deployment) {δ : Delivery} {e : PhaseEvent}
    (hδ : δ.message = .phase e) (ht : e.tenantId ≠ "") (ha : e.alertId ≠ "") :
    δ.program D =
      (phasePushes e).attempt >>= fun pushes => pure (pushes.getD []) := by
  have htenant : ∀ o, orElse (fieldOf "tenant_id" e.modelDump) o =
      some (.str e.tenantId) := fun o => rfl
  have halert : ∀ o, orElse (fieldOf "alert_id" e.modelDump) o =
      some (.str e.alertId) := fun o => rfl
  have htruthy : ∀ s : String, s ≠ "" → isTruthy (.str s) = true := by
    intro s hs
    simp [isTruthy, Json.truthy, hs]
  unfold Delivery.program
  rw [hδ]
  have hprogram : onTriageEvent D.numText (Message.phase e).subject e.modelDump
      .phaseOrToken = phasePushes e := by
    unfold onTriageEvent
    rw [member_of_ne_null (by simp [PhaseEvent.modelDump]),
      member_of_ne_null (by simp [PhaseEvent.modelDump])]
    simp only [Async.pure_bind, htenant, halert, Option.filter_some, htruthy _ ht,
      htruthy _ ha, if_true]
    rfl
  show (onTriageEvent D.numText (Message.phase e).subject e.modelDump
    .phaseOrToken).attempt >>= _ = _
  rw [hprogram]

theorem program_returns (D : Deployment) {δ : Delivery} {e : PhaseEvent}
    (hδ : δ.message = .phase e) (ht : e.tenantId ≠ "") (ha : e.alertId ≠ "") :
    (δ.program D).Returns (Sees e.tenantId e.alertId d) (PushesTo d e) := by
  rw [program_phase D hδ ht ha]
  refine (Async.Returns.attempt (Q := PushesTo d e) ?_).bind ?_
  · refine watchersForAlert_returns.bind fun ws hws => ?_
    obtain ⟨w, hin, hw⟩ := hws
    exact Async.Returns.pure ⟨_, List.mem_map.mpr ⟨w, hin, rfl⟩, hw,
      readEnvelope_phase e (.str e.alertId)⟩
  · rintro _ ⟨ps, rfl, hps⟩
    exact Async.Returns.pure hps

end Lookup

/-! ## §2  Pushes that arrive -/

/-- The push brings the event to the object, and has not done so yet. -/
structure Waiting (d : String) (e : PhaseEvent) (q : Push × Bff.Task Unit) : Prop where
  doId : q.1.watcher.do_id = d
  envelope : readEnvelope q.1.envelope = .phase (some (triageEvent e))
  program : q.2 = pushWithRetry q.1 ∨ ∃ token, q.2 = q.1.retry token maxAttempts 0

theorem awaited_retry (p : Push) (token : String) :
    (p.retry token maxAttempts 0).awaited = some (.fetch p.url token p.envelope) := rfl

/-- A waiting push signs its token first and then sends the event. -/
theorem Waiting.advance {d : String} {e : PhaseEvent} {p : Push} {x : Bff.Task Unit}
    (h : Waiting d e (p, x)) {reply : Option Environment} {reached : Bool} {r : Registry}
    (hreply : (cannotFail x && reply.isNone) = false) :
    Waiting d e (p, (resume reply reached x r).1) ∨ arriving x true = some p.envelope := by
  rcases h.program with hx | ⟨token, hx⟩
  · refine .inl ⟨h.doId, h.envelope, .inr ?_⟩
    dsimp only at hx
    subst hx
    cases reply with
    | none => cases hreply
    | some env => exact ⟨env.token, rfl⟩
  · refine .inr ?_
    dsimp only at hx
    rw [hx, arriving, awaited_retry]
    rfl

theorem Waiting.awaited_isSome {d : String} {e : PhaseEvent} {q : Push × Bff.Task Unit}
    (h : Waiting d e q) : q.2.awaited.isNone = false := by
  rcases h.program with hx | ⟨token, hx⟩
  · rw [hx]
    rfl
  · rw [hx]
    rfl

/-- The event is handed to the object. -/
def Pushed (s : Feed) (d : String) (e : PhaseEvent) : Prop :=
  .pushed d (.phase (some (triageEvent e))) ∈ s.sessions.log

theorem arrive_pushed {s : Feed} {d : String} {e : PhaseEvent} {body : Json}
    (hopen : (s.sessions.objects d).sockets ≠ 0)
    (hbody : readEnvelope body = .phase (some (triageEvent e))) :
    .pushed d (.phase (some (triageEvent e))) ∈ (s.arrive d body).1.log := by
  apply List.mem_append_right _
  simp [hbody, AnalystSession.handlePush, hopen, AnalystSession.pushFrame]

/-! ## §3  Promises -/

/-- How far a loop is with an event for an object that is on record. -/
def Serving (s : Feed) (v : View) (e : PhaseEvent) : Work → Prop
  | .begun => True
  | .lookup x => x.Returns (Sees v.tenantId v.alertId v.doId) (PushesTo v.doId e)
  | .pushes ps => Pushed s v.doId e ∨ ∃ q ∈ ps, Waiting v.doId e q

def Message.HasTenant : Message → Prop
  | .phase e => e.tenantId ≠ ""
  | .cancel .. => True

/-- What holds in every state of a run in time, but for the end of promises. -/
structure Kept (s : Feed) : Prop where
  numbered : ∀ e ∈ s.numbered, e.tenantId ≠ ""
  queued : ∀ id, ∀ δ ∈ (s.loops id).queue, δ.message.HasTenant
  current : ∀ id δ work, (s.loops id).current = some (δ, work) → δ.message.HasTenant
  lookedUp : ∀ id δ work, (s.loops id).current = some (δ, work) →
    work = .begun ∨ δ ∈ s.lookedUp
  finished : ∀ δ ∈ s.finished, δ ∈ s.lookedUp
  alertId : ∀ v ∈ s.views, v.alertId ≠ ""
  registered : ∀ v ∈ s.views, ∀ δ ∈ s.lookedUp, v.follows δ.message = true →
    v.registered = true
  serving : ∀ v ∈ s.views, ∀ id δ work e, (s.loops id).current = some (δ, work) →
    δ.message = .phase e → v.follows δ.message = true → Serving s v e work
  pushed : ∀ v ∈ s.views, ∀ δ ∈ s.finished, ∀ e, δ.message = .phase e →
    v.follows δ.message = true → Pushed s v.doId e

/-- A promise is one to a connected object, and one on record if it is marked. -/
def Current (s : Feed) : Prop :=
  ∀ v ∈ s.views, (s.sessions.objects v.doId).sockets ≠ 0 ∧
    (v.registered = true → v.found s.registry = true)

/-- A promise that is left is one there was, and lasts. -/
theorem kept_cases {s : Feed} {v w : View} (h : v.kept s = some w) :
    (w = v ∨ w = { v with registered := true }) ∧
      (s.sessions.objects v.doId).sockets ≠ 0 ∧
      (w.registered = true → v.found s.registry = true) := by
  unfold View.kept at h
  dsimp only at h
  split at h
  · cases h
  · rename_i hopen
    split at h
    · rename_i hfound
      obtain rfl := Option.some.inj h
      exact ⟨.inr rfl, hopen, fun _ => hfound⟩
    · split at h
      · cases h
      · rename_i hnot
        split at h
        · obtain rfl := Option.some.inj h
          exact ⟨.inl rfl, hopen, fun hreg => absurd hreg hnot⟩
        · cases h

theorem mem_settle {s : Feed} {w : View} (h : w ∈ s.settle.views) :
    ∃ v ∈ s.views, w.doId = v.doId ∧ w.tenantId = v.tenantId ∧ w.alertId = v.alertId ∧
      w.lastSeq = v.lastSeq ∧ (v.registered = true → w.registered = true) ∧
      (s.sessions.objects w.doId).sockets ≠ 0 ∧
      (w.registered = true → w.found s.registry = true) := by
  obtain ⟨v, hv, hw⟩ := List.mem_filterMap.mp h
  obtain ⟨rfl | rfl, hopen, hfound⟩ := kept_cases hw
  · exact ⟨w, hv, rfl, rfl, rfl, rfl, id, hopen, hfound⟩
  · exact ⟨v, hv, rfl, rfl, rfl, rfl, fun _ => rfl, hopen, hfound⟩

/-- The end of promises ends no other. -/
theorem Kept.settle {s : Feed} (hs : Kept s) : Kept s.settle ∧ Current s.settle := by
  have hserving : ∀ (v w : View) (e : PhaseEvent) (work : Work), w.doId = v.doId →
      w.tenantId = v.tenantId → w.alertId = v.alertId → Serving s v e work →
      Serving s.settle w e work := by
    intro v w e work hd ht ha h
    cases work with
    | begun => trivial
    | lookup x =>
        show x.Returns (Sees w.tenantId w.alertId w.doId) (PushesTo w.doId e)
        rw [hd, ht, ha]
        exact h
    | pushes ps =>
        show Pushed s w.doId e ∨ ∃ q ∈ ps, Waiting w.doId e q
        rw [hd]
        exact h
  -- what a view follows does not depend on whether it is registered
  have hfollows : ∀ (v w : View) (m : Message), w.tenantId = v.tenantId →
      w.alertId = v.alertId → w.lastSeq = v.lastSeq → w.follows m = v.follows m := by
    intro v w m ht ha hn
    cases m with
    | phase e => simp only [View.follows, ht, ha, hn]
    | cancel => rfl
  refine ⟨{ hs with alertId := ?_, registered := ?_, serving := ?_, pushed := ?_ }, ?_⟩
  · intro w hw
    obtain ⟨v, hv, -, -, ha, -⟩ := mem_settle hw
    exact ha ▸ hs.alertId v hv
  · intro w hw δ hδ hfol
    obtain ⟨v, hv, -, ht, ha, hn, hreg, -⟩ := mem_settle hw
    exact hreg (hs.registered v hv δ hδ (hfollows v w _ ht ha hn ▸ hfol))
  · intro w hw id δ work e hcur he hfol
    obtain ⟨v, hv, hd, ht, ha, hn, -⟩ := mem_settle hw
    exact hserving v w e work hd ht ha
      (hs.serving v hv id δ work e hcur he (hfollows v w _ ht ha hn ▸ hfol))
  · intro w hw δ hδ e he hfol
    obtain ⟨v, hv, hd, ht, ha, hn, -⟩ := mem_settle hw
    have hpushed := hs.pushed v hv δ hδ e he (hfollows v w _ ht ha hn ▸ hfol)
    rwa [← hd] at hpushed
  · intro w hw
    obtain ⟨v, hv, -, -, -, -, -, hopen, hfound⟩ := mem_settle hw
    exact ⟨hopen, hfound⟩

theorem kept_start : Kept Feed.start where
  numbered := fun _ h => by cases h
  queued := fun _ _ h => by cases h
  current := fun _ _ _ h => by cases h
  lookedUp := fun _ _ _ h => by cases h
  finished := fun _ h => by cases h
  alertId := fun _ h => by cases h
  registered := fun _ h => by cases h
  serving := fun _ h => by cases h
  pushed := fun _ h => by cases h

/-! ## §4  Steps in time -/

/-- No call of the fan-out fails: a lookup is answered, and a push arrives. -/
def smooth : Label → Bool
  | .lookup _ reply _ => reply.isSome
  | .push _ _ _ reached => reached
  | _ => true

/-- When the watchers of an event are looked up, whoever has read a snapshot below
it is on record; and when a snapshot is read, no event beyond it has been looked
up. -/
def inTime (s : Feed) : Label → Bool
  | .lookup id _ _ =>
      match (s.loops id).current with
      | some (δ, .begun) => s.views.all fun v => !v.follows δ.message || v.registered
      | _ => true
  | .read doId alertId named _ =>
      let v : View := ⟨doId, tokenTenant (s.sessions.objects doId), alertId,
        currentSeq s.sessions.clock named s.seqs, false⟩
      s.lookedUp.all fun δ => !v.follows δ.message
  | _ => true

def InTime (s : Feed) (l : Label) : Prop := smooth l = true ∧ inTime s l = true

instance (s : Feed) (l : Label) : Decidable (InTime s l) :=
  inferInstanceAs (Decidable (_ ∧ _))

theorem Serving.mono {s s' : Feed} {v : View} {e : PhaseEvent} {work : Work}
    (hlog : ∀ x ∈ s.sessions.log, x ∈ s'.sessions.log) (h : Serving s v e work) :
    Serving s' v e work := by
  cases work with
  | begun => trivial
  | lookup x => exact h
  | pushes ps => exact h.imp_left (hlog _)

/-- What the promises do not depend on may change. -/
theorem Kept.frame {s s' : Feed} (hs : Kept s) (hnumbered : s'.numbered = s.numbered)
    (hloops : s'.loops = s.loops) (hlooked : s'.lookedUp = s.lookedUp)
    (hfinished : s'.finished = s.finished) (hviews : s'.views = s.views)
    (hlog : ∀ x ∈ s.sessions.log, x ∈ s'.sessions.log) : Kept s' where
  numbered := by
    rw [hnumbered]
    exact hs.numbered
  queued := by
    rw [hloops]
    exact hs.queued
  current := by
    rw [hloops]
    exact hs.current
  lookedUp := by
    rw [hloops, hlooked]
    exact hs.lookedUp
  finished := by
    rw [hfinished, hlooked]
    exact hs.finished
  alertId := by
    rw [hviews]
    exact hs.alertId
  registered := by
    rw [hviews, hlooked]
    exact hs.registered
  serving := by
    rw [hviews, hloops]
    intro v hv id δ work e hcur he hfol
    exact (hs.serving v hv id δ work e hcur he hfol).mono hlog
  pushed := by
    rw [hviews, hfinished]
    intro v hv δ hδ e he hfol
    exact hlog _ (hs.pushed v hv δ hδ e he hfol)

/-- What has to hold of the work of one loop. -/
structure WorkKept (s : Feed) (δ : Delivery) (work : Work) : Prop where
  tenant : δ.message.HasTenant
  lookedUp : work = .begun ∨ δ ∈ s.lookedUp
  serving : ∀ v ∈ s.views, ∀ e, δ.message = .phase e → v.follows δ.message = true →
    Serving s v e work

theorem Kept.workKept {s : Feed} (hs : Kept s) {id : LoopId} {δ : Delivery} {work : Work}
    (h : (s.loops id).current = some (δ, work)) : WorkKept s δ work where
  tenant := hs.current id δ work h
  lookedUp := hs.lookedUp id δ work h
  serving := fun v hv e => hs.serving v hv id δ work e h

/-- One loop goes on. -/
theorem Kept.setLoop {s : Feed} (hs : Kept s) (id : LoopId) (loop : Loop)
    (hqueue : ∀ δ ∈ loop.queue, δ.message.HasTenant)
    (hwork : ∀ δ work, loop.current = some (δ, work) → WorkKept s δ work) :
    Kept (s.setLoop id loop) := by
  have hloop : ∀ id', (s.setLoop id loop).loops id' = loop ∨
      (s.setLoop id loop).loops id' = s.loops id' := by
    intro id'
    by_cases h : id' = id
    · subst h
      exact .inl (Function.update_self ..)
    · exact .inr (Function.update_of_ne h ..)
  have hall : ∀ id' δ work, ((s.setLoop id loop).loops id').current = some (δ, work) →
      WorkKept s δ work := by
    intro id' δ work h
    rcases hloop id' with hid | hid
    · exact hwork δ work (hid ▸ h)
    · exact hs.workKept (hid ▸ h)
  exact
    { hs with
      queued := by
        intro id' δ hδ
        rcases hloop id' with hid | hid
        · exact hqueue δ (hid ▸ hδ)
        · exact hs.queued id' δ (hid ▸ hδ)
      current := fun id' δ work h => (hall id' δ work h).tenant
      lookedUp := fun id' δ work h => (hall id' δ work h).lookedUp
      serving := fun v hv id' δ work e h => (hall id' δ work h).serving v hv e }

/-- A message is looked up when nobody it follows is missing. -/
theorem Kept.look {s : Feed} (hs : Kept s) {δ : Delivery}
    (h : ∀ v ∈ s.views, v.follows δ.message = true → v.registered = true) :
    Kept { s with lookedUp := s.lookedUp ++ [δ] } :=
  { hs with
    lookedUp := fun id δ' work hcur =>
      (hs.lookedUp id δ' work hcur).imp_right (List.mem_append_left _)
    finished := fun δ' hδ' => List.mem_append_left _ (hs.finished δ' hδ')
    registered := by
      intro v hv δ' hδ' hfol
      rcases List.mem_append.mp hδ' with hδ' | hδ'
      · exact hs.registered v hv δ' hδ' hfol
      · obtain rfl := List.mem_singleton.mp hδ'
        exact h v hv hfol }

/-- The work of a loop after a call of its lookup. -/
theorem serving_lookup {s : Feed} {v : View} {e : PhaseEvent} {x : Bff.Task (List Push)}
    (hfound : v.found s.registry = true)
    (hx : x.Returns (Sees v.tenantId v.alertId v.doId) (PushesTo v.doId e))
    {reply : Option Environment} (hreply : reply.isSome = true) (reached : Bool) :
    Serving s v e (match (resume reply reached x s.registry).1.result with
      | some ps => .pushes (ps.map fun p => (p, pushWithRetry p))
      | none => .lookup (resume reply reached x s.registry).1) := by
  obtain ⟨env, rfl⟩ := Option.isSome_iff_exists.mp hreply
  have hnext : (resume (some env) reached x s.registry).1.Returns
      (Sees v.tenantId v.alertId v.doId) (PushesTo v.doId e) :=
    hx.resume fun c _ => sees_answer hfound env c
  cases hres : (resume (some env) reached x s.registry).1 with
  | pure ps =>
      rw [hres] at hnext
      obtain ⟨p, hp, hd, henv⟩ := hnext
      exact .inr ⟨_, List.mem_map.mpr ⟨p, hp, rfl⟩, hd, henv, .inl rfl⟩
  | raise =>
      rw [hres] at hnext
      exact hnext.elim
  | call c next =>
      rw [hres] at hnext
      exact hnext

theorem Kept.dispatch {s : Feed} (hs : Kept s) (process : ℕ) {m : Message}
    (hm : m.HasTenant) : Kept (s.dispatch process m) := by
  have hloop : Kept (s.setLoop (Delivery.loop ⟨s.published, process, m⟩)
      { s.loops (Delivery.loop ⟨s.published, process, m⟩) with
        queue := (s.loops (Delivery.loop ⟨s.published, process, m⟩)).queue ++
          [⟨s.published, process, m⟩] }) := by
    refine hs.setLoop _ _ ?_ fun δ work h => hs.workKept h
    intro δ hδ
    rcases List.mem_append.mp hδ with hδ | hδ
    · exact hs.queued _ δ hδ
    · obtain rfl := List.mem_singleton.mp hδ
      exact hm
  exact hloop.frame rfl rfl rfl rfl rfl fun _ h => h

/-- A push of the message in hand goes on by one call. -/
theorem serving_push {s s' : Feed} {v : View} {e : PhaseEvent}
    {ps : List (Push × Bff.Task Unit)} {j : ℕ} {p : Push} {x : Bff.Task Unit}
    (h : Serving s v e (.pushes ps)) (hj : ps[j]? = some (p, x))
    (hopen : (s.sessions.objects v.doId).sockets ≠ 0)
    {reply : Option Environment} (hreply : (cannotFail x && reply.isNone) = false)
    (hlog : ∀ y ∈ s.sessions.log, y ∈ s'.sessions.log)
    (harrive : ∀ body, arriving x true = some body →
      ∀ y ∈ (s.arrive p.watcher.do_id body).1.log, y ∈ s'.sessions.log) :
    Serving s' v e (.pushes (ps.set j (p, (resume reply true x s.registry).1))) := by
  rcases h with hpushed | ⟨q, hq, hwait⟩
  · exact .inl (hlog _ hpushed)
  · obtain ⟨i, hlt, hi⟩ := List.mem_iff_getElem.mp hq
    by_cases hij : i = j
    · subst hij
      obtain rfl : q = (p, x) := by
        rw [List.getElem?_eq_getElem hlt, hi] at hj
        exact Option.some.inj hj
      have hadvance : Waiting v.doId e (p, (resume reply true x s.registry).1) ∨ _ :=
        hwait.advance hreply
      rcases hadvance with hnext | harr
      · refine .inr ⟨_, ?_, hnext⟩
        exact List.mem_iff_getElem.mpr ⟨i, by simpa using hlt, by simp⟩
      · refine .inl (harrive _ harr _ ?_)
        have hd := hwait.doId
        dsimp only at hd
        rw [hd]
        exact arrive_pushed hopen hwait.envelope
    · refine .inr ⟨q, ?_, hwait⟩
      refine List.mem_iff_getElem.mpr ⟨i, by simpa using hlt, ?_⟩
      rw [List.getElem_set_ne (fun h => hij h.symm), hi]

variable {D : Deployment}

theorem Kept.rest {s : Feed} (hs : Kept s) {id : LoopId} {queue : List Delivery}
    {current : Option (Delivery × Work)} (hid : s.loops id = ⟨queue, current⟩) :
    ∀ δ ∈ queue, δ.message.HasTenant := by
  intro δ hδ
  refine hs.queued id δ ?_
  rw [hid]
  exact hδ

/-- What was logged stays. -/
theorem log_of_step {s t : Sessions} {p : Platform} {step : Step}
    (hstep : s.step p step = some t) : ∀ x ∈ s.log, x ∈ t.log := by
  intro x hx
  obtain ⟨es, hes⟩ := step_log hstep
  rw [hes]
  exact List.mem_append_left _ hx

theorem Kept.take {s s' : Feed} (hs : Kept s) {id : LoopId}
    (h : s.move D (.take id) = some s') : Kept s' := by
  simp only [Feed.move] at h
  split at h
  · rename_i δ queue hid
    obtain rfl := Option.some.inj h
    have hqueue : ∀ δ' ∈ δ :: queue, δ'.message.HasTenant := hs.rest hid
    refine hs.setLoop _ _ (fun δ' hδ' => hqueue δ' (List.mem_cons_of_mem _ hδ')) ?_
    intro δ' work hwork
    obtain ⟨rfl, rfl⟩ := Prod.mk.inj (Option.some.inj hwork)
    exact
      { tenant := hqueue δ List.mem_cons_self
        lookedUp := .inl rfl
        serving := fun _ _ _ _ _ => trivial }
  · cases h

/-- A lookup begins in time, or goes on for views that are all on record. -/
theorem Kept.lookup {s s' : Feed} (hs : Kept s) (hv : Current s) {id : LoopId}
    {reply : Option Environment} {reached : Bool} (hc : InTime s (.lookup id reply reached))
    (h : s.move D (.lookup id reply reached) = some s') : Kept s' := by
  have hreply : reply.isSome = true := hc.1
  simp only [Feed.move] at h
  split at h
  · rename_i queue δ hid
    obtain rfl := Option.some.inj h
    have hcurrent : (s.loops id).current = some (δ, .begun) := by rw [hid]
    have hin : ∀ v ∈ s.views, v.follows δ.message = true → v.registered = true := by
      intro v hmem hfol
      have hall := hc.2
      simp only [inTime, hcurrent, List.all_eq_true] at hall
      simpa [hfol] using hall v hmem
    refine Kept.frame ((hs.look hin).setLoop id ⟨queue, some (δ, _)⟩ (hs.rest hid) ?_)
      rfl rfl rfl rfl rfl fun _ hx => hx
    intro δ' work hwork
    obtain ⟨rfl, rfl⟩ := Prod.mk.inj (Option.some.inj hwork)
    refine ⟨hs.current id δ _ hcurrent, .inr (by simp), ?_⟩
    intro v hmem e he hfol
    have htenant : e.tenantId ≠ "" := by
      have := hs.current id δ _ hcurrent
      rwa [he] at this
    obtain ⟨ha, ht, -⟩ := View.follows_phase (he ▸ hfol)
    refine Serving.mono (s := s) (fun _ hx => hx)
      (serving_lookup ((hv v hmem).2 (hin v hmem hfol)) ?_ hreply reached)
    rw [ha, ht]
    exact program_returns D he htenant (ha ▸ hs.alertId v hmem)
  · rename_i queue δ x hid
    obtain rfl := Option.some.inj h
    have hcurrent : (s.loops id).current = some (δ, .lookup x) := by rw [hid]
    have hlooked : δ ∈ s.lookedUp :=
      (hs.lookedUp id δ _ hcurrent).resolve_left fun hw => by cases hw
    refine Kept.frame (hs.setLoop id ⟨queue, some (δ, _)⟩ (hs.rest hid) ?_)
      rfl rfl rfl rfl rfl fun _ hx => hx
    intro δ' work hwork
    obtain ⟨rfl, rfl⟩ := Prod.mk.inj (Option.some.inj hwork)
    refine ⟨hs.current id δ _ hcurrent, .inr hlooked, ?_⟩
    intro v hmem e he hfol
    exact serving_lookup ((hv v hmem).2 (hs.registered v hmem δ hlooked hfol))
      (hs.serving v hmem id δ _ e hcurrent he hfol) hreply reached
  · cases h

theorem Kept.push {s s' : Feed} (hs : Kept s) (hv : Current s) {id : LoopId} {j : ℕ}
    {reply : Option Environment} (h : s.move D (.push id j reply true) = some s') :
    Kept s' := by
  simp only [Feed.move] at h
  split at h
  · rename_i queue δ ps hid
    have hcurrent : (s.loops id).current = some (δ, .pushes ps) := by rw [hid]
    split at h
    · rename_i p x hj
      split at h
      · cases h
      · rename_i hreply
        obtain rfl := Option.some.inj h
        let sessions := (((arriving x true).map (s.arrive p.watcher.do_id)).map
          Prod.fst).getD s.sessions
        have hlog : ∀ y ∈ s.sessions.log, y ∈ sessions.log := by
          intro y hy
          simp only [sessions]
          cases arriving x true with
          | none => exact hy
          | some body => exact List.mem_append_left _ hy
        have harrive : ∀ body, arriving x true = some body →
            ∀ y ∈ (s.arrive p.watcher.do_id body).1.log, y ∈ sessions.log := by
          intro body hbody y hy
          simp only [sessions, hbody]
          exact hy
        have ht : Kept { s with sessions := sessions } :=
          hs.frame rfl rfl rfl rfl rfl hlog
        refine Kept.frame (ht.setLoop id ⟨queue, some (δ, _)⟩ (hs.rest hid) ?_)
          rfl rfl rfl rfl rfl fun _ hx => hx
        intro δ' work hwork
        obtain ⟨rfl, rfl⟩ := Prod.mk.inj (Option.some.inj hwork)
        have hold := hs.workKept hcurrent
        refine ⟨hold.tenant, hold.lookedUp.imp_left (fun hw => by cases hw), ?_⟩
        intro v hmem e he hfol
        exact serving_push (hold.serving v hmem e he hfol) hj (hv v hmem).1
          (Bool.eq_false_iff.mpr hreply) hlog harrive
    · cases h
  · cases h

theorem Kept.finish {s s' : Feed} (hs : Kept s) {id : LoopId}
    (h : s.move D (.finish id) = some s') : Kept s' := by
  simp only [Feed.move] at h
  split at h
  · rename_i queue δ ps hid
    have hcurrent : (s.loops id).current = some (δ, .pushes ps) := by rw [hid]
    split at h
    · rename_i hover
      obtain rfl := Option.some.inj h
      have hold := hs.workKept hcurrent
      have hlooked : δ ∈ s.lookedUp := hold.lookedUp.resolve_left fun hw => by cases hw
      have hidle : Kept (s.setLoop id ⟨queue, none⟩) :=
        hs.setLoop _ _ (hs.rest hid) fun _ _ hwork => by cases hwork
      refine { hidle with finished := ?_, pushed := ?_ }
      · intro δ' hδ'
        rcases List.mem_append.mp hδ' with hδ' | hδ'
        · exact hs.finished δ' hδ'
        · obtain rfl := List.mem_singleton.mp hδ'
          exact hlooked
      · intro v hmem δ' hδ' e he hfol
        rcases List.mem_append.mp hδ' with hδ' | hδ'
        · exact hs.pushed v hmem δ' hδ' e he hfol
        · obtain rfl := List.mem_singleton.mp hδ'
          -- all pushes are over, so none is waiting
          rcases hold.serving v hmem e he hfol with hpushed | ⟨q, hq, hwait⟩
          · exact hpushed
          · have hnone := List.all_eq_true.mp hover q hq
            rw [hwait.awaited_isSome] at hnone
            cases hnone
    · cases h
  · cases h

/-- A snapshot is read in time: no event beyond it has been looked up. -/
theorem Kept.read {s s' : Feed} (hs : Kept s) {doId alertId named : String}
    {phase : Option String} (hc : InTime s (.read doId alertId named phase))
    (h : s.move D (.read doId alertId named phase) = some s') : Kept s' := by
  simp only [Feed.move] at h
  split at h
  · rename_i hguard
    obtain rfl := Option.some.inj h
    have hnew := List.all_eq_true.mp hc.2
    have hold : ∀ δ ∈ s.lookedUp, View.follows ⟨doId,
        tokenTenant (s.sessions.objects doId), alertId,
        currentSeq s.sessions.clock named s.seqs, false⟩ δ.message = true → False := by
      intro δ hδ hfol
      have hno := hnew δ hδ
      rw [hfol] at hno
      cases hno
    refine { hs with alertId := ?_, registered := ?_, serving := ?_, pushed := ?_ }
    · intro v hmem
      rcases List.mem_append.mp hmem with hmem | hmem
      · exact hs.alertId v hmem
      · obtain rfl := List.mem_singleton.mp hmem
        exact hguard.2.1
    · intro v hmem δ hδ hfol
      rcases List.mem_append.mp hmem with hmem | hmem
      · exact hs.registered v hmem δ hδ hfol
      · obtain rfl := List.mem_singleton.mp hmem
        exact (hold δ hδ hfol).elim
    · intro v hmem id δ work e hcur he hfol
      rcases List.mem_append.mp hmem with hmem | hmem
      · exact hs.serving v hmem id δ work e hcur he hfol
      · obtain rfl := List.mem_singleton.mp hmem
        rcases hs.lookedUp id δ work hcur with rfl | hδ
        · trivial
        · exact (hold δ hδ hfol).elim
    · intro v hmem δ hδ e he hfol
      rcases List.mem_append.mp hmem with hmem | hmem
      · exact hs.pushed v hmem δ hδ e he hfol
      · obtain rfl := List.mem_singleton.mp hmem
        exact (hold δ (hs.finished δ hδ) hfol).elim
  · cases h

/-- **One step in time** keeps every promise, but for the end of promises. -/
theorem Kept.move {s s' : Feed} {l : Label} (hs : Kept s) (hv : Current s)
    (hc : InTime s l) (h : s.move D l = some s') : Kept s' := by
  cases l with
  | session step =>
      simp only [Feed.move] at h
      split at h
      · obtain ⟨t, hstep, rfl⟩ := Option.map_eq_some_iff.mp h
        exact hs.frame rfl rfl rfl rfl rfl (log_of_step hstep)
      · cases h
  | pass d =>
      obtain rfl := Option.some.inj h
      exact hs.frame rfl rfl rfl rfl rfl fun _ hx => hx
  | nextSeq tenantId alertId phase emittedAt =>
      simp only [Feed.move] at h
      split at h
      · cases h
      · rename_i htenant
        obtain rfl := Option.some.inj h
        refine { hs with numbered := ?_ }
        intro e he
        rcases List.mem_append.mp he with he | he
        · exact hs.numbered e he
        · obtain rfl := List.mem_singleton.mp he
          exact htenant
  | publish i process =>
      obtain ⟨e, hi, rfl⟩ := Option.map_eq_some_iff.mp h
      have herase : Kept { s with numbered := s.numbered.eraseIdx i } :=
        { hs with numbered := fun e he => hs.numbered e (List.mem_of_mem_eraseIdx he) }
      exact herase.dispatch process (hs.numbered e (List.mem_of_getElem? hi))
  | cancel process tenantId alertId userId requestedAt =>
      obtain rfl := Option.some.inj h
      exact hs.dispatch process trivial
  | take id => exact hs.take h
  | lookup id reply reached => exact hs.lookup hv hc h
  | push id j reply reached =>
      obtain rfl : reached = true := hc.1
      exact hs.push hv h
  | finish id => exact hs.finish h
  | read doId alertId named phase => exact hs.read hc h
  | snapshot doId i j =>
      simp only [Feed.move] at h
      split at h
      · split at h
        · obtain ⟨t, hstep, rfl⟩ := Option.map_eq_some_iff.mp h
          exact hs.frame rfl rfl rfl rfl rfl (log_of_step hstep)
        · cases h
      · cases h
  | post i reply reached =>
      obtain ⟨post, hi, rfl⟩ := Option.map_eq_some_iff.mp h
      exact hs.frame rfl rfl rfl rfl rfl fun _ hx => hx
  | registered doId i j =>
      simp only [Feed.move] at h
      split at h
      · split at h
        · obtain ⟨t, hstep, rfl⟩ := Option.map_eq_some_iff.mp h
          exact hs.frame rfl rfl rfl rfl rfl (log_of_step hstep)
        · cases h
      · cases h

/-! ## §5  Nothing is lost -/

/-- Every event beyond the snapshot of a connected and registered client has been
pushed to its object when the fan-out is through with the event. -/
def NothingLost (s : Feed) : Prop :=
  ∀ v ∈ s.views, ∀ δ ∈ s.finished, ∀ e, δ.message = .phase e →
    v.follows δ.message = true → Pushed s v.doId e

/-- **Snapshot, then watch**: in a run without failures in which no event is looked
up between a snapshot below it and the registration, no event is lost. -/
theorem nothing_lost {s : Feed} (h : (feedSystem D).Reached InTime s) : NothingLost s := by
  have hboth : Kept s ∧ Current s := by
    apply h.invariant (P := fun s => Kept s ∧ Current s)
    · rintro s rfl
      exact ⟨kept_start, fun _ hv => by cases hv⟩
    · intro s l s' hs hc hstep
      obtain ⟨t, hmove, rfl⟩ := Option.map_eq_some_iff.mp hstep
      exact (hs.1.move hs.2 hc hmove).settle
  exact hboth.1.pushed

/-- One process, one platform, and URLs of any kind. -/
def sampleDeployment : Deployment :=
  ⟨⟨id, Function.injective_id, "https://gateway", 60⟩, fun _ => true, fun _ => ""⟩

def told : Option Environment := some ⟨1700000000, "token", 204⟩

/-- The client opens its websocket, watches the alert, and the snapshot is read. -/
def snapshotRead : List Label :=
  [.session (.issueWsTicket "ticket-1" ⟨"user", "tenant", none⟩),
    .session (.upgrade "ticket-1"), .session (.redeem 0 true),
    .session (.answer 0 true),
    .session (.message "ticket:ticket-1" (some (.watch "alert"))),
    .read "ticket:ticket-1" "alert" "alert" none]

/-- The snapshot arrives, and the object registers. -/
def registration : List Label :=
  [.snapshot "ticket:ticket-1" 0 0, .post 0 told true, .post 0 told true,
    .registered "ticket:ticket-1" 0 0]

/-- The first event is numbered and published, and a loop takes it. -/
def eventTaken : List Label :=
  [.nextSeq "tenant" "alert" .extract "2024-01-01T00:00:00", .publish 0 0,
    .take ⟨0, .events⟩]

/-- The loop works on the event, with this many calls for its one push. -/
def eventHandled (lookups pushes : ℕ) : List Label :=
  List.replicate lookups (.lookup ⟨0, .events⟩ told true) ++
    List.replicate pushes (.push ⟨0, .events⟩ 0 told true) ++ [.finish ⟨0, .events⟩]

/-- An event that is looked up after the registration comes through. -/
theorem nothing_lost_registered :
    ∃ s, (feedSystem sampleDeployment).run Feed.start
        (snapshotRead ++ registration ++ eventTaken ++ eventHandled 2 4) = some s ∧
      s.finished.length = 1 ∧ NothingLost s := by
  have hrun : ((feedSystem sampleDeployment).run Feed.start (snapshotRead ++
      registration ++ eventTaken ++ eventHandled 2 4)).any
        (fun s => s.finished.length == 1) = true := by decide +kernel
  obtain ⟨s, hs, hfinished⟩ := (Option.any_eq_true _ _).mp hrun
  have hmeets : (feedSystem sampleDeployment).Meets InTime Feed.start
      (snapshotRead ++ registration ++ eventTaken ++ eventHandled 2 4) := by
    decide +kernel
  exact ⟨s, hs, beq_iff_eq.mp hfinished, nothing_lost (hmeets.reached (.start rfl) hs)⟩

/-- An event that is looked up between the snapshot and the registration is lost,
with no failure anywhere. -/
theorem event_lost_in_gap :
    ¬ ∀ (D : Deployment) (s : Feed),
      (feedSystem D).Reached (fun _ l => smooth l = true) s → NothingLost s := by
  let v : View := ⟨"ticket:ticket-1", "tenant", "alert", 0, true⟩
  let e : PhaseEvent := ⟨"alert", "tenant", 1, "2024-01-01T00:00:00", none, .extract⟩
  have hrun : ((feedSystem sampleDeployment).run Feed.start (snapshotRead ++ eventTaken ++
      eventHandled 1 0 ++ registration)).any (fun s => decide (v ∈ s.views ∧
        ⟨0, 0, .phase e⟩ ∈ s.finished ∧ ¬ .pushed v.doId (.phase (some (triageEvent e))) ∈
          s.sessions.log)) = true := by decide +kernel
  obtain ⟨s, hs, hlost⟩ := (Option.any_eq_true _ _).mp hrun
  obtain ⟨hview, hfinished, hnot⟩ := of_decide_eq_true hlost
  have hmeets : (feedSystem sampleDeployment).Meets (fun _ l => smooth l = true)
      Feed.start (snapshotRead ++ eventTaken ++ eventHandled 1 0 ++ registration) := by
    decide +kernel
  intro h
  exact hnot (h _ s (hmeets.reached (.start rfl) hs) v hview _ hfinished e rfl (by decide))

end AlertTriage.Live
