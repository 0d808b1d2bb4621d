import AlertTriage.Bff.RegistryRuns

/-!
# Removals from the watcher registry are final

A refresh gives its keys a new lifetime and then writes a field of the metadata.
If the metadata went in the meantime, because a push that had begun before a
removal comes back after it, the write makes them anew, without a lifetime.
Runs whose refreshes all find the metadata are exactly those in which every key
keeps a lifetime, and in them a removed object is never found again unless it is
registered again (`removals_final_iff`).
-/

namespace AlertTriage.Bff

open Library

/-- Every key of the registry has a lifetime. -/
def AllExpire (r : Registry) : Prop :=
  ∀ key e, r.view key = some e → e.deadline ≠ none

/-- A refresh finds the metadata of its object. -/
def RefreshesLive (r : Registry) : Move → Prop
  | .apply (.refreshTtl d _ _ ttl _) => ttl ≠ 0 ∧ (r.infoOf d).isSome
  | _ => True

/-! ## §1  Lifetimes -/

section Move

variable {r : Registry} (hr : r.WellTyped)

include hr

theorem view_meta_eq_none {d : String} :
    r.view (k.meta d) = none ↔ r.fields d = [] :=
  (Keyspace.WellTyped.hgetall_eq_nil_iff hr (isMetaKey_meta d)).symm

/-- A refresh of an object with metadata writes to a hash that expires. -/
theorem timed_refreshTtl {d a t : String} {ttl now : ℕ}
    (hlive : RefreshesLive r (.apply (.refreshTtl d a t ttl now))) {key : String}
    (hkeep : Keyspace.Timed (r.view key)) :
    Keyspace.Timed ((r.apply (.refreshTtl d a t ttl now)).view key) := by
  obtain ⟨hpos, hinfo⟩ := hlive
  have hexp : Keyspace.Timed ([Keyspace.Command.expire (k.meta d) ttl,
      .expire (k.alert t a) ttl, .expire (k.doAlerts d) ttl].foldl
        (Keyspace.Command.updateAt r.clock key) (r.view key)) := by
    refine Keyspace.timed_foldl ?_ hkeep
    intro c hc
    simp only [List.mem_cons, List.not_mem_nil, or_false] at hc
    rcases hc with rfl | rfl | rfl
    · exact .inr (.inl ⟨_, rfl⟩)
    · exact .inr (.inl ⟨_, rfl⟩)
    · exact .inr (.inl ⟨_, rfl⟩)
  rw [view_apply]
  by_cases hmeta : key = k.meta d
  · subst hmeta
    have hview : r.view (k.meta d) ≠ none := by
      rw [Ne, view_meta_eq_none hr]
      exact infoOf_isSome.mp hinfo
    obtain ⟨e, he⟩ := Option.ne_none_iff_exists'.mp hview
    simp only [Transaction.commands, List.foldl_cons, List.foldl_nil,
      Keyspace.Command.updateAt, Keyspace.Command.key, meta_ne_alert,
      meta_ne_doAlerts, if_true, if_false] at hexp ⊢
    refine Keyspace.timed_hset hexp ?_ _ _ _
    simp [he, Keyspace.Command.update, hpos]
  · simpa only [Transaction.commands, List.foldl_cons, List.foldl_nil,
      Keyspace.Command.updateAt, Keyspace.Command.key, hmeta, if_false]
      using hexp

/-- A refresh of an object without metadata starts a hash that has no deadline. -/
theorem view_refreshTtl_of_dead {d a t : String} {ttl now : ℕ}
    (hdead : ¬ RefreshesLive r (.apply (.refreshTtl d a t ttl now))) :
    (r.apply (.refreshTtl d a t ttl now)).view (k.meta d) =
      some ⟨.hash (Keyspace.mergeFields [("last_seen_epoch", toString now)] []), none⟩ := by
  have hnone : (Keyspace.Command.expire (k.meta d) ttl).update r.clock
      (r.view (k.meta d)) = none := by
    by_cases hpos : ttl = 0
    · subst hpos
      cases r.view (k.meta d) <;> rfl
    · have hfields : r.fields d = [] := by
        by_contra hne
        exact hdead ⟨hpos, infoOf_isSome.mpr hne⟩
      rw [(view_meta_eq_none hr).mpr hfields]
      rfl
  rw [view_apply]
  simp only [Transaction.commands, List.foldl_cons, List.foldl_nil,
    Keyspace.Command.updateAt, Keyspace.Command.key, meta_ne_alert,
    meta_ne_doAlerts, if_true, if_false, hnone]
  rfl

/-- Only a refresh without its metadata makes a key that has no deadline. -/
theorem refreshesLive_iff (hP : AllExpire r) (m : Move) :
    RefreshesLive r m ↔ AllExpire (r.move m) := by
  constructor
  · intro hC key
    show Keyspace.Timed _
    have hkeep : Keyspace.Timed (r.view key) := hP key
    cases m with
    | pass n =>
        rw [Registry.move, view_pass]
        intro e he
        exact hkeep e (Option.filter_eq_some_iff.mp he).1
    | apply b =>
        rw [Registry.move]
        cases b with
        | registerWatch d u t a url ttl now =>
            rw [view_apply]
            exact Keyspace.timed_writes ttl
              [.hset (k.meta d) [("user_id", u), ("tenant_id", t), ("push_url", url),
                ("last_seen_epoch", toString now)],
                .sadd (k.alert t a) d, .sadd (k.user t u) d, .sadd (k.doAlerts d) a]
              hkeep
        | deregisterWatch t d a =>
            rw [view_apply]
            refine Keyspace.timed_foldl ?_ hkeep
            intro c hc
            simp only [Transaction.commands, List.mem_append,
              List.mem_singleton] at hc
            rcases hc with hc | rfl
            · split at hc
              · obtain rfl := List.mem_singleton.mp hc
                exact .inl ⟨_, rfl⟩
              · cases hc
            · exact .inl ⟨_, rfl⟩
        | deregisterDo d info as =>
            rw [view_apply]
            refine Keyspace.timed_foldl ?_ hkeep
            intro c hc
            simp only [Transaction.commands, List.mem_append, List.mem_map,
              List.mem_cons, List.not_mem_nil, or_false] at hc
            rcases hc with ⟨a, -, rfl⟩ | rfl | rfl | rfl
            · exact .inl ⟨_, rfl⟩
            · exact .inl ⟨_, rfl⟩
            · exact .inr (.inr rfl)
            · exact .inr (.inr rfl)
        | refreshTtl d a t ttl now => exact timed_refreshTtl hr hC hkeep
  · intro hP'
    cases m with
    | pass n => trivial
    | apply b =>
        cases b with
        | registerWatch d u t a url ttl now => trivial
        | deregisterWatch t d a => trivial
        | deregisterDo d info as => trivial
        | refreshTtl d a t ttl now =>
            by_contra hdead
            exact hP' _ _ (view_refreshTtl_of_dead hr hdead) rfl

end Move

theorem allExpire_empty : AllExpire Registry.empty := fun _ _ h => by cases h

/-! ## §2  Removals -/

/-- The object that the operation is there to remove. -/
def Operation.removes : Operation → Option String
  | .deregisterDo d => some d
  | .pruneDoEverywhere d => some d
  | _ => none

/-- The step ends a removal of the object: it applies the block that deletes the
metadata, or an operation that removes the object returns. -/
def Fleet.Removed (s s' : Fleet) (l : Label) (d : String) : Prop :=
  (∃ info as, s.moveOf l = some (.apply (.deregisterDo d info as))) ∨
    ∃ (i : ℕ) (op : Operation) (x : Task (List WatcherMeta)) (ws : List WatcherMeta),
      op.removes = some d ∧ s.tasks[i]? = some (op, x) ∧ x.result = none ∧
        s'.tasks[i]? = some (op, Async.pure ws)

/-- The step registers the object. -/
def Fleet.Registers (d : String) (s : Fleet) (l : Label) : Prop :=
  ∃ u t a url ttl now, s.moveOf l = some (.apply (.registerWatch d u t a url ttl now))

/-- After a removal, and until the object is registered again, `getMeta` finds
nothing and no lookup begun since has returned the object. -/
def RemovalsFinal (isUrl : String → Bool) (as : List Label) : Prop :=
  ∀ before l after s s' t d, as = before ++ l :: after →
    (registrySystem isUrl).run Fleet.start before = some s →
    s.step isUrl l = some s' → s.Removed s' l d →
    (registrySystem isUrl).run s' after = some t →
    ¬ (registrySystem isUrl).Occurs (Fleet.Registers d) s' after →
    t.registry.infoOf d = none ∧
      ∀ (i : ℕ) (op : Operation) (ws : List WatcherMeta), s'.tasks.length ≤ i →
        t.tasks[i]? = some (op, Async.pure ws) → ∀ w ∈ ws, w.do_id ≠ d

/-- The reply after which there are no metadata of the object. -/
def EndsRemoval (d : String) : (c : Call) → c.Reply → Prop
  | .hgetall key, h => key = k.meta d ∧ h = []
  | .exec block, _ => ∃ info as, block = .deregisterDo d info as
  | _, _ => False

/-- What a removal does with the metadata it has read. -/
def afterMeta (d : String) (info : Option WatcherMeta) : Task (List WatcherMeta) :=
  forEffect (match info with
    | none => pure ()
    | some info => do
        let alertIds ← smembers (k.doAlerts d)
        exec (.deregisterDo d info alertIds))

theorem afterMeta_last (d : String) (info : Option WatcherMeta) :
    (afterMeta d info).Last (EndsRemoval d) ∧
      ((afterMeta d info).result ≠ none → info = none) := by
  cases info with
  | none => exact ⟨trivial, fun _ => rfl⟩
  | some info =>
      refine ⟨⟨⟨trivial, rfl⟩, ?_⟩, fun hres => absurd rfl hres⟩
      intro alertIds
      refine ⟨⟨⟨trivial, rfl⟩, ?_⟩, fun hres => absurd rfl hres⟩
      intro _
      exact ⟨trivial, fun _ => ⟨info, alertIds, rfl⟩⟩

/-- **A removal** returns once there are no metadata: it read none, or it has
deleted them. -/
theorem deregisterDo_last (d : String) :
    (forEffect (deregisterDo d)).Last (EndsRemoval d) := by
  refine ⟨⟨trivial, rfl⟩, ?_⟩
  intro h
  obtain ⟨hlast, hend⟩ := afterMeta_last d (WatcherMeta.ofHash d h)
  refine ⟨hlast, ?_⟩
  intro hres
  refine ⟨rfl, ?_⟩
  have hnone : WatcherMeta.ofHash d h = none := hend hres
  unfold WatcherMeta.ofHash at hnone
  split at hnone
  · assumption
  · cases hnone

theorem removes_last (isUrl : String → Bool) {op : Operation} {d : String}
    (h : op.removes = some d) : (op.program isUrl).Last (EndsRemoval d) := by
  cases op with
  | deregisterDo d' =>
      obtain rfl := Option.some.inj h
      exact deregisterDo_last d'
  | pruneDoEverywhere d' =>
      obtain rfl := Option.some.inj h
      exact deregisterDo_last d'
  | _ => cases h

/-- Every removal under way still ends on such a reply. -/
def RemovalsLast (s : Fleet) : Prop :=
  ∀ (i : ℕ) (op : Operation) (x : Task (List WatcherMeta)) (d : String),
    s.tasks[i]? = some (op, x) → op.removes = some d → x.Last (EndsRemoval d)

/-- What the step makes of one task: another step leaves it, its own resumes it,
and a new one starts at its program. -/
theorem step_task {isUrl : String → Bool} {s s' : Fleet} {l : Label}
    (h : s.step isUrl l = some s') {i : ℕ} {op : Operation}
    {x' : Task (List WatcherMeta)} (hi : s'.tasks[i]? = some (op, x')) :
    s.tasks[i]? = some (op, x') ∨
      (s.tasks.length ≤ i ∧ x' = op.program isUrl) ∨
      ∃ x o env, s.tasks[i]? = some (op, x) ∧ l = .advance i o env ∧
        x' = (x.resume (answer env) o s.registry).1 := by
  cases l with
  | begin op' =>
      obtain rfl := Option.some.inj h
      simp only [List.getElem?_append] at hi
      split at hi
      · exact .inl hi
      · rename_i hlen
        have hone := List.getElem?_eq_some_iff.mp hi
        obtain ⟨hlt, heq⟩ := hone
        rw [List.getElem_singleton] at heq
        obtain ⟨rfl, rfl⟩ := Prod.mk.inj heq
        exact .inr (.inl ⟨Nat.le_of_not_lt hlen, rfl⟩)
  | pass n =>
      obtain rfl := Option.some.inj h
      exact .inl hi
  | advance j o env =>
      simp only [Fleet.step, Option.map_eq_some_iff] at h
      obtain ⟨⟨op', x⟩, hj, rfl⟩ := h
      by_cases hij : j = i
      · subst hij
        have hlt : j < s.tasks.length := (List.getElem?_eq_some_iff.mp hj).1
        rw [List.getElem?_set_self hlt] at hi
        obtain ⟨rfl, rfl⟩ := Prod.mk.inj (Option.some.inj hi)
        exact .inr (.inr ⟨x, o, env, hj, rfl, rfl⟩)
      · rw [List.getElem?_set_ne hij] at hi
        exact .inl hi

theorem removalsLast_step {isUrl : String → Bool} {s s' : Fleet} {l : Label}
    (h : s.step isUrl l = some s') (hs : RemovalsLast s) : RemovalsLast s' := by
  intro i op x' d hi hop
  rcases step_task h hi with hold | ⟨-, rfl⟩ | ⟨x, o, env, hx, -, rfl⟩
  · exact hs i op x' d hold hop
  · exact removes_last isUrl hop
  · exact ((hs i op x d hx hop).resume o).1

/-- The metadata are gone when a removal has ended. -/
theorem fields_of_removed {isUrl : String → Bool} {s s' : Fleet} {l : Label}
    {d : String} (hr : s.registry.WellTyped) (hs : RemovalsLast s)
    (h : s.step isUrl l = some s') (hrem : s.Removed s' l d) :
    s'.registry.fields d = [] := by
  rcases hrem with ⟨info, as, hmove⟩ | ⟨i, op, x, ws, hop, hx, hopen, hdone⟩
  · rw [step_registry h, hmove]
    exact (fields_deregisterDo hr d d info as).trans (if_pos rfl)
  · rcases step_task h hdone with hold | ⟨hlen, -⟩ | ⟨x₀, o, env, hx₀, rfl, hres⟩
    · rw [hx] at hold
      obtain ⟨-, rfl⟩ := Prod.mk.inj (Option.some.inj hold)
      cases hopen
    · exact absurd (List.getElem?_eq_some_iff.mp hx).1 (Nat.not_lt.mpr hlen)
    · rw [hx] at hx₀
      obtain ⟨-, rfl⟩ := Prod.mk.inj (Option.some.inj hx₀)
      have hend := ((hs i op x d hx hop).resume (s := s.registry)
        (h := answer env) o).2 hopen (by rw [← hres]; exact Option.some_ne_none _)
      obtain ⟨rfl, c, next, rfl, hL⟩ := hend
      rw [step_registry h]
      cases c with
      | hgetall key =>
          obtain ⟨rfl, hnil⟩ := hL
          simp only [Fleet.moveOf, hx]
          exact hnil
      | exec block =>
          obtain ⟨info, as, rfl⟩ := hL
          simp only [Fleet.moveOf, hx]
          exact (fields_deregisterDo hr d d info as).trans (if_pos rfl)
      | _ => exact hL.elim

/-! ## §3  Lookups after a removal -/

/-- The replies of a store without metadata of the object. -/
def Without (d : String) : (c : Call) → c.Reply → Prop
  | .hgetall key, h => key = k.meta d → h = []
  | _, _ => True

def Avoids (d : String) (ws : List WatcherMeta) : Prop := ∀ w ∈ ws, w.do_id ≠ d

theorem forEffect_avoids {α : Type} (d : String) (x : Task α) :
    (forEffect x).Under (Without d) (Avoids d) :=
  Async.Under.bind (Async.under_true x) fun _ _ _ hw => by cases hw

theorem getMeta_avoids (d d' : String) :
    (getMeta d').Under (Without d) (fun o => ∀ w, o = some w → w.do_id ≠ d) := by
  refine Async.Under.bind (Async.Under.await
    (Q := fun h => d' = d → h = []) ?_) ?_
  · rintro h hwithout rfl
    exact hwithout rfl
  · intro h hnil w hw
    unfold WatcherMeta.ofHash at hw
    split at hw
    · cases hw
    · rename_i hne
      obtain rfl := Option.some.inj hw
      exact fun hid => hne (hnil hid)

theorem getMetas_avoids (d : String) (ds : List String) :
    (getMetas ds).Under (Without d)
      (fun os => ∀ w, some w ∈ os → w.do_id ≠ d) := by
  induction ds with
  | nil => exact fun w hw => by cases hw
  | cons d' ds ih =>
      refine Async.Under.bind (getMeta_avoids d d') fun o ho => ?_
      refine Async.Under.bind ih fun os hos => ?_
      intro w hw
      rcases List.mem_cons.mp hw with hw | hw
      · exact ho w hw.symm
      · exact hos w hw

theorem watchersUnder_avoids (d key : String) :
    (watchersUnder key).Under (Without d) (Avoids d) := by
  refine Async.Under.bind (Async.under_true _) fun ds _ => ?_
  split
  · exact fun w hw => by cases hw
  · refine Async.Under.bind (getMetas_avoids d ds) fun os hos => ?_
    intro w hw
    obtain ⟨o, ho, hid⟩ := List.mem_filterMap.mp hw
    obtain rfl : o = some w := hid
    exact hos w ho

theorem program_avoids (isUrl : String → Bool) (d : String) (op : Operation) :
    (op.program isUrl).Under (Without d) (Avoids d) := by
  cases op with
  | watchersForAlert t a => exact watchersUnder_avoids d _
  | dosForUser t u => exact watchersUnder_avoids d _
  | _ => exact forEffect_avoids d _

/-- The object has no metadata, and the operations from the `n`-th on return
nothing of it. -/
structure Gone (d : String) (n : ℕ) (s : Fleet) : Prop where
  wellTyped : s.registry.WellTyped
  fields : s.registry.fields d = []
  tasks : ∀ (i : ℕ) (op : Operation) (x : Task (List WatcherMeta)), n ≤ i →
    s.tasks[i]? = some (op, x) → x.Under (Without d) (Avoids d)

theorem answer_without {env : Environment} {r : Registry} {d : String}
    (h : r.fields d = []) (c : Call) : Without d c (answer env c r).1 := by
  cases c with
  | hgetall key =>
      rintro rfl
      exact h
  | _ => trivial

theorem wellTyped_step {isUrl : String → Bool} {s s' : Fleet} {l : Label}
    (h : s.step isUrl l = some s') (hs : s.registry.WellTyped) :
    s'.registry.WellTyped := by
  rw [step_registry h]
  cases s.moveOf l with
  | none => exact hs
  | some m => exact hs.move m

/-- **One step** that does not register the object, and whose refresh finds its
metadata. -/
theorem gone_step {isUrl : String → Bool} {d : String} {n : ℕ} {s s' : Fleet}
    {l : Label} (h : s.step isUrl l = some s')
    (hC : ∀ m, s.moveOf l = some m → RefreshesLive s.registry m)
    (hreg : ¬ Fleet.Registers d s l) (hs : Gone d n s) : Gone d n s' where
  wellTyped := wellTyped_step h hs.wellTyped
  fields := by
    rw [step_registry h]
    cases hm : s.moveOf l with
    | none => exact hs.fields
    | some m =>
        by_contra hne
        refine hne ((fields_move hs.wellTyped hne ?_ ?_).trans hs.fields)
        · rintro u t a url ttl now rfl
          exact hreg ⟨u, t, a, url, ttl, now, hm⟩
        · rintro a t ttl now rfl
          exact infoOf_isSome.mp (hC _ hm).2 hs.fields
  tasks := by
    intro i op x' hi hx'
    rcases step_task h hx' with hold | ⟨-, rfl⟩ | ⟨x, o, env, hx, -, rfl⟩
    · exact hs.tasks i op x' hi hold
    · exact program_avoids isUrl d op
    · exact (hs.tasks i op x hi hx).resume (answer_without hs.fields) o

/-! ## §4  Runs -/

theorem removalsFinal_of_meets {isUrl : String → Bool} {as : List Label}
    (hC : (registrySystem isUrl).Meets
      (fun s l => ∀ m, s.moveOf l = some m → RefreshesLive s.registry m)
      Fleet.start as) : RemovalsFinal isUrl as := by
  rintro before l after s s' t d rfl hbefore hstep hrem hafter hreg
  have hinv : s.registry.WellTyped ∧ RemovalsLast s := by
    refine System.run_keeps (P := fun s => s.registry.WellTyped ∧ RemovalsLast s)
      ?_ hbefore ⟨start_wellTyped, ?_⟩
    · intro s l s' h hs
      exact ⟨wellTyped_step h hs.1, removalsLast_step h hs.2⟩
    · intro i op x d hi
      cases hi
  have hrest := hC.drop hbefore
  have hgone : Gone d s'.tasks.length s' :=
    { wellTyped := wellTyped_step hstep hinv.1
      fields := fields_of_removed hinv.1 hinv.2 hstep hrem
      tasks := fun i op x hi hx =>
        absurd (List.getElem?_eq_some_iff.mp hx).1 (Nat.not_lt.mpr hi) }
  have hend : Gone d s'.tasks.length t :=
    (hrest.2 s' hstep).keeps (fun _ _ _ h hc hq hp => gone_step h hc hq hp) hreg
      hafter hgone
  refine ⟨?_, fun i op ws hi hx => hend.tasks i op _ hi hx⟩
  exact Option.not_isSome_iff_eq_none.mp
    (fun hsome => infoOf_isSome.mp hsome hend.fields)

/-- **Removals are final**: the refreshes of a run all find their metadata
exactly when every key has a lifetime throughout it, and then no object that was
removed is found again before it is registered again. -/
theorem removals_final_iff (isUrl : String → Bool) (as : List Label) :
    (registrySystem isUrl).Throughout (fun s => AllExpire s.registry)
        Fleet.start as ∧ RemovalsFinal isUrl as ↔
      (registrySystem isUrl).Meets
        (fun s l => ∀ m, s.moveOf l = some m → RefreshesLive s.registry m)
        Fleet.start as := by
  have hiff := registry_throughout_iff isUrl
    (fun _ m hr hP => refreshesLive_iff hr hP m) allExpire_empty as
  exact ⟨fun h => hiff.mp h.1, fun h => ⟨hiff.mpr h, removalsFinal_of_meets h⟩⟩

/-- A push is under way when the object is removed. -/
def removalUnderPush : List Label :=
  let env : Environment := ⟨1700000000, "token", 204⟩
  let push : Push :=
    { watcher := ⟨"do", "user", "tenant", "https://gateway/push", none⟩
      envelope := .obj [("kind", .str "phase")]
      tenantId := "tenant"
      alertId := some "alert" }
  [.begin (.registerWatch "do" "user" "tenant" "alert" "https://gateway/push" none),
    .advance 0 .returned env, .advance 0 .returned env,
    .begin (.pushWithRetry push),
    .advance 1 .returned env, .advance 1 .returned env, .advance 1 .returned env,
    .begin (.deregisterDo "do"),
    .advance 2 .returned env, .advance 2 .returned env]

/-- The removal deletes the metadata, then the push refreshes them: they are
there again, with no lifetime. -/
theorem removed_object_comes_back :
    (¬ ∀ as, RemovalsFinal (fun _ => true) as) ∧
      ¬ ∀ as s, (registrySystem fun _ => true).run Fleet.start as = some s →
        AllExpire s.registry := by
  let env : Environment := ⟨1700000000, "token", 204⟩
  have hrun : ∃ s s' t, (registrySystem fun _ => true).run Fleet.start
        removalUnderPush = some s ∧
      s.step (fun _ => true) (.advance 2 .returned env) = some s' ∧
      (registrySystem fun _ => true).run s' [.advance 1 .returned env] = some t ∧
      (registrySystem fun _ => true).run Fleet.start (removalUnderPush ++
        [.advance 2 .returned env, .advance 1 .returned env]) = some t ∧
      (∃ info as, s.moveOf (.advance 2 .returned env) =
        some (.apply (.deregisterDo "do" info as))) ∧
      (∃ a t ttl now, s'.moveOf (.advance 1 .returned env) =
        some (.apply (.refreshTtl "do" a t ttl now))) ∧
      t.registry.fields "do" ≠ [] ∧
      (t.registry.view (k.meta "do")).map Entry.deadline = some none :=
    ⟨_, _, _, rfl, rfl, rfl, rfl, ⟨_, _, rfl⟩, ⟨_, _, _, _, rfl⟩, by decide, by decide⟩
  obtain ⟨s, s', t, hs, hs', ht, hall, hrem, ⟨a, tn, ttl, now, href⟩, hfields,
    hview⟩ := hrun
  constructor
  · intro h
    obtain ⟨hnone, -⟩ := h _ removalUnderPush (.advance 2 .returned env)
      [.advance 1 .returned env] s s' t "do" rfl hs hs' (.inl hrem) ht (by
        rintro (⟨u, t', a', url, ttl', now', hreg⟩ | ⟨_, _, hfalse⟩)
        · rw [href] at hreg
          cases hreg
        · exact hfalse)
    have hsome := infoOf_isSome.mpr hfields
    rw [hnone] at hsome
    cases hsome
  · intro h
    obtain ⟨e, he, hdead⟩ := Option.map_eq_some_iff.mp hview
    exact h _ t hall _ e he hdead

end AlertTriage.Bff
