import AlertTriage.Bff.RegistryRuns

/-!
# Routing by the subject of a message

The subject of a broker message names a tenant and an alert or a user, and so
may its body. The handlers take the names of the body where it has any, and only
else those of the subject. A message goes to durable objects found under its
subject, in every state of the registry, exactly if the names that the body puts
in their place spell the same key (`fanout_follows_subject_iff`).
-/

namespace AlertTriage.Bff

open Library

/-- A token of a subject. -/
structure Token where
  text : String
  no_dot : '.' ∉ text.toList

/-- The tokens of the subject of a message about an alert or a user of a tenant;
`phase` is used by events alone. -/
def Subscription.tokens (sub : Subscription) (tenant name phase : Token) :
    List String :=
  match sub with
  | .events => ["triage", "events", "v1", tenant.text, name.text, phase.text]
  | .cancel => ["triage", "cancel", "v1", tenant.text, name.text]
  | .revocations => ["auth", "revocations", "v1", tenant.text, name.text]

def Subscription.subject (sub : Subscription) (tenant name phase : Token) : String :=
  ".".intercalate (sub.tokens tenant name phase)

/-- The field of the body beside `tenant_id` that a handler reads. -/
def Subscription.field : Subscription → String
  | .events => "alert_id"
  | .cancel => "alert_id"
  | .revocations => "user_id"

/-- The index key for a tenant and an alert or a user. -/
def Subscription.key (sub : Subscription) (tenant name : String) : String :=
  match sub with
  | .events => k.alert tenant name
  | .cancel => k.alert tenant name
  | .revocations => k.user tenant name

/-- The lookup for a tenant and an alert or a user. -/
def Subscription.lookup (sub : Subscription) (tenant name : String) :
    Task (List WatcherMeta) :=
  match sub with
  | .events => watchersForAlert tenant name
  | .cancel => watchersForAlert tenant name
  | .revocations => dosForUser tenant name

/-- Whom a handler pushes to. -/
def Registry.pushedTo (r : Registry) (handler : Task (List Push)) :
    List WatcherMeta :=
  ((handler.run (answer ⟨0, "", 0⟩) r).1.getD []).map Push.watcher

variable (numText : Json → String)

/-- The text of a value that a handler goes on with: it is truthy and can be put
in a template. -/
def usable (value : Option Json) : Option String :=
  (value.filter isTruthy).bind (jsText numText)

/-- Whatever names the body has, in place of those of the subject, spell the key
of the subject. -/
def FollowsSubject (sub : Subscription) (tenant name : Token) (body : Json) : Prop :=
  ∀ t x, usable numText (orElse (fieldOf "tenant_id" body) (some tenant.text)) = some t →
    usable numText (orElse (fieldOf sub.field body) (some name.text)) = some x →
    sub.key t x = sub.key tenant.text name.text

/-! ## §1  The subject -/

/-- The handlers see the tokens of the subject. -/
theorem splitSubject_subject (sub : Subscription) (tenant name phase : Token) :
    splitSubject (sub.subject tenant name phase) = sub.tokens tenant name phase := by
  have hdots : ∀ l ∈ (sub.tokens tenant name phase).map String.toList, '.' ∉ l := by
    cases sub with
    | events => simp [Subscription.tokens, tenant.no_dot, name.no_dot, phase.no_dot]
    | cancel => simp [Subscription.tokens, tenant.no_dot, name.no_dot]
    | revocations => simp [Subscription.tokens, tenant.no_dot, name.no_dot]
  have hne : (sub.tokens tenant name phase).map String.toList ≠ [] := by
    cases sub <;> simp [Subscription.tokens]
  have hdot : (".").toList = ['.'] := rfl
  rw [splitSubject, Subscription.subject, String.toList_intercalate, hdot,
    List.splitOn_intercalate '.' hdots hne]
  simp

/-! ## §2  Whom a handler pushes to -/

theorem member_of_ne_null {body : Json} (h : body ≠ .null) (key : String) :
    member key body = pure (fieldOf key body) := by
  cases body with
  | null => exact absurd rfl h
  | _ => rfl

/-- What both handlers do with the names they have. -/
def route (tenant name : Option Json)
    (lookup : String → String → Task (List WatcherMeta))
    (push : Json → String → String → WatcherMeta → Push) : Task (List Push) :=
  match tenant.filter isTruthy, name.filter isTruthy with
  | some tenant, some name => do
      let tenantText ← orRaise (jsText numText tenant)
      let nameText ← orRaise (jsText numText name)
      let ws ← lookup tenantText nameText
      pure (ws.map (push name tenantText nameText))
  | _, _ => pure []

theorem orRaise_bind_none {α β : Type} (f : α → Task β) :
    (orRaise none >>= f) = .raise := rfl

theorem orRaise_bind_some {α β : Type} (a : α) (f : α → Task β) :
    (orRaise (some a) >>= f) = f a := rfl

theorem mem_pushedTo_lookup (r : Registry) (x : Task (List WatcherMeta))
    (push : WatcherMeta → Push) (hpush : ∀ w, (push w).watcher = w)
    (w : WatcherMeta) :
    w ∈ r.pushedTo (x >>= fun ws => pure (ws.map push)) ↔ w ∈ r.found x := by
  unfold Registry.pushedTo Registry.found
  rw [Async.run_bind]
  cases hx : x.run (answer ⟨0, "", 0⟩) r with
  | mk o r' =>
      cases o with
      | none => simp
      | some ws =>
          have hmap : (push · |>.watcher) = id := funext hpush
          show w ∈ (ws.map push).map Push.watcher ↔ w ∈ ws
          rw [List.map_map]
          show w ∈ ws.map (fun w => (push w).watcher) ↔ w ∈ ws
          rw [hmap, List.map_id]

theorem mem_pushedTo_route (r : Registry) (tenant name : Option Json)
    (lookup : String → String → Task (List WatcherMeta))
    (push : Json → String → String → WatcherMeta → Push)
    (hpush : ∀ v t x w, (push v t x w).watcher = w) (w : WatcherMeta) :
    w ∈ r.pushedTo (route numText tenant name lookup push) ↔
      ∃ t x, usable numText tenant = some t ∧ usable numText name = some x ∧
        w ∈ r.found (lookup t x) := by
  have hnone : w ∉ r.pushedTo (pure []) := fun h => by cases h
  have hraise : w ∉ r.pushedTo .raise := fun h => by cases h
  unfold route usable
  cases ht : tenant.filter isTruthy with
  | none => simp [hnone]
  | some v =>
      cases hn : name.filter isTruthy with
      | none => simp [hnone]
      | some u =>
          simp only [Option.bind_some]
          cases hv : jsText numText v with
          | none => simp [orRaise_bind_none, hraise]
          | some t =>
              cases hu : jsText numText u with
              | none => simp [orRaise_bind_none, orRaise_bind_some, hraise]
              | some x =>
                  simp only [orRaise_bind_some]
                  rw [mem_pushedTo_lookup r (lookup t x) (push u t x) (hpush u t x)]
                  simp

theorem mem_pushedTo_attempt (r : Registry) (x : Task (List Push)) (w : WatcherMeta) :
    w ∈ r.pushedTo (x.attempt >>= fun pushes => pure (pushes.getD [])) ↔
      w ∈ r.pushedTo x := by
  unfold Registry.pushedTo
  rw [Async.run_bind, Async.run_attempt]
  rfl

/-- **Whom a message goes to**: those found under the names that its body or
else its subject gives. -/
theorem mem_pushedTo_handler (r : Registry) (sub : Subscription)
    (tenant name phase : Token) {body : Json} (hbody : body ≠ .null)
    (w : WatcherMeta) :
    w ∈ r.pushedTo (sub.handler numText (sub.subject tenant name phase) (some body)) ↔
      ∃ t x,
        usable numText (orElse (fieldOf "tenant_id" body) (some tenant.text)) = some t ∧
        usable numText (orElse (fieldOf sub.field body) (some name.text)) = some x ∧
        w ∈ r.found (watchersUnder (sub.key t x)) := by
  have hsplit := splitSubject_subject sub tenant name phase
  show w ∈ r.pushedTo (Async.attempt _ >>= fun pushes => pure (pushes.getD [])) ↔ _
  rw [mem_pushedTo_attempt]
  cases sub with
  | events =>
      have hextract : extractTenantAlertFromSubject
          (Subscription.events.subject tenant name phase) =
          some (tenant.text, name.text) := by
        rw [extractTenantAlertFromSubject, hsplit]
        rfl
      show w ∈ r.pushedTo (onTriageEvent ..) ↔ _
      simp only [onTriageEvent, hextract, member_of_ne_null hbody, Async.pure_bind]
      exact mem_pushedTo_route numText r _ _ _ _ (fun _ _ _ _ => rfl) w
  | cancel =>
      have hextract : extractTenantAlertFromSubject
          (Subscription.cancel.subject tenant name phase) =
          some (tenant.text, name.text) := by
        rw [extractTenantAlertFromSubject, hsplit]
        rfl
      show w ∈ r.pushedTo (onTriageEvent ..) ↔ _
      simp only [onTriageEvent, hextract, member_of_ne_null hbody, Async.pure_bind]
      exact mem_pushedTo_route numText r _ _ _ _ (fun _ _ _ _ => rfl) w
  | revocations =>
      show w ∈ r.pushedTo (onRevocationEvent ..) ↔ _
      simp only [onRevocationEvent, hsplit, member_of_ne_null hbody, Async.pure_bind]
      exact mem_pushedTo_route numText r _ _ _ _ (fun _ _ _ _ => rfl) w

/-! ## §3  Exactly the bodies that follow the subject -/

theorem lookup_eq (sub : Subscription) (tenant name : String) :
    sub.lookup tenant name = watchersUnder (sub.key tenant name) := by
  cases sub <;> rfl

theorem reachable_registerWatch (isUrl : String → Bool) (d u t a url : String) :
    ∃ s now, (registrySystem isUrl).Reachable s ∧
      s.registry = Registry.empty.apply
        (.registerWatch d u t a url defaultTtlSec now) := by
  let env : Environment := ⟨0, "", 0⟩
  have hrun : ∃ s, (registrySystem isUrl).run Fleet.start
      [.begin (.registerWatch d u t a url none), .advance 0 .returned env,
        .advance 0 .returned env] = some s ∧
      s.registry = Registry.empty.apply
        (.registerWatch d u t a url defaultTtlSec 0) := ⟨_, rfl, rfl⟩
  obtain ⟨s, hs, hreg⟩ := hrun
  exact ⟨s, 0, System.reached_of_run (System.Reached.start rfl) hs, hreg⟩

/-- A state in which one key lists an object, and no other key of its kind. -/
theorem exists_listed (isUrl : String → Bool) (sub : Subscription) (t x : String) :
    ∃ s, (registrySystem isUrl).Reachable s ∧ ∃ w,
      w ∈ s.registry.found (watchersUnder (sub.key t x)) ∧
      ∀ t' x', sub.key t' x' ≠ sub.key t x →
        w ∉ s.registry.found (watchersUnder (sub.key t' x')) := by
  have hempty : Registry.empty.WellTyped := start_wellTyped
  have hpos : defaultTtlSec ≠ 0 := by decide
  -- one registration over an empty registry is enough
  have hlisted : ∀ u a, (∀ r : Registry, ∀ now,
      r = Registry.empty.apply (.registerWatch "do" u t a "" defaultTtlSec now) →
      "do" ∈ r.members (sub.key t x) ∧ ∀ t' x', sub.key t' x' ≠ sub.key t x →
        "do" ∉ r.members (sub.key t' x')) →
      ∃ s, (registrySystem isUrl).Reachable s ∧ ∃ w,
        w ∈ s.registry.found (watchersUnder (sub.key t x)) ∧
        ∀ t' x', sub.key t' x' ≠ sub.key t x →
          w ∉ s.registry.found (watchersUnder (sub.key t' x')) := by
    intro u a h
    obtain ⟨s, now, hs, hreg⟩ := reachable_registerWatch isUrl "do" u t a ""
    obtain ⟨hin, hout⟩ := h s.registry now hreg
    have hfields : s.registry.fields "do" ≠ [] := by
      rw [hreg, fields_registerWatch hempty, if_pos rfl, if_neg hpos]
      exact Keyspace.mergeFields_ne_nil (.inl (List.cons_ne_nil _ _))
    obtain ⟨w, hw, hid, -⟩ := infoOf_of_fields hfields
    refine ⟨s, hs, w, mem_found.mpr ⟨by rwa [hid], by rwa [hid]⟩, ?_⟩
    intro t' x' hne hw'
    exact hout t' x' hne (hid ▸ (mem_found.mp hw').1)
  have hnil : ∀ key, Registry.empty.members key = [] := fun _ => rfl
  have hadd : "do" ∈ Keyspace.addMember "do" [] :=
    Keyspace.mem_addMember.mpr (.inl rfl)
  have halert : ∀ r : Registry, ∀ now,
      r = Registry.empty.apply (.registerWatch "do" "user" t x "" defaultTtlSec now) →
      "do" ∈ r.members (k.alert t x) ∧ ∀ t' x', k.alert t' x' ≠ k.alert t x →
        "do" ∉ r.members (k.alert t' x') := by
    rintro r now rfl
    refine ⟨?_, fun t' x' hne => ?_⟩
    · rw [alert_registerWatch hempty, if_pos rfl, if_neg hpos, hnil]
      exact hadd
    · rw [alert_registerWatch hempty, if_neg hne, hnil]
      exact List.not_mem_nil
  cases sub with
  | events => exact hlisted "user" x halert
  | cancel => exact hlisted "user" x halert
  | revocations =>
      refine hlisted x "alert" ?_
      rintro r now rfl
      refine ⟨?_, fun t' x' hne => ?_⟩
      · rw [Subscription.key, user_registerWatch hempty, if_pos rfl, if_neg hpos, hnil]
        exact hadd
      · have hne' : k.user t' x' ≠ k.user t x := hne
        rw [Subscription.key, user_registerWatch hempty, if_neg hne', hnil]
        exact List.not_mem_nil

theorem usable_str {s t : String} (h : usable numText (some (.str s)) = some t) :
    t = s := by
  rw [usable, Option.filter_some] at h
  split at h
  · have hs : some s = some t := h
    exact (Option.some.inj hs).symm
  · cases h

/-- A body without names leaves those of the subject. -/
theorem followsSubject_null (sub : Subscription) (tenant name : Token) :
    FollowsSubject numText sub tenant name .null := by
  intro t x ht hx
  rw [usable_str numText ht, usable_str numText hx]

theorem not_mem_pushedTo_null (r : Registry) (sub : Subscription) (subject : String)
    (w : WatcherMeta) :
    w ∉ r.pushedTo (sub.handler numText subject (some .null)) := by
  intro hw
  cases sub with
  | events => cases hw
  | cancel => cases hw
  | revocations => cases hw

/-- **A message follows its subject**, in every reachable state of the registry,
exactly when its body does. -/
theorem fanout_follows_subject_iff (isUrl : String → Bool) (sub : Subscription)
    (tenant name phase : Token) (body : Option Json) :
    (∀ s, (registrySystem isUrl).Reachable s →
      ∀ w ∈ s.registry.pushedTo
        (sub.handler numText (sub.subject tenant name phase) body),
        w ∈ s.registry.found (sub.lookup tenant.text name.text)) ↔
      ∀ b, body = some b → FollowsSubject numText sub tenant name b := by
  constructor
  · rintro h b rfl t x ht hx
    by_contra hne
    have hbody : b ≠ .null := by
      rintro rfl
      exact hne (followsSubject_null numText sub tenant name t x ht hx)
    obtain ⟨s, hs, w, hin, hout⟩ := exists_listed isUrl sub t x
    have hw := h s hs w ((mem_pushedTo_handler numText s.registry sub tenant name
      phase hbody w).mpr ⟨t, x, ht, hx, hin⟩)
    rw [lookup_eq] at hw
    exact hout _ _ (fun heq => hne heq.symm) hw
  · intro h s hs w hw
    cases body with
    | none => cases hw
    | some b =>
        by_cases hbody : b = .null
        · subst hbody
          exact absurd hw (not_mem_pushedTo_null numText s.registry sub _ w)
        · obtain ⟨t, x, ht, hx, hfound⟩ :=
            (mem_pushedTo_handler numText s.registry sub tenant name phase hbody w).mp hw
          rw [lookup_eq, ← h b rfl t x ht hx]
          exact hfound

/-- An event on a subject of one tenant whose body names another. -/
theorem event_goes_to_named_tenant :
    ¬ ∀ (sub : Subscription) (tenant name phase : Token) (body : Option Json) (s : Fleet),
      (registrySystem fun _ => true).Reachable s →
      ∀ w ∈ s.registry.pushedTo (sub.handler (fun _ => "0")
        (sub.subject tenant name phase) body),
        w ∈ s.registry.found (sub.lookup tenant.text name.text) := by
  intro h
  let env : Environment := ⟨1700000000, "token", 204⟩
  let north : Token := ⟨"north", by decide⟩
  let alert : Token := ⟨"a1", by decide⟩
  let done : Token := ⟨"done", by decide⟩
  let body : Json := .obj [("tenant_id", .str "south"), ("alert_id", .str "a2")]
  let watcher : WatcherMeta :=
    ⟨"do", "bob", "south", "https://gateway/push", some 1700000000⟩
  have hrun : ∃ s, (registrySystem fun _ => true).run Fleet.start
      [.begin (.registerWatch "do" "bob" "south" "a2" "https://gateway/push" none),
        .advance 0 .returned env, .advance 0 .returned env] = some s ∧
      watcher ∈ s.registry.pushedTo (Subscription.events.handler (fun _ => "0")
        (Subscription.events.subject north alert done) (some body)) ∧
      s.registry.found (Subscription.events.lookup "north" "a1") = [] :=
    ⟨_, rfl, by decide +kernel, by decide +kernel⟩
  obtain ⟨s, hs, hpushed, hfound⟩ := hrun
  have hreach : (registrySystem fun _ => true).Reachable s :=
    System.reached_of_run (System.Reached.start rfl) hs
  have hw := h .events north alert done (some body) s hreach watcher hpushed
  rw [hfound] at hw
  cases hw

end AlertTriage.Bff
