import AlertTriage.Bff.RegistryRuns

/-!
# Revocations and the watchers they must reach

A revocation of a user goes to the durable objects that `dosForUser` finds, an
event of an alert to those that `watchersForAlert` finds. Every registration
writes both indices, but a push renews only the alert's, the metadata's and the
object's own: the user's index runs out under a watcher that keeps receiving
events. Runs where that does not happen are exactly those in which revocations
reach every watcher (`revocations_reach_iff`).
-/

namespace AlertTriage.Bff

open Library

/-- The metadata of the object names this user and tenant. -/
def Registry.Names (r : Registry) (doId userId tenantId : String) : Prop :=
  Json.lookup "user_id" (r.fields doId) = some userId ∧
    Json.lookup "tenant_id" (r.fields doId) = some tenantId

/-- Whoever receives the events of an alert receives a revocation of its user. -/
def RevocationsReach (r : Registry) : Prop :=
  ∀ t a u, ∀ w ∈ r.found (watchersForAlert t a), r.Names w.do_id u t →
    ∃ v ∈ r.found (dosForUser t u), v.do_id = w.do_id

/-- No index of a user runs out while the metadata of one of its objects and an
alert of that object stay. -/
def KeepsUserIndex (r : Registry) (m : Move) : Prop :=
  ∀ t a u d, r.Names d u t → d ∈ r.members (k.alert t a) →
    r.Expires (k.user t u) m → r.Expires (k.meta d) m ∨ r.Expires (k.alert t a) m

/-! ## §1  On the sets -/

theorem fields_of_names {r : Registry} {d u t : String} (h : r.Names d u t) :
    r.fields d ≠ [] := by
  intro hnil
  have hu := h.1
  rw [hnil] at hu
  cases hu

theorem revocationsReach_iff {r : Registry} :
    RevocationsReach r ↔ ∀ t a u d, r.Names d u t →
      d ∈ r.members (k.alert t a) → d ∈ r.members (k.user t u) := by
  constructor
  · intro h t a u d hn hd
    obtain ⟨w, hw, rfl, -⟩ := infoOf_of_fields (fields_of_names hn)
    obtain ⟨v, hv, hid⟩ := h t a u w (mem_found.mpr ⟨hd, hw⟩) hn
    exact hid ▸ (mem_found.mp hv).1
  · intro h t a u w hw hn
    obtain ⟨hd, hinfo⟩ := mem_found.mp hw
    exact ⟨w, mem_found.mpr ⟨h t a u _ hn hd, hinfo⟩, rfl⟩

/-- Only a registration without a lifetime ends the index of a user at once. -/
theorem expires_user_apply {r : Registry} {t u : String} {b : Transaction}
    (h : r.Expires (k.user t u) (.apply b)) :
    ∃ d u' t' a url now, b = .registerWatch d u' t' a url 0 now ∧
      k.user t u = k.user t' u' := by
  cases b with
  | registerWatch d u' t' a url ttl now =>
      simp [Registry.Expires, Transaction.commands] at h
      obtain ⟨hk, rfl⟩ := h
      exact ⟨d, u', t', a, url, now, rfl, hk⟩
  | deregisterWatch t' d a =>
      simp only [Registry.Expires, Transaction.commands, List.mem_append] at h
      split at h <;> simp at h
  | deregisterDo d info as => simp [Registry.Expires, Transaction.commands] at h
  | refreshTtl d a t' ttl now => simp [Registry.Expires, Transaction.commands] at h

/-- A refresh writes no name. -/
theorem names_refreshTtl {r : Registry} (hr : r.WellTyped)
    {d u t d' a t' : String} {ttl now : ℕ}
    (h : (r.apply (.refreshTtl d' a t' ttl now)).Names d u t) : r.Names d u t := by
  unfold Registry.Names at h ⊢
  rw [fields_refreshTtl hr] at h
  split at h
  · simp only [Keyspace.mergeFields, List.foldl_cons, List.foldl_nil] at h
    rw [Json.lookup_upsert_ne (by decide), Json.lookup_upsert_ne (by decide)] at h
    split at h
    · cases h.1
    · exact h
  · exact h

/-- A registration writes its own names. -/
theorem names_registerWatch {r : Registry} (hr : r.WellTyped)
    {d u t u' t' a url : String} {ttl now : ℕ}
    (h : (r.apply (.registerWatch d u' t' a url ttl now)).Names d u t) :
    ttl ≠ 0 ∧ u = u' ∧ t = t' := by
  unfold Registry.Names at h
  rw [fields_registerWatch hr, if_pos rfl] at h
  split at h
  · cases h.1
  · rename_i hpos
    simp only [Keyspace.mergeFields, List.foldl_cons, List.foldl_nil] at h
    simp [Json.lookup_upsert_ne, Json.lookup_upsert] at h
    exact ⟨hpos, h.1.symm, h.2.symm⟩

/-! ## §2  One move -/

section Move

variable {r : Registry} (hr : r.WellTyped) {d u t a : String}
include hr

/-- A name that is there after a move was there before, or was just written. -/
theorem names_move {m : Move} (h : (r.move m).Names d u t) :
    r.Names d u t ∧ ¬ r.Expires (k.meta d) m ∨
      ∃ a url ttl now, ttl ≠ 0 ∧ m = .apply (.registerWatch d u t a url ttl now) := by
  cases m with
  | pass n =>
      rcases fields_pass r n d with ⟨hnil, -⟩ | ⟨hsame, hlive⟩
      · have hu := h.1
        rw [Registry.move, hnil] at hu
        cases hu
      · refine .inl ⟨?_, hlive⟩
        unfold Registry.Names at h ⊢
        rwa [Registry.move, hsame] at h
  | apply b =>
      cases b with
      | registerWatch d' u' t' a' url ttl now =>
          by_cases hd : d = d'
          · subst hd
            obtain ⟨hpos, rfl, rfl⟩ := names_registerWatch hr h
            exact .inr ⟨a', url, ttl, now, hpos, rfl⟩
          · refine .inl ⟨?_, ?_⟩
            · unfold Registry.Names at h ⊢
              rwa [Registry.move, fields_registerWatch hr, if_neg hd] at h
            · simp [Registry.Expires, Transaction.commands, hd]
      | deregisterWatch t' d' a' =>
          refine .inl ⟨?_, ?_⟩
          · unfold Registry.Names at h ⊢
            rwa [Registry.move, fields_deregisterWatch hr] at h
          · simp only [Registry.Expires, Transaction.commands, List.mem_append]
            split <;> simp
      | deregisterDo d' info as =>
          refine .inl ⟨?_, by simp [Registry.Expires, Transaction.commands]⟩
          unfold Registry.Names at h ⊢
          rw [Registry.move, fields_deregisterDo hr] at h
          split at h
          · cases h.1
          · exact h
      | refreshTtl d' a' t' ttl now =>
          refine .inl ⟨names_refreshTtl hr h, ?_⟩
          intro hexp
          simp [Registry.Expires, Transaction.commands] at hexp
          obtain ⟨rfl, rfl⟩ := hexp
          have hu := h.1
          -- a refresh without a lifetime ends the record
          rw [Registry.move, fields_refreshTtl hr, if_pos rfl, if_pos rfl] at hu
          cases hu

/-- Who is in the index of a user stays there, unless the index expires or the
object is removed. -/
theorem mem_user_move {m : Move} (h : d ∈ r.members (k.user t u))
    (hexp : ¬ r.Expires (k.user t u) m)
    (hrem : ∀ info as, m ≠ .apply (.deregisterDo d info as)) :
    d ∈ (r.move m).members (k.user t u) := by
  cases m with
  | pass n => exact mem_members_pass.mpr ⟨h, hexp⟩
  | apply b =>
      cases b with
      | registerWatch d' u' t' a' url ttl now =>
          rw [Registry.move, user_registerWatch hr]
          by_cases hk : k.user t u = k.user t' u'
          · have hpos : ttl ≠ 0 := by
              rintro rfl
              exact hexp (by simp [Registry.Expires, Transaction.commands, hk])
            rw [if_pos hk, if_neg hpos]
            exact Keyspace.mem_addMember.mpr (.inr h)
          · rwa [if_neg hk]
      | deregisterWatch t' d' a' =>
          rwa [Registry.move, user_deregisterWatch hr]
      | deregisterDo d' info as =>
          refine (members_deregisterDo hr (not_isMetaKey_user t u)
            (user_ne_doAlerts t u d')).2 ?_ h
          rintro rfl
          exact hrem info as rfl
      | refreshTtl d' a' t' ttl now =>
          rwa [Registry.move, user_refreshTtl hr]

/-- **One move**: from a registry in which revocations reach every watcher, a
move leads to such a one exactly when it runs down no user's index early. -/
theorem keepsUserIndex_iff (hP : RevocationsReach r) (m : Move) :
    KeepsUserIndex r m ↔ RevocationsReach (r.move m) := by
  rw [revocationsReach_iff] at hP ⊢
  constructor
  · intro hC t a u d hn hd
    rcases names_move hr hn with ⟨hn₀, hmeta⟩ | ⟨a', url, ttl, now, hpos, rfl⟩
    · rcases mem_alert_move hr hd with ⟨hd₀, halert⟩ | ⟨u', t', a', url, ttl, now,
        -, hpos, rfl⟩
      · apply mem_user_move hr (hP t a u d hn₀ hd₀)
        · intro huser
          rcases hC t a u d hn₀ hd₀ huser with h | h
          · exact hmeta h
          · exact halert h
        · rintro info as rfl
          have hu := hn.1
          rw [Registry.move, fields_deregisterDo hr, if_pos rfl] at hu
          cases hu
      · obtain ⟨-, rfl, rfl⟩ := names_registerWatch hr hn
        rw [Registry.move, user_registerWatch hr, if_pos rfl, if_neg hpos]
        exact Keyspace.mem_addMember.mpr (.inl rfl)
    · rw [Registry.move, user_registerWatch hr, if_pos rfl, if_neg hpos]
      exact Keyspace.mem_addMember.mpr (.inl rfl)
  · intro hP' t a u d hn hd huser
    -- the index expires while the record and the alert's set stay
    by_contra hstay
    obtain ⟨hmeta, halert⟩ := not_or.mp hstay
    cases m with
    | pass n =>
        have hn' : (r.move (.pass n)).Names d u t := by
          rcases fields_pass r n d with ⟨-, hexp⟩ | ⟨hsame, -⟩
          · exact absurd hexp hmeta
          · unfold Registry.Names
            rwa [Registry.move, hsame]
        have hmem := hP' t a u d hn' (mem_members_pass.mpr ⟨hd, halert⟩)
        exact (mem_members_pass.mp hmem).2 huser
    | apply b =>
        obtain ⟨d', u', t', a', url, now, rfl, hk⟩ := expires_user_apply huser
        have hne : d ≠ d' := by
          rintro rfl
          exact hmeta (by simp [Registry.Expires, Transaction.commands])
        have hka : k.alert t a ≠ k.alert t' a' := by
          intro hka
          exact halert (by simp [Registry.Expires, Transaction.commands, hka])
        have hmem := hP' t a u d
          (by
            unfold Registry.Names
            rwa [Registry.move, fields_registerWatch hr, if_neg hne])
          (by rwa [Registry.move, alert_registerWatch hr, if_neg hka])
        rw [Registry.move, user_registerWatch hr, if_pos hk, if_pos rfl] at hmem
        cases hmem

end Move

theorem revocationsReach_empty : RevocationsReach Registry.empty := by
  rw [revocationsReach_iff]
  intro t a u d hn
  cases hn.1

/-! ## §3  Runs -/

/-- **Revocations reach every watcher** throughout a run exactly when no step
runs down the index of a user under one of its watchers. -/
theorem revocations_reach_iff (isUrl : String → Bool) (as : List Label) :
    (registrySystem isUrl).Throughout (fun s => RevocationsReach s.registry)
        Fleet.start as ↔
      (registrySystem isUrl).Meets
        (fun s l => ∀ m, s.moveOf l = some m → KeepsUserIndex s.registry m)
        Fleet.start as :=
  registry_throughout_iff isUrl (fun _ m hr hP => keepsUserIndex_iff hr hP m)
    revocationsReach_empty as

/-- A registration; an event is pushed ten seconds before the keys run out, and
half a minute passes. -/
def quietUserRun : List Label :=
  let env : Environment := ⟨1700000000, "token", 204⟩
  let push : Push :=
    { watcher := ⟨"do", "user", "tenant", "https://gateway/push", none⟩
      envelope := .obj [("kind", .str "phase")]
      tenantId := "tenant"
      alertId := some "alert" }
  [.begin (.registerWatch "do" "user" "tenant" "alert" "https://gateway/push" none),
    .advance 0 .returned env, .advance 0 .returned env,
    .pass (590 * second),
    .begin (.pushWithRetry push),
    .advance 1 .returned env, .advance 1 .returned env, .advance 1 .returned env,
    .advance 1 .returned env,
    .pass (30 * second)]

/-- The user of a watcher that still receives the events of the alert has no
durable object that a revocation would find. -/
theorem revocation_misses_watcher :
    ¬ ∀ as s, (registrySystem fun _ => true).run Fleet.start as = some s →
      RevocationsReach s.registry := by
  intro h
  have hrun : ∃ s, (registrySystem fun _ => true).run Fleet.start quietUserRun =
      some s ∧ s.registry.members (k.alert "tenant" "alert") = ["do"] ∧
      s.registry.members (k.user "tenant" "user") = [] ∧
      Json.lookup "user_id" (s.registry.fields "do") = some "user" ∧
      Json.lookup "tenant_id" (s.registry.fields "do") = some "tenant" :=
    ⟨_, rfl, by decide, by decide, by decide, by decide⟩
  obtain ⟨s, hs, halert, huser, hname⟩ := hrun
  have hmem := revocationsReach_iff.mp (h quietUserRun s hs) "tenant" "alert" "user"
    "do" hname (by simp [halert])
  rw [huser] at hmem
  cases hmem

end AlertTriage.Bff
