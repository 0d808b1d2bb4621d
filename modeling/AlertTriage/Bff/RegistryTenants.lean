import AlertTriage.Bff.RegistryRuns

/-!
# Tenants in the watcher registry

The events of an alert of a tenant go to the durable objects whose metadata
name that tenant, as long as three things hold: no tenant or alert has the
separator of the keys in it, no object is registered for a second tenant while
alerts of the first still list it, and no refresh brings the metadata of an
object back that an alert still lists. A run keeps tenants apart exactly when
its steps keep to this (`tenants_apart_iff`).
-/

namespace AlertTriage.Bff

open Library

/-- Whoever is found for an alert of a tenant is of that tenant. -/
def TenantsApart (r : Registry) : Prop :=
  ∀ t a, ∀ w ∈ r.found (watchersForAlert t a), w.tenant_id = t

def KeepsTenants (r : Registry) : Move → Prop
  | .apply (.registerWatch d _ t a _ ttl _) =>
      ttl = 0 ∨ ':' ∉ t.toList ∧ ':' ∉ a.toList ∧
        ∀ t' a', d ∈ r.members (k.alert t' a') → t' = t
  | .apply (.refreshTtl d a t ttl _) =>
      ttl ≠ 0 ∧ (r.infoOf d).isSome ∨
        ∀ t' a', d ∈ r.members (k.alert t' a') →
          ¬ (k.alert t' a' = k.alert t a ∧ ttl = 0) → t' = ""
  | _ => True

/-! ## §1  The separator -/

theorem toList_alert (t a : String) :
    (k.alert t a).toList = "alert_watchers:".toList ++ (t.toList ++ ':' :: a.toList) := by
  simp [k.alert]

theorem alert_eq_iff {t a t' a' : String} :
    k.alert t' a' = k.alert t a ↔
      t'.toList ++ ':' :: a'.toList = t.toList ++ ':' :: a.toList := by
  rw [← String.toList_inj, toList_alert, toList_alert, List.append_cancel_left_eq]

/-- Without the separator in it, a key is read in one way. -/
theorem alert_tenant {t a t' a' : String} (ht : ':' ∉ t.toList)
    (ha : ':' ∉ a.toList) (h : k.alert t' a' = k.alert t a) : t' = t := by
  have hlist := alert_eq_iff.mp h
  -- one separator on the right, so there is none in front of that on the left
  have hcount := congrArg (List.count ':') hlist
  simp only [List.count_append, List.count_cons_self, List.count_eq_zero.mpr ht,
    List.count_eq_zero.mpr ha] at hcount
  have ht' : ':' ∉ t'.toList := List.count_eq_zero.mp (by omega)
  have hsplit := congrArg (List.splitOn ':') hlist
  rw [List.splitOn_append_cons_self_of_not_mem ht',
    List.splitOn_append_cons_self_of_not_mem ht] at hsplit
  exact String.toList_inj.mp (List.cons.inj hsplit).1

/-- With the separator in it, a key is read in another way as well. -/
theorem exists_other_tenant {t a : String} (h : ':' ∈ t.toList ∨ ':' ∈ a.toList) :
    ∃ t' a', t' ≠ t ∧ k.alert t' a' = k.alert t a := by
  rcases h with h | h
  · obtain ⟨front, back, hsplit⟩ := List.append_of_mem h
    refine ⟨String.ofList front, String.ofList (back ++ ':' :: a.toList), ?_, ?_⟩
    · intro heq
      have hlen := congrArg (fun s => s.toList.length) heq
      simp [hsplit] at hlen
    · rw [alert_eq_iff]
      simp [hsplit]
  · obtain ⟨front, back, hsplit⟩ := List.append_of_mem h
    refine ⟨String.ofList (t.toList ++ ':' :: front), String.ofList back, ?_, ?_⟩
    · intro heq
      have hlen := congrArg (fun s => s.toList.length) heq
      simp at hlen
    · rw [alert_eq_iff]
      simp [hsplit]

/-! ## §2  On the sets -/

theorem tenantsApart_iff {r : Registry} :
    TenantsApart r ↔ ∀ t a d, d ∈ r.members (k.alert t a) → r.fields d ≠ [] →
      r.tenantOf d = t := by
  constructor
  · intro h t a d hd hne
    obtain ⟨w, hw, rfl, htenant⟩ := infoOf_of_fields hne
    rw [← htenant]
    exact h t a w (mem_found.mpr ⟨hd, hw⟩)
  · intro h t a w hw
    obtain ⟨hd, hinfo⟩ := mem_found.mp hw
    have hne : r.fields w.do_id ≠ [] := infoOf_isSome.mp (by rw [hinfo]; rfl)
    obtain ⟨w', hw', -, htenant⟩ := infoOf_of_fields hne
    obtain rfl : w = w' := Option.some.inj (hinfo.symm.trans hw')
    rw [htenant]
    exact h t a _ hd hne

section Move

variable {r : Registry} (hr : r.WellTyped) {d : String}
include hr

theorem tenantOf_registerWatch (u t a url : String) (now : ℕ) {ttl : ℕ}
    (hpos : ttl ≠ 0) :
    (r.apply (.registerWatch d u t a url ttl now)).fields d ≠ [] ∧
      (r.apply (.registerWatch d u t a url ttl now)).tenantOf d = t := by
  unfold Registry.tenantOf
  rw [fields_registerWatch hr, if_pos rfl, if_neg hpos]
  refine ⟨Keyspace.mergeFields_ne_nil (.inl (List.cons_ne_nil _ _)), ?_⟩
  simp [Keyspace.mergeFields, Json.lookup_upsert_ne, Json.lookup_upsert]

/-- A refresh that finds nothing to refresh leaves metadata without a tenant. -/
theorem tenantOf_refreshTtl (a t : String) (ttl now : ℕ) :
    (r.apply (.refreshTtl d a t ttl now)).fields d ≠ [] ∧
      (r.apply (.refreshTtl d a t ttl now)).tenantOf d =
        if ttl ≠ 0 ∧ r.fields d ≠ [] then r.tenantOf d else "" := by
  unfold Registry.tenantOf
  rw [fields_refreshTtl hr, if_pos rfl]
  refine ⟨Keyspace.mergeFields_ne_nil (.inl (List.cons_ne_nil _ _)), ?_⟩
  simp only [Keyspace.mergeFields, List.foldl_cons, List.foldl_nil]
  rw [Json.lookup_upsert_ne (by decide)]
  by_cases hpos : ttl = 0
  · simp [hpos, Json.lookup]
  · by_cases hnil : r.fields d = []
    · simp [hnil, Json.lookup]
    · simp [hpos, hnil]

/-- **One move**: from a registry with tenants apart, a move leads to such a one
exactly when it keeps to the condition. -/
theorem keepsTenants_iff (hP : TenantsApart r) (m : Move) :
    KeepsTenants r m ↔ TenantsApart (r.move m) := by
  rw [tenantsApart_iff] at hP ⊢
  constructor
  · intro hC t a d hd hne
    rcases mem_alert_move hr hd with ⟨hd₀, hexp⟩ | ⟨u, t', a', url, ttl, now, hkey,
      hpos, rfl⟩
    · -- of the moves that leave a record, only a registration and a refresh touch it
      by_cases hreg : ∃ u t a url ttl now,
          m = .apply (.registerWatch d u t a url ttl now)
      · obtain ⟨u, t', a', url, ttl, now, rfl⟩ := hreg
        have hpos : ttl ≠ 0 := by
          rintro rfl
          exact hne ((fields_registerWatch hr ..).trans
            ((if_pos rfl).trans (if_pos rfl)))
        obtain ⟨-, -, honly⟩ := hC.resolve_left hpos
        exact (tenantOf_registerWatch hr u t' a' url now hpos).2.trans
          (honly t a hd₀).symm
      · by_cases href : ∃ a t ttl now, m = .apply (.refreshTtl d a t ttl now)
        · obtain ⟨a', t', ttl, now, rfl⟩ := href
          have htenant := (tenantOf_refreshTtl hr (d := d) a' t' ttl now).2
          rcases hC with ⟨hpos, hinfo⟩ | hnone
          · have hfields := infoOf_isSome.mp hinfo
            rw [if_pos ⟨hpos, hfields⟩] at htenant
            exact htenant.trans (hP t a d hd₀ hfields)
          · have ht : t = "" := by
              apply hnone t a hd₀
              rintro ⟨hkey, rfl⟩
              exact hexp (by simp [Registry.Expires, Transaction.commands, hkey])
            split at htenant
            · rename_i hfields
              exact htenant.trans (hP t a d hd₀ hfields.2)
            · exact htenant.trans ht.symm
        · have hsame : (r.move m).fields d = r.fields d := by
            apply fields_move hr hne
            · intro u t a url ttl now heq
              exact hreg ⟨u, t, a, url, ttl, now, heq⟩
            · intro a t ttl now heq
              exact href ⟨a, t, ttl, now, heq⟩
          unfold Registry.tenantOf
          rw [hsame] at hne ⊢
          exact hP t a d hd₀ hne
    · obtain ⟨ht, ha, -⟩ := hC.resolve_left hpos
      rw [alert_tenant ht ha hkey]
      exact (tenantOf_registerWatch hr u t' a' url now hpos).2
  · intro hP'
    cases m with
    | pass n => trivial
    | apply b =>
        cases b with
        | deregisterWatch t d a => trivial
        | deregisterDo d info as => trivial
        | registerWatch d u t a url ttl now =>
            by_cases hpos : ttl = 0
            · exact .inl hpos
            · obtain ⟨hne, htenant⟩ :=
                tenantOf_registerWatch hr (d := d) u t a url now hpos
              -- every set that lists the object is of the tenant registered last
              have hlisted : ∀ t' a', k.alert t' a' = k.alert t a ∨
                  d ∈ r.members (k.alert t' a') → t' = t := by
                intro t' a' hd
                refine Eq.trans (hP' t' a' d ?_ hne).symm htenant
                rw [Registry.move, alert_registerWatch hr, if_neg hpos]
                split
                · exact Keyspace.mem_addMember.mpr (.inl rfl)
                · rename_i hkey
                  exact hd.resolve_left hkey
              refine .inr ⟨?_, ?_, fun t' a' hd => hlisted t' a' (.inr hd)⟩
              · intro ht
                obtain ⟨t', a', hother, hkey⟩ := exists_other_tenant (.inl ht)
                exact hother (hlisted t' a' (.inl hkey))
              · intro ha
                obtain ⟨t', a', hother, hkey⟩ := exists_other_tenant (.inr ha)
                exact hother (hlisted t' a' (.inl hkey))
        | refreshTtl d a t ttl now =>
            obtain ⟨hne, htenant⟩ := tenantOf_refreshTtl hr (d := d) a t ttl now
            by_cases hlive : ttl ≠ 0 ∧ r.fields d ≠ []
            · exact .inl ⟨hlive.1, infoOf_isSome.mpr hlive.2⟩
            · rw [if_neg hlive] at htenant
              refine .inr fun t' a' hd hkey => ?_
              refine Eq.trans (hP' t' a' d ?_ hne).symm htenant
              rwa [Registry.move, alert_refreshTtl hr, if_neg hkey]

end Move

theorem tenantsApart_empty : TenantsApart Registry.empty := by
  rw [tenantsApart_iff]
  intro t a d hd
  cases hd

/-! ## §3  Runs -/

/-- **Tenants stay apart** throughout a run exactly when its registrations and
refreshes keep to the condition. -/
theorem tenants_apart_iff (isUrl : String → Bool) (as : List Label) :
    (registrySystem isUrl).Throughout (fun s => TenantsApart s.registry)
        Fleet.start as ↔
      (registrySystem isUrl).Meets
        (fun s l => ∀ m, s.moveOf l = some m → KeepsTenants s.registry m)
        Fleet.start as :=
  registry_throughout_iff isUrl (fun _ m hr hP => keepsTenants_iff hr hP m)
    tenantsApart_empty as

/-- Two accepted watch requests with one `do_id`, each of its own tenant. -/
def sharedObjectRun : List Label :=
  let env : Environment := ⟨1700000000, "token", 204⟩
  let body (user tenant alert : String) : Json :=
    .obj [("do_id", .str "do"), ("user_id", .str user), ("tenant_id", .str tenant),
      ("alert_id", .str alert), ("push_url", .str "https://gateway/push")]
  [.begin (.postWatch (.ok "north") (some (body "ann" "north" "a1"))),
    .advance 0 .returned env, .advance 0 .returned env,
    .begin (.postWatch (.ok "south") (some (body "bob" "south" "a2"))),
    .advance 1 .returned env, .advance 1 .returned env]

/-- The alert of one tenant finds an object whose metadata name the other. -/
theorem watcher_of_another_tenant :
    ¬ ∀ as s, (registrySystem fun _ => true).run Fleet.start as = some s →
      TenantsApart s.registry := by
  intro h
  have hrun : ∃ s, (registrySystem fun _ => true).run Fleet.start sharedObjectRun =
      some s ∧ s.registry.members (k.alert "north" "a1") = ["do"] ∧
      s.registry.fields "do" ≠ [] ∧ s.registry.tenantOf "do" = "south" :=
    ⟨_, rfl, by decide, by decide, by decide⟩
  obtain ⟨s, hs, halert, hfields, htenant⟩ := hrun
  have hsame := tenantsApart_iff.mp (h sharedObjectRun s hs) "north" "a1" "do"
    (by simp [halert]) hfields
  rw [htenant] at hsame
  exact absurd hsame (by decide)

end AlertTriage.Bff
