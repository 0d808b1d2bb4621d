import AlertTriage.Bff.RemovalFinality

/-!
# Active watchers are retained

The metadata of a durable object has one lifetime and the set of an alert another, which all
objects in it move. As long as a watch is refreshed in time, what it needs of both lasts until
its next refresh is due, whatever else runs (`watch_retained`). Only its own removal takes an
object out of a set; but two alerts of different tenants can share the key of a set, and then
leaving the one is leaving the other.
-/

namespace AlertTriage.Bff

open Library

/-! ## §1  Watches -/

/-- A durable object that watches an alert of a tenant. -/
structure Watch where
  doId : String
  tenantId : String
  alertId : String
deriving DecidableEq

/-- What an object was last registered with. -/
structure Registration where
  userId : String
  tenantId : String
  pushUrl : String
deriving DecidableEq

/-- The operations under way, and what is remembered of a watch: the last registration of its
object, and when the watch was last refreshed. -/
structure Watching where
  fleet : Fleet
  last : Registration
  refreshed : ℕ

namespace Watch

variable (x : Watch)

/-- A registration of the watch, or the refresh that a push of its alert makes. -/
def refreshedBy : Move → Bool
  | .apply (.registerWatch d _ t a _ _ _) => ⟨d, t, a⟩ = x
  | .apply (.refreshTtl d a t _ _) => ⟨d, t, a⟩ = x
  | _ => false

def registeredBy (last : Registration) : Move → Registration
  | .apply (.registerWatch d u t _ url _ _) => if d = x.doId then ⟨u, t, url⟩ else last
  | _ => last

/-- What is remembered after a move. -/
def note (s : Watching) (fleet : Fleet) : Option Move → Watching
  | none => { s with fleet }
  | some m =>
      ⟨fleet, x.registeredBy s.last m,
        if x.refreshedBy m then s.fleet.registry.clock else s.refreshed⟩

/-- The move is one that the watch outlives: lifetimes are the default, neither the watch nor
its object is removed, and no time passes in which the watch would have been refreshed. -/
def Active (s : Watching) : Move → Prop
  | .apply (.registerWatch _ _ _ _ _ ttl _) => ttl = defaultTtlSec
  | .apply (.refreshTtl _ _ _ ttl _) => ttl = defaultTtlSec
  | .apply (.deregisterWatch _ d a) => ¬ (d = x.doId ∧ a = x.alertId)
  | .apply (.deregisterDo d _ _) => d ≠ x.doId
  | .pass n => s.fleet.registry.clock + n < s.refreshed + defaultTtlSec * second

/-- The object leaves no other alert whose set has the key of this one. -/
def Apart : Move → Prop
  | .apply (.deregisterWatch (some t) d a) =>
      d = x.doId → a ≠ x.alertId → k.alert t a ≠ k.alert x.tenantId x.alertId
  | _ => True

/-- The lookup of the alert finds the object as it was last registered. -/
def Retained (s : Watching) : Prop :=
  ∃ w ∈ s.fleet.registry.found (watchersForAlert x.tenantId x.alertId),
    w.do_id = x.doId ∧ w.user_id = s.last.userId ∧ w.tenant_id = s.last.tenantId ∧
      w.push_url = s.last.pushUrl

end Watch

/-- What goes on from a registration of the watch, in any state that any run comes to. -/
def watching (isUrl : String → Bool) (x : Watch) : System Watching Label where
  start s := ∃ s₀ l u url now, (registrySystem isUrl).Reachable s₀ ∧
    s₀.moveOf l = some (.apply (.registerWatch x.doId u x.tenantId x.alertId url
      defaultTtlSec now)) ∧
    s₀.step isUrl l = some s.fleet ∧ s.last = ⟨u, x.tenantId, url⟩ ∧
    s.refreshed = s₀.registry.clock
  step s l := (s.fleet.step isUrl l).map fun fleet => x.note s fleet (s.fleet.moveOf l)

/-! ## §2  What lasts -/

/-- A hash that says what the object was registered with. -/
def Says (last : Registration) (v : Collection) : Prop :=
  ∃ fields, v = .hash fields ∧ Json.lookup "user_id" fields = some last.userId ∧
    Json.lookup "tenant_id" fields = some last.tenantId ∧
    Json.lookup "push_url" fields = some last.pushUrl

/-- The lifetime that the registry gives. -/
def defaultTtl : ℕ := defaultTtlSec * second

variable {r : Registry} {limit : ℕ} {last : Registration} {d d' u t t' a a' url : String}
  {now : ℕ}

/-- A registration says what it is. -/
theorem says_registerWatch (hr : r.WellTyped) :
    Keyspace.Lasts (r.clock + defaultTtl) (Says ⟨u, t, url⟩)
      ((r.apply (.registerWatch d u t a url defaultTtlSec now)).view (k.meta d)) := by
  have hview : (r.apply (.registerWatch d u t a url defaultTtlSec now)).view (k.meta d) =
      (Keyspace.Command.expire (k.meta d) defaultTtlSec).update r.clock
        ((Keyspace.Command.hset (k.meta d) [("user_id", u), ("tenant_id", t), ("push_url", url),
          ("last_seen_epoch", toString now)]).update r.clock (r.view (k.meta d))) := by
    simp [view_apply, Transaction.commands, Keyspace.Command.updateAt, Keyspace.Command.key]
  have hregistered (old : List (String × String)) : Says ⟨u, t, url⟩
      (.hash (Keyspace.mergeFields [("user_id", u), ("tenant_id", t), ("push_url", url),
        ("last_seen_epoch", toString now)] old)) := by
    refine ⟨_, rfl, ?_⟩
    simp [Keyspace.mergeFields, Json.lookup_upsert, Json.lookup_upsert_ne]
  have hexpire {v : Collection} {deadline : Option ℕ} (hv : Says ⟨u, t, url⟩ v) :
      Keyspace.Lasts (r.clock + defaultTtl) (Says ⟨u, t, url⟩)
        ((Keyspace.Command.expire (k.meta d) defaultTtlSec).update r.clock
          (some ⟨v, deadline⟩)) := by
    refine ⟨⟨v, some (r.clock + defaultTtl)⟩, rfl, hv, fun t ht => ?_⟩
    exact (Option.some.inj ht).le
  rw [hview]
  cases hold : r.view (k.meta d) with
  | none => exact hexpire (hregistered [])
  | some e =>
      obtain ⟨v, deadline⟩ := e
      cases v with
      | hash old => exact hexpire (hregistered old)
      | set members => exact absurd (isMetaKey_meta d) (Keyspace.WellTyped.view hr hold).1

/-- A registration puts its object into the set. -/
theorem member_registerWatch (hr : r.WellTyped) :
    Keyspace.Lasts (r.clock + defaultTtl) (Keyspace.HasMember d)
      ((r.apply (.registerWatch d u t a url defaultTtlSec now)).view (k.alert t a)) := by
  have hview : (r.apply (.registerWatch d u t a url defaultTtlSec now)).view (k.alert t a) =
      (Keyspace.Command.expire (k.alert t a) defaultTtlSec).update r.clock
        ((Keyspace.Command.sadd (k.alert t a) d).update r.clock (r.view (k.alert t a))) := by
    simp [view_apply, Transaction.commands, Keyspace.Command.updateAt, Keyspace.Command.key]
  have hexpire {members : List String} {deadline : Option ℕ} (hd : d ∈ members) :
      Keyspace.Lasts (r.clock + defaultTtl) (Keyspace.HasMember d)
        ((Keyspace.Command.expire (k.alert t a) defaultTtlSec).update r.clock
          (some ⟨.set members, deadline⟩)) := by
    refine ⟨⟨.set members, some (r.clock + defaultTtl)⟩, rfl, ⟨_, rfl, hd⟩, fun t ht => ?_⟩
    exact (Option.some.inj ht).le
  rw [hview]
  cases hold : r.view (k.alert t a) with
  | none => exact hexpire List.mem_cons_self
  | some e =>
      obtain ⟨v, deadline⟩ := e
      cases v with
      | hash old => exact absurd (Keyspace.WellTyped.view hr hold).1 (not_isMetaKey_alert t a)
      | set members => exact hexpire (Keyspace.mem_addMember.mpr (.inl rfl))

/-- A block that spares a key leaves what lasts under it. -/
theorem lasts_apply {P : Collection → Prop} {key : String} {b : Transaction}
    (h : Keyspace.Lasts limit P (r.view key))
    (hb : ∀ c ∈ b.commands, key = c.key → c.Spares r.clock limit P) :
    Keyspace.Lasts limit P ((r.apply b).view key) := by
  rw [view_apply]
  exact h.foldl hb

/-- A refresh renews what the metadata says. -/
theorem says_refreshTtl (h : Keyspace.Lasts limit (Says last) (r.view (k.meta d))) :
    Keyspace.Lasts (r.clock + defaultTtl) (Says last)
      ((r.apply (.refreshTtl d a t defaultTtlSec now)).view (k.meta d)) := by
  have hview : (r.apply (.refreshTtl d a t defaultTtlSec now)).view (k.meta d) =
      (Keyspace.Command.hset (k.meta d) [("last_seen_epoch", toString now)]).update r.clock
        ((Keyspace.Command.expire (k.meta d) defaultTtlSec).update r.clock
          (r.view (k.meta d))) := by
    simp [view_apply, Transaction.commands, Keyspace.Command.updateAt, Keyspace.Command.key]
  rw [hview]
  refine Keyspace.spares_hset ?_ _ (h.expire r.clock (k.meta d) (by decide))
  rintro old ⟨fields, hfields, huser, htenant, hpush⟩
  obtain rfl := Collection.hash.inj hfields
  refine ⟨_, rfl, ?_⟩
  simp [Keyspace.mergeFields, Json.lookup_upsert_ne, huser, htenant, hpush]

/-- A refresh renews the set. -/
theorem member_refreshTtl (h : Keyspace.Lasts limit (Keyspace.HasMember d')
    (r.view (k.alert t a))) :
    Keyspace.Lasts (r.clock + defaultTtl) (Keyspace.HasMember d')
      ((r.apply (.refreshTtl d a t defaultTtlSec now)).view (k.alert t a)) := by
  have hview : (r.apply (.refreshTtl d a t defaultTtlSec now)).view (k.alert t a) =
      (Keyspace.Command.expire (k.alert t a) defaultTtlSec).update r.clock
        (r.view (k.alert t a)) := by
    simp [view_apply, Transaction.commands, Keyspace.Command.updateAt, Keyspace.Command.key]
  rw [hview]
  exact h.expire r.clock _ (by decide)

/-! ## §3  One step -/

/-- What a watch that is refreshed in time keeps. -/
structure Watch.Inv (x : Watch) (s : Watching) : Prop where
  wellTyped : s.fleet.registry.WellTyped
  info : Keyspace.Lasts (s.refreshed + defaultTtl) (Says s.last)
    (s.fleet.registry.view (k.meta x.doId))
  member : Keyspace.Lasts (s.refreshed + defaultTtl) (Keyspace.HasMember x.doId)
    (s.fleet.registry.view (k.alert x.tenantId x.alertId))
  past : s.refreshed ≤ s.fleet.registry.clock
  inTime : s.fleet.registry.clock < s.refreshed + defaultTtl

section Step

variable {x : Watch} {s : Watching} {m : Move}

/-- When the watch was last refreshed, after a move. -/
def Watch.refreshedAfter (x : Watch) (s : Watching) (m : Move) : ℕ :=
  if x.refreshedBy m then s.fleet.registry.clock else s.refreshed

theorem Watch.Inv.refreshedAfter_le (h : x.Inv s) (m : Move) :
    x.refreshedAfter s m ≤ s.fleet.registry.clock := by
  unfold refreshedAfter
  split
  · exact le_rfl
  · exact h.past

/-- The metadata of the object lasts. -/
theorem Watch.Inv.info_move (h : x.Inv s) (hm : x.Active s m) :
    Keyspace.Lasts (x.refreshedAfter s m + defaultTtl) (Says (x.registeredBy s.last m))
      ((s.fleet.registry.move m).view (k.meta x.doId)) := by
  have hlimit := Nat.add_le_add_right (h.refreshedAfter_le m) defaultTtl
  cases m with
  | pass n =>
      rw [Registry.move, view_pass, h.info.filter hm]
      exact h.info
  | apply b =>
      cases b with
      | registerWatch d u t a url ttl now =>
          obtain rfl : ttl = defaultTtlSec := hm
          -- a registration writes the record of its own object only
          by_cases hd : d = x.doId
          · subst hd
            simp only [Watch.registeredBy, if_true]
            exact (says_registerWatch h.wellTyped).mono hlimit
          · have hnot : x.refreshedBy (.apply (.registerWatch d u t a url defaultTtlSec now)) =
                false := by
              refine decide_eq_false fun heq => hd ?_
              rw [← heq]
            simp only [Watch.registeredBy, if_neg hd, Watch.refreshedAfter, hnot]
            refine lasts_apply h.info fun c hc hkey => ?_
            simp only [Transaction.commands, List.mem_cons, List.not_mem_nil, or_false] at hc
            rcases hc with rfl | rfl | rfl | rfl | rfl | rfl | rfl | rfl <;>
              simp [Keyspace.Command.key, Ne.symm hd] at hkey
      | deregisterWatch t d a =>
          refine lasts_apply h.info fun c hc hkey => ?_
          simp only [Transaction.commands, List.mem_append, List.mem_singleton] at hc
          rcases hc with hc | rfl
          · split at hc
            · obtain rfl := List.mem_singleton.mp hc
              exact absurd hkey (meta_ne_alert _ _ _)
            · cases hc
          · exact absurd hkey (meta_ne_doAlerts _ _)
      | deregisterDo d info as =>
          refine lasts_apply h.info fun c hc hkey => ?_
          simp only [Transaction.commands, List.mem_append, List.mem_map, List.mem_cons,
            List.not_mem_nil, or_false] at hc
          rcases hc with ⟨a, -, rfl⟩ | rfl | rfl | rfl
          · exact absurd hkey (meta_ne_alert _ _ _)
          · exact absurd hkey (meta_ne_user _ _ _)
          · exact absurd (meta_inj.mp hkey).symm hm
          · exact absurd hkey (meta_ne_doAlerts _ _)
      | refreshTtl d a t ttl now =>
          obtain rfl : ttl = defaultTtlSec := hm
          by_cases hd : d = x.doId
          · subst hd
            exact (says_refreshTtl h.info).mono hlimit
          · have hnot : x.refreshedBy (.apply (.refreshTtl d a t defaultTtlSec now)) = false := by
              refine decide_eq_false fun heq => hd ?_
              rw [← heq]
            simp only [Watch.registeredBy, Watch.refreshedAfter, hnot]
            refine lasts_apply h.info fun c hc hkey => ?_
            simp only [Transaction.commands, List.mem_cons, List.not_mem_nil, or_false] at hc
            rcases hc with rfl | rfl | rfl | rfl <;>
              simp [Keyspace.Command.key, Ne.symm hd] at hkey

/-- The object stays in the set of the alert. -/
theorem Watch.Inv.member_move (h : x.Inv s) (hm : x.Active s m) (ha : x.Apart m) :
    Keyspace.Lasts (x.refreshedAfter s m + defaultTtl) (Keyspace.HasMember x.doId)
      ((s.fleet.registry.move m).view (k.alert x.tenantId x.alertId)) := by
  have hlimit := Nat.add_le_add_right (h.refreshedAfter_le m) defaultTtl
  have hpast : s.refreshed + defaultTtl ≤
      s.fleet.registry.clock + defaultTtlSec * second := Nat.add_le_add_right h.past _
  cases m with
  | pass n =>
      rw [Registry.move, view_pass, h.member.filter hm]
      exact h.member
  | apply b =>
      cases b with
      | registerWatch d u t a url ttl now =>
          obtain rfl : ttl = defaultTtlSec := hm
          by_cases hx : (⟨d, t, a⟩ : Watch) = x
          · subst hx
            exact (member_registerWatch h.wellTyped).mono hlimit
          · have hnot : x.refreshedBy (.apply (.registerWatch d u t a url defaultTtlSec now)) =
                false := decide_eq_false hx
            simp only [Watch.refreshedAfter, hnot]
            -- the set is shared: another object joins it and lengthens its lifetime
            refine lasts_apply h.member fun c hc hkey => ?_
            simp only [Transaction.commands, List.mem_cons, List.not_mem_nil, or_false] at hc
            rcases hc with rfl | rfl | rfl | rfl | rfl | rfl | rfl | rfl
            · exact absurd hkey (alert_ne_meta _ _ _)
            · exact absurd hkey (alert_ne_meta _ _ _)
            · exact Keyspace.spares_sadd
            · exact Keyspace.spares_expire (by decide) hpast
            · exact absurd hkey (alert_ne_user _ _ _ _)
            · exact absurd hkey (alert_ne_user _ _ _ _)
            · exact absurd hkey (alert_ne_doAlerts _ _ _)
            · exact absurd hkey (alert_ne_doAlerts _ _ _)
      | deregisterWatch t d a =>
          refine lasts_apply h.member fun c hc hkey => ?_
          simp only [Transaction.commands, List.mem_append, List.mem_singleton] at hc
          rcases hc with hc | rfl
          · split at hc
            · rename_i tenant htenant
              obtain ⟨rfl, -⟩ := Option.filter_eq_some_iff.mp htenant
              obtain rfl := List.mem_singleton.mp hc
              apply Keyspace.spares_srem
              rintro rfl
              have hne : a ≠ x.alertId := fun heq => hm ⟨rfl, heq⟩
              exact ha rfl hne hkey.symm
            · cases hc
          · exact absurd hkey (alert_ne_doAlerts _ _ _)
      | deregisterDo d info as =>
          refine lasts_apply h.member fun c hc hkey => ?_
          simp only [Transaction.commands, List.mem_append, List.mem_map, List.mem_cons,
            List.not_mem_nil, or_false] at hc
          rcases hc with ⟨a, -, rfl⟩ | rfl | rfl | rfl
          · exact Keyspace.spares_srem (Ne.symm hm)
          · exact absurd hkey (alert_ne_user _ _ _ _)
          · exact absurd hkey (alert_ne_meta _ _ _)
          · exact absurd hkey (alert_ne_doAlerts _ _ _)
      | refreshTtl d a t ttl now =>
          obtain rfl : ttl = defaultTtlSec := hm
          by_cases hx : (⟨d, t, a⟩ : Watch) = x
          · subst hx
            exact (member_refreshTtl h.member).mono hlimit
          · have hnot : x.refreshedBy (.apply (.refreshTtl d a t defaultTtlSec now)) = false :=
              decide_eq_false hx
            simp only [Watch.refreshedAfter, hnot]
            refine lasts_apply h.member fun c hc hkey => ?_
            simp only [Transaction.commands, List.mem_cons, List.not_mem_nil, or_false] at hc
            rcases hc with rfl | rfl | rfl | rfl
            · exact absurd hkey (alert_ne_meta _ _ _)
            · exact Keyspace.spares_expire (by decide) hpast
            · exact absurd hkey (alert_ne_doAlerts _ _ _)
            · exact absurd hkey (alert_ne_meta _ _ _)

/-- Time does not run out. -/
theorem Watch.Inv.inTime_move (h : x.Inv s) (hm : x.Active s m) :
    x.refreshedAfter s m ≤ (s.fleet.registry.move m).clock ∧
      (s.fleet.registry.move m).clock < x.refreshedAfter s m + defaultTtl := by
  cases m with
  | pass n => exact ⟨Nat.le_add_right_of_le h.past, hm⟩
  | apply b =>
      refine ⟨h.refreshedAfter_le _, ?_⟩
      show s.fleet.registry.clock < _
      unfold refreshedAfter
      split
      · exact Nat.lt_add_of_pos_right (by decide)
      · exact h.inTime

/-- **One step** of whatever is under way. -/
theorem Watch.Inv.step {isUrl : String → Bool} {l : Label} {s' : Watching} (h : x.Inv s)
    (hstep : (watching isUrl x).step s l = some s')
    (hm : ∀ m, s.fleet.moveOf l = some m → x.Active s m ∧ x.Apart m) : x.Inv s' := by
  obtain ⟨fleet, hfleet, rfl⟩ := Option.map_eq_some_iff.mp hstep
  have hwell := wellTyped_step hfleet h.wellTyped
  cases hmove : s.fleet.moveOf l with
  | none =>
      have hregistry : fleet.registry = s.fleet.registry := by
        rw [step_registry hfleet, hmove]
        rfl
      have hinfo := h.info
      have hmember := h.member
      have hpast := h.past
      have hinTime := h.inTime
      rw [← hregistry] at hinfo hmember hpast hinTime
      exact ⟨hwell, hinfo, hmember, hpast, hinTime⟩
  | some m =>
      have hregistry : fleet.registry = s.fleet.registry.move m := by
        rw [step_registry hfleet, hmove]
        rfl
      obtain ⟨hactive, hapart⟩ := hm m hmove
      have hinfo := h.info_move hactive
      have hmember := h.member_move hactive hapart
      obtain ⟨hpast, hinTime⟩ := h.inTime_move hactive
      rw [← hregistry] at hinfo hmember hpast hinTime
      exact ⟨hwell, hinfo, hmember, hpast, hinTime⟩

/-- What a registration of the watch starts from. -/
theorem Watch.inv_start {isUrl : String → Bool} (hs : (watching isUrl x).start s) : x.Inv s := by
  obtain ⟨s₀, l, u, url, now, hreach, hmove, hstep, hlast, hrefreshed⟩ := hs
  have hwell₀ : s₀.registry.WellTyped :=
    hreach.invariant (P := fun s => s.registry.WellTyped)
      (fun _ h0 => (congrArg Fleet.registry h0).symm ▸ start_wellTyped) fun _ _ _ h _ hnext =>
        wellTyped_step hnext h
  have hregistry : s.fleet.registry = s₀.registry.apply
      (.registerWatch x.doId u x.tenantId x.alertId url defaultTtlSec now) := by
    rw [step_registry hstep, hmove]
    rfl
  have hinfo : Keyspace.Lasts (s₀.registry.clock + defaultTtl) (Says ⟨u, x.tenantId, url⟩)
      (s.fleet.registry.view (k.meta x.doId)) := by
    rw [hregistry]
    exact says_registerWatch hwell₀
  have hmember : Keyspace.Lasts (s₀.registry.clock + defaultTtl) (Keyspace.HasMember x.doId)
      (s.fleet.registry.view (k.alert x.tenantId x.alertId)) := by
    rw [hregistry]
    exact member_registerWatch hwell₀
  have hclock : s.fleet.registry.clock = s₀.registry.clock := by
    rw [hregistry]
    rfl
  rw [← hrefreshed] at hinfo hmember
  rw [← hlast] at hinfo
  refine ⟨wellTyped_step hstep hwell₀, hinfo, hmember, ?_, ?_⟩
  · rw [hclock, hrefreshed]
  · rw [hclock, hrefreshed]
    exact Nat.lt_add_of_pos_right (by decide)

/-- What the watch needs is what the lookup reads. -/
theorem Watch.Inv.retained (h : x.Inv s) : x.Retained s := by
  obtain ⟨⟨_, deadline⟩, hview, ⟨fields, rfl, huser, htenant, hpush⟩, -⟩ := h.info
  obtain ⟨⟨_, deadline'⟩, hview', ⟨members, rfl, hmem⟩, -⟩ := h.member
  have hfields : s.fleet.registry.fields x.doId = fields := congrArg Keyspace.fieldsOf hview
  have hmembers : s.fleet.registry.members (k.alert x.tenantId x.alertId) = members :=
    congrArg Keyspace.membersOf hview'
  have hne : fields ≠ [] := by
    rintro rfl
    cases huser
  have hinfo : ∃ w, s.fleet.registry.infoOf x.doId = some w ∧ w.do_id = x.doId ∧
      w.user_id = s.last.userId ∧ w.tenant_id = s.last.tenantId ∧
      w.push_url = s.last.pushUrl := by
    rw [Registry.infoOf, hfields, WatcherMeta.ofHash, if_neg hne, huser, htenant, hpush]
    exact ⟨_, rfl, rfl, rfl, rfl, rfl⟩
  obtain ⟨w, hw, hid, hsame⟩ := hinfo
  refine ⟨w, mem_found.mpr ⟨?_, ?_⟩, hid, hsame⟩
  · rw [hmembers, hid]
    exact hmem
  · rw [hid]
    exact hw

end Step

/-! ## §4  Every run -/

/-- **Active watchers are retained**, whatever other operations run and however
they interleave, unless the object leaves another alert under the same key. -/
theorem watch_retained (isUrl : String → Bool) (x : Watch) {s : Watching}
    (h : (watching isUrl x).Reached
      (fun s l => ∀ m, s.fleet.moveOf l = some m → x.Active s m ∧ x.Apart m) s) :
    x.Retained s := by
  have hinv : x.Inv s :=
    h.invariant (fun _ => Watch.inv_start) fun _ _ _ hs hc hstep => hs.step hstep hc
  exact hinv.retained

def quietEnvironment : Environment := ⟨1700000000, "token", 204⟩

/-- What is left when the first registration of all has been made. -/
def justRegistered (x : Watch) : Watching :=
  let url := "https://gateway/push"
  ⟨⟨Registry.empty.apply (.registerWatch x.doId "ann" x.tenantId x.alertId url
      defaultTtlSec 1700000000),
    [(.registerWatch x.doId "ann" x.tenantId x.alertId url none, .pure [])]⟩,
    ⟨"ann", x.tenantId, url⟩, 0⟩

theorem start_justRegistered (isUrl : String → Bool) (x : Watch) :
    (watching isUrl x).start (justRegistered x) := by
  have hrun : (registrySystem isUrl).run Fleet.start
      [.begin (.registerWatch x.doId "ann" x.tenantId x.alertId "https://gateway/push" none),
        .advance 0 .returned quietEnvironment] =
      some ⟨Registry.empty, [(.registerWatch x.doId "ann" x.tenantId x.alertId
        "https://gateway/push" none,
        forEffect (exec (.registerWatch x.doId "ann" x.tenantId x.alertId
          "https://gateway/push" defaultTtlSec 1700000000)))]⟩ := rfl
  have hbegun := System.reached_of_run (.start rfl) hrun
  exact ⟨_, .advance 0 .returned quietEnvironment, "ann", "https://gateway/push", 1700000000,
    hbegun, rfl, rfl, rfl, rfl⟩

/-- A watch that is refreshed after 590 s is still found 590 s later. -/
theorem watch_retained_refreshed :
    ∃ s, (watching (fun _ => true) ⟨"do", "north", "a1"⟩).run (justRegistered ⟨"do", "north", "a1"⟩)
        [.pass (590 * second), .begin (.refreshTtl "do" "a1" "north" none),
          .advance 1 .returned quietEnvironment, .advance 1 .returned quietEnvironment,
          .pass (590 * second)] = some s ∧
      Watch.Retained ⟨"do", "north", "a1"⟩ s := by
  have hrun : ∃ s, (watching (fun _ => true) ⟨"do", "north", "a1"⟩).run
      (justRegistered ⟨"do", "north", "a1"⟩)
      [.pass (590 * second), .begin (.refreshTtl "do" "a1" "north" none),
        .advance 1 .returned quietEnvironment, .advance 1 .returned quietEnvironment,
        .pass (590 * second)] = some s := ⟨_, rfl⟩
  obtain ⟨s, hs⟩ := hrun
  refine ⟨s, hs, watch_retained (fun _ => true) _
    (System.Meets.reached ?_ (.start (start_justRegistered _ _)) hs)⟩
  -- one condition for each of the five steps, at the state before it
  refine ⟨?_, fun s₁ h₁ => ⟨?_, fun s₂ h₂ => ⟨?_, fun s₃ h₃ => ⟨?_, fun s₄ h₄ => ⟨?_, ?_⟩⟩⟩⟩⟩
  · intro m hm
    obtain rfl := Option.some.inj hm
    refine ⟨?_, trivial⟩
    show 0 + 590 * second < 0 + defaultTtlSec * second
    decide
  · intro m hm
    cases hm
  · intro m hm
    obtain rfl := Option.some.inj h₁
    obtain rfl := Option.some.inj h₂
    cases hm
  · intro m hm
    obtain rfl := Option.some.inj h₁
    obtain rfl := Option.some.inj h₂
    obtain rfl := Option.some.inj h₃
    obtain rfl := Option.some.inj hm
    exact ⟨rfl, trivial⟩
  · intro m hm
    obtain rfl := Option.some.inj h₁
    obtain rfl := Option.some.inj h₂
    obtain rfl := Option.some.inj h₃
    obtain rfl := Option.some.inj h₄
    obtain rfl := Option.some.inj hm
    refine ⟨?_, trivial⟩
    show 590 * second + 590 * second < 590 * second + defaultTtlSec * second
    decide
  · intro s₅ _
    trivial

/-- Leaving alert `z` of tenant `x:y` is leaving alert `y:z` of tenant `x`. -/
theorem watch_lost :
    ¬ ∀ (x : Watch) (s : Watching), (watching (fun _ => true) x).Reached
      (fun s l => ∀ m, s.fleet.moveOf l = some m → x.Active s m) s → x.Retained s := by
  intro h
  have hrun : ∃ s, (watching (fun _ => true) ⟨"do", "x", "y:z"⟩).run
      (justRegistered ⟨"do", "x", "y:z"⟩)
      [.begin (.deregisterWatch "do" "z" (some "x:y")),
        .advance 1 .returned quietEnvironment] = some s ∧
      s.fleet.registry.members (k.alert "x" "y:z") = [] :=
    ⟨_, rfl, by decide⟩
  obtain ⟨s, hs, hnone⟩ := hrun
  have hmeets := System.Meets.reached
    (C := fun s l => ∀ m, s.fleet.moveOf l = some m → Watch.Active ⟨"do", "x", "y:z"⟩ s m) ?_
    (.start (start_justRegistered _ _)) hs
  · obtain ⟨w, hw, -⟩ := h _ s hmeets
    have hmem := (mem_found.mp hw).1
    rw [hnone] at hmem
    cases hmem
  · refine ⟨?_, fun s₁ h₁ => ⟨?_, ?_⟩⟩
    · intro m hm
      cases hm
    · intro m hm
      obtain rfl := Option.some.inj h₁
      obtain rfl := Option.some.inj hm
      rintro ⟨-, halert⟩
      exact absurd halert (by decide)
    · intro s₂ _
      trivial

end AlertTriage.Bff
