import AlertTriage.Bff.RegistryRuns
import AlertTriage.Gateway.AnalystSession

/-!
# Watches of one durable object

A watch message takes effect after two awaits, an unwatch and a close at once, and every request
to the BFF is served some time after it was sent. So an unwatch or a close that comes while a
watch is under way finds nothing to undo, and a request that overtakes an earlier one is undone
by it. Where neither happens, the object watches, and the BFF has registered, exactly the alerts
whose last message was a watch, once everything under way has come to its end (`linear`).
-/

namespace AlertTriage.Gateway

open Library Bff

/-! ## §1  Requests at the registry -/

/-- The body of `/api/internal/watch`. -/
def WatchRegistration.body (w : WatchRegistration) : Json :=
  .obj [("do_id", .str w.do_id), ("user_id", .str w.user_id), ("tenant_id", .str w.tenant_id),
    ("alert_id", .str w.alert_id), ("push_url", .str w.push_url)]

/-- The route that serves a request, under a token of the tenant. -/
def Post.serve (isUrl : String → Bool) (tid : String) : Post → Bff.Task Response
  | .watch w => postWatch isUrl (.ok tid) (some w.body)
  | .unwatch d a => postUnwatch (.ok tid) (some (.obj [("do_id", .str d), ("alert_id", .str a)]))
  | .disconnect d u =>
      postDisconnect (.ok tid) (some (.obj [("do_id", .str d), ("user_id", .str u)]))
  -- the cancel route publishes, and leaves the registry alone
  | .cancel _ _ _ _ => pure ⟨200, none⟩

/-- The object is registered for the alert. -/
def Enrolled (r : Registry) (doId tid a : String) : Prop := doId ∈ r.members (k.alert tid a)

/-- What the registry has of an object whose requests are all of one tenant. -/
structure Listed (r : Registry) (doId tid : String) : Prop where
  wellTyped : r.WellTyped
  doAlerts : ∀ a, a ∈ r.members (k.doAlerts doId) ↔ Enrolled r doId tid a
  info : ∀ a, Enrolled r doId tid a → r.fields doId ≠ []
  tenant : r.fields doId ≠ [] → r.tenantOf doId = tid
  named : ∀ a, Enrolled r doId tid a → tid ≠ ""

theorem alert_inj {t a a' : String} : k.alert t a = k.alert t a' ↔ a = a' := by
  unfold k.alert
  rw [String.append_right_inj, String.append_right_inj]

@[simp] theorem doAlerts_ne_alert (d t a : String) : k.doAlerts d ≠ k.alert t a :=
  (alert_ne_doAlerts t a d).symm

@[simp] theorem doAlerts_ne_meta (d d' : String) : k.doAlerts d ≠ k.meta d' :=
  (meta_ne_doAlerts d' d).symm

@[simp] theorem doAlerts_ne_user (d t u : String) : k.doAlerts d ≠ k.user t u :=
  (user_ne_doAlerts t u d).symm

section Registry

variable {r : Registry} {doId tid a : String} {env : Environment}

/-- A registration adds its alert. -/
theorem listed_registerWatch (h : Listed r doId tid) (htid : tid ≠ "") (user url : String) (now : ℕ) :
    Listed (r.apply (.registerWatch doId user tid a url defaultTtlSec now)) doId tid ∧
      ∀ b, Enrolled (r.apply (.registerWatch doId user tid a url defaultTtlSec now)) doId tid b ↔
        b = a ∨ Enrolled r doId tid b := by
  have hpos : defaultTtlSec ≠ 0 := by decide
  have henrolled (b : String) :
      Enrolled (r.apply (.registerWatch doId user tid a url defaultTtlSec now)) doId tid b ↔
        b = a ∨ Enrolled r doId tid b := by
    unfold Enrolled
    rw [alert_registerWatch h.wellTyped]
    by_cases hb : b = a
    · subst hb
      simp [hpos, Keyspace.mem_addMember]
    · rw [if_neg (fun hk => hb (alert_inj.mp hk))]
      simp [hb]
  have hfields : (r.apply (.registerWatch doId user tid a url defaultTtlSec now)).fields doId =
      Keyspace.mergeFields [("user_id", user), ("tenant_id", tid), ("push_url", url),
        ("last_seen_epoch", toString now)] (r.fields doId) := by
    rw [fields_registerWatch h.wellTyped, if_pos rfl, if_neg hpos]
  have htenant : Json.lookup "tenant_id"
      ((r.apply (.registerWatch doId user tid a url defaultTtlSec now)).fields doId) =
        some tid := by
    rw [hfields]
    simp [Keyspace.mergeFields, Json.lookup_upsert, Json.lookup_upsert_ne]
  refine ⟨⟨h.wellTyped.move (.apply _), fun b => ?_, fun b _ hnil => ?_, fun _ => ?_,
    fun _ _ => htid⟩, henrolled⟩
  · rw [henrolled, members_apply h.wellTyped _ (not_isMetaKey_doAlerts doId), ← h.doAlerts b]
    simp [Transaction.commands, Keyspace.Command.members, hpos, Keyspace.mem_addMember]
  · rw [hnil] at htenant
    cases htenant
  · rw [Registry.tenantOf, htenant]
    rfl

theorem commands_deregisterWatch (doId a : String) (htid : tid ≠ "") :
    (Transaction.deregisterWatch (some tid) doId a).commands =
      [.srem (k.alert tid a) doId, .srem (k.doAlerts doId) a] := by
  have htenant : (some tid).filter (· ≠ "") = some tid := by simp [htid]
  simp only [Transaction.commands]
  rw [htenant]
  rfl

/-- An unwatch takes its alert out. -/
theorem listed_deregisterWatch (h : Listed r doId tid) (htid : tid ≠ "") :
    Listed (r.apply (.deregisterWatch (some tid) doId a)) doId tid ∧
      ∀ b, Enrolled (r.apply (.deregisterWatch (some tid) doId a)) doId tid b ↔
        b ≠ a ∧ Enrolled r doId tid b := by
  have henrolled (b : String) :
      Enrolled (r.apply (.deregisterWatch (some tid) doId a)) doId tid b ↔
        b ≠ a ∧ Enrolled r doId tid b := by
    unfold Enrolled
    rw [members_apply h.wellTyped _ (not_isMetaKey_alert tid b)]
    rw [commands_deregisterWatch doId a htid]
    by_cases hb : b = a
    · subst hb
      simp [Keyspace.Command.members]
    · have hkey : k.alert tid b ≠ k.alert tid a := fun hk => hb (alert_inj.mp hk)
      simp [Keyspace.Command.members, hb, hkey]
  have hfields := fields_deregisterWatch h.wellTyped doId (some tid) doId a
  refine ⟨⟨h.wellTyped.move (.apply _), fun b => ?_, fun b hb => ?_, fun hne => ?_,
    fun _ _ => htid⟩, henrolled⟩
  · rw [henrolled, members_apply h.wellTyped _ (not_isMetaKey_doAlerts doId), ← h.doAlerts b,
      commands_deregisterWatch doId a htid]
    simp [Keyspace.Command.members, and_comm]
  · rw [hfields]
    exact h.info b ((henrolled b).mp hb).2
  · rw [hfields] at hne
    rw [Registry.tenantOf, hfields]
    exact h.tenant hne

/-- A removal takes all out: it knows them, and the tenant they are under. -/
theorem listed_deregisterDo (h : Listed r doId tid) {info : WatcherMeta}
    (hinfo : r.infoOf doId = some info) :
    Listed (r.apply (.deregisterDo doId info (r.members (k.doAlerts doId)))) doId tid ∧
      ∀ b, ¬ Enrolled (r.apply (.deregisterDo doId info (r.members (k.doAlerts doId))))
        doId tid b := by
  have hne : r.fields doId ≠ [] := infoOf_isSome.mp (by rw [hinfo]; rfl)
  obtain ⟨w, hw, -, hwtenant⟩ := infoOf_of_fields hne
  obtain rfl : info = w := Option.some.inj (hinfo.symm.trans hw)
  have htenant : info.tenant_id = tid := hwtenant.trans (h.tenant hne)
  -- the deregistration removes the object from each set that lists it
  have hnone (b : String) : ¬ Enrolled (r.apply (.deregisterDo doId info
      (r.members (k.doAlerts doId)))) doId tid b := by
    intro hb
    have hbefore : Enrolled r doId tid b :=
      (members_deregisterDo h.wellTyped (not_isMetaKey_alert tid b)
        (alert_ne_doAlerts tid b doId)).1 hb
    unfold Enrolled at hb
    rw [members_apply h.wellTyped _ (not_isMetaKey_alert tid b)] at hb
    refine Keyspace.not_mem_foldl_srem ?_ ?_ _ hb
    · intro c hc hk
      simp only [Transaction.commands, List.mem_append, List.mem_map, List.mem_cons,
        List.not_mem_nil, or_false] at hc
      rcases hc with ⟨a, -, rfl⟩ | rfl | rfl | rfl
      · exact congrArg (Keyspace.Command.srem · doId) hk.symm
      · exact congrArg (Keyspace.Command.srem · doId) hk.symm
      · exact absurd hk (alert_ne_meta tid b doId)
      · exact absurd hk (alert_ne_doAlerts tid b doId)
    · refine List.mem_append_left _ (List.mem_map.mpr ⟨b, (h.doAlerts b).mpr hbefore, ?_⟩)
      rw [htenant]
  have hfields : (r.apply (.deregisterDo doId info (r.members (k.doAlerts doId)))).fields doId =
      [] := by
    rw [fields_deregisterDo h.wellTyped, if_pos rfl]
  refine ⟨⟨h.wellTyped.move (.apply _), fun b => ?_, fun b hb => absurd hb (hnone b),
    fun hf => absurd hfields hf, fun b hb => absurd hb (hnone b)⟩, hnone⟩
  refine iff_of_false ?_ (hnone b)
  rw [members_apply h.wellTyped _ (not_isMetaKey_doAlerts doId), Transaction.commands,
    List.foldl_append]
  simp [Keyspace.Command.members]

/-! ### What a served request does -/

theorem zString_inv {bound : ℕ} {key s : String} {fields : List (String × Json)}
    (h : zString bound key (.obj fields) = some s) :
    Json.lookup key fields = some (.str s) ∧ s ≠ "" := by
  unfold zString at h
  split at h
  · rename_i s' hs
    split at h
    · rename_i hbounds
      obtain rfl := Option.some.inj h
      refine ⟨hs, ?_⟩
      rintro rfl
      exact absurd hbounds.1 (by decide)
    · cases h
  · cases h

theorem serve_watch {isUrl : String → Bool} {w : WatchRegistration}
    (h : ((Post.watch w).serve isUrl tid |>.run (answer env) r).1 = some ⟨200, none⟩) :
    w.tenant_id = tid ∧ tid ≠ "" ∧
      ((Post.watch w).serve isUrl tid |>.run (answer env) r).2 =
        r.apply (.registerWatch w.do_id w.user_id tid w.alert_id w.push_url defaultTtlSec
          env.epoch) := by
  unfold Post.serve postWatch at h ⊢
  dsimp only at h ⊢
  split at h
  · cases h
  · rename_i d u t a url hparsed
    obtain ⟨body, hbody, hparsed⟩ := Option.bind_eq_some_iff.mp hparsed
    obtain rfl := Option.some.inj hbody
    obtain ⟨d', hd, hparsed⟩ := Option.bind_eq_some_iff.mp hparsed
    obtain ⟨u', hu, hparsed⟩ := Option.bind_eq_some_iff.mp hparsed
    obtain ⟨t', ht, hparsed⟩ := Option.bind_eq_some_iff.mp hparsed
    obtain ⟨a', ha, hparsed⟩ := Option.bind_eq_some_iff.mp hparsed
    obtain ⟨url', hurl, hparsed⟩ := Option.bind_eq_some_iff.mp hparsed
    split at hparsed
    · obtain ⟨rfl, rfl, rfl, rfl, rfl⟩ : d' = d ∧ u' = u ∧ t' = t ∧ a' = a ∧ url' = url := by
        simpa using hparsed
      have hd := (zString_inv hd).1
      have hu := (zString_inv hu).1
      obtain ⟨ht, hnamed⟩ := zString_inv ht
      have ha := (zString_inv ha).1
      have hurl := (zString_inv hurl).1
      obtain rfl : w.do_id = d' := by simpa [Json.lookup] using hd
      obtain rfl : w.user_id = u' := by simpa [Json.lookup] using hu
      obtain rfl : w.tenant_id = t' := by simpa [Json.lookup] using ht
      obtain rfl : w.alert_id = a' := by simpa [Json.lookup] using ha
      obtain rfl : w.push_url = url' := by simpa [Json.lookup] using hurl
      -- the tenant of the body has to be that of the token
      by_cases htid : tid = w.tenant_id
      · subst htid
        rw [if_neg (not_not.mpr rfl)] at h ⊢
        exact ⟨rfl, hnamed, rfl⟩
      · rw [if_pos htid] at h
        cases h
    · cases hparsed

theorem serve_unwatch {isUrl : String → Bool}
    (h : ((Post.unwatch doId a).serve isUrl tid |>.run (answer env) r).1 = some ⟨200, none⟩) :
    ((Post.unwatch doId a).serve isUrl tid |>.run (answer env) r).2 =
      r.apply (.deregisterWatch (some tid) doId a) := by
  unfold Post.serve postUnwatch at h ⊢
  dsimp only [Option.bind_some] at h ⊢
  split at h
  · rename_i d' a' hd ha
    have hd' := (zString_inv hd).1
    have ha' := (zString_inv ha).1
    obtain rfl : doId = d' := by simpa [Json.lookup] using hd'
    obtain rfl : a = a' := by simpa [Json.lookup] using ha'
    rfl
  · cases h

/-- A removal reads the metadata and the alerts, and takes them out. -/
theorem serve_disconnect {isUrl : String → Bool} {user : String}
    (h : ((Post.disconnect doId user).serve isUrl tid |>.run (answer env) r).1 =
      some ⟨200, none⟩) :
    r.infoOf doId = none ∧
        ((Post.disconnect doId user).serve isUrl tid |>.run (answer env) r).2 = r ∨
      ∃ info, r.infoOf doId = some info ∧
        ((Post.disconnect doId user).serve isUrl tid |>.run (answer env) r).2 =
          r.apply (.deregisterDo doId info (r.members (k.doAlerts doId))) := by
  unfold Post.serve postDisconnect at h ⊢
  dsimp only [Option.bind_some] at h ⊢
  split at h
  · rename_i d' u' hd hu
    have hd' := (zString_inv hd).1
    obtain rfl : doId = d' := by simpa [Json.lookup] using hd'
    rw [Async.run_bind, deregisterDo, Async.run_bind, getMeta_run]
    cases hinfo : r.infoOf doId with
    | none => exact .inl ⟨rfl, rfl⟩
    | some info => exact .inr ⟨info, rfl, rfl⟩
  · cases h

/-- A tenant without a name has nothing to take out. -/
theorem listed_deregisterWatch_unnamed (h : Listed r doId "") :
    Listed (r.apply (.deregisterWatch (some "") doId a)) doId "" ∧
      ∀ b, ¬ Enrolled (r.apply (.deregisterWatch (some "") doId a)) doId "" b := by
  have hnone (b : String) : ¬ Enrolled (r.apply (.deregisterWatch (some "") doId a)) doId "" b :=
    fun hb => h.named b (alert_deregisterWatch h.wellTyped hb) rfl
  have hfields := fields_deregisterWatch h.wellTyped doId (some "") doId a
  refine ⟨⟨h.wellTyped.move (.apply _), fun b => iff_of_false ?_ (hnone b),
    fun b hb => absurd hb (hnone b), fun hne => ?_, fun b hb => absurd hb (hnone b)⟩, hnone⟩
  · have hbefore : b ∉ r.members (k.doAlerts doId) := fun hb =>
      h.named b ((h.doAlerts b).mp hb) rfl
    have hcommands : (Transaction.deregisterWatch (some "") doId a).commands =
        [.srem (k.doAlerts doId) a] := rfl
    rw [members_apply h.wellTyped _ (not_isMetaKey_doAlerts doId), hcommands]
    simp [Keyspace.Command.members, hbefore]
  · rw [hfields] at hne
    rw [Registry.tenantOf, hfields]
    exact h.tenant hne

/-- The request is of the object. -/
def Post.Of (doId : String) : Post → Prop
  | .watch w => w.do_id = doId
  | .unwatch d _ => d = doId
  | .disconnect d _ => d = doId
  | .cancel _ _ _ _ => True

/-- The alerts that are registered once the request has been served. -/
def Post.enrols (before : String → Prop) (b : String) : Post → Prop
  | .watch w => b = w.alert_id ∨ before b
  | .unwatch _ a => b ≠ a ∧ before b
  | .disconnect _ _ => False
  | .cancel _ _ _ _ => before b

/-- **A served request** does to the alerts of its object what it says. -/
theorem Listed.serve {isUrl : String → Bool} {p : Post} (h : Listed r doId tid)
    (hp : p.Of doId)
    (hok : (p.serve isUrl tid |>.run (answer env) r).1 = some ⟨200, none⟩) :
    Listed (p.serve isUrl tid |>.run (answer env) r).2 doId tid ∧
      ∀ b, Enrolled (p.serve isUrl tid |>.run (answer env) r).2 doId tid b ↔
        p.enrols (Enrolled r doId tid) b := by
  cases p with
  | watch w =>
      obtain ⟨-, htid, hr⟩ := serve_watch hok
      obtain rfl : w.do_id = doId := hp
      rw [hr]
      exact listed_registerWatch h htid _ _ _
  | unwatch d a =>
      obtain rfl : d = doId := hp
      rw [serve_unwatch hok]
      by_cases htid : tid = ""
      · subst htid
        obtain ⟨hlisted, hnone⟩ := listed_deregisterWatch_unnamed (a := a) h
        refine ⟨hlisted, fun b => iff_of_false (hnone b) ?_⟩
        rintro ⟨-, hb⟩
        exact h.named b hb rfl
      · exact listed_deregisterWatch h htid
  | disconnect d user =>
      obtain rfl : d = doId := hp
      rcases serve_disconnect hok with ⟨hinfo, hr⟩ | ⟨info, hinfo, hr⟩
      · rw [hr]
        refine ⟨h, fun b => iff_of_false (fun hb => ?_) id⟩
        have hsome := infoOf_isSome.mpr (h.info b hb)
        rw [hinfo] at hsome
        cases hsome
      · rw [hr]
        obtain ⟨hlisted, hnone⟩ := listed_deregisterDo h hinfo
        exact ⟨hlisted, fun b => iff_of_false (hnone b) id⟩
  | cancel d t u a => exact ⟨h, fun b => Iff.rfl⟩

end Registry

/-! ## §2  The object and its requests -/

/-- The object, its requests on their way to the BFF, the alerts whose registration has been
answered, the registry, and the alerts whose last message was a watch. -/
structure Desk where
  object : AnalystSession
  posts : List Post
  answers : List String
  registry : Registry
  wanted : List String

inductive Desk.Step where
  | watch (alertId : String)
  | unwatch (alertId : String)
  | close (now : ℕ)
  | snapshot (i : ℕ) (s : Snapshot)
  | served (j : ℕ) (env : Environment)
  | registered (i : ℕ)

def Event.post? : Event → Option Post
  | .posted p => some p
  | _ => none

/-- The alert of a registration. -/
def Post.registers : Post → Option String
  | .watch w => some w.alert_id
  | _ => none

namespace Desk

/-- Run a handler of the object. -/
def handle (d : Desk) (h : Handler) : Desk :=
  { d with
    object := (h d.object).1
    posts := d.posts ++ (h d.object).2.filterMap Event.post? }

variable (isUrl : String → Bool) (doId pushUrl tid : String)

/-- A step in which nothing fails. -/
def step (d : Desk) : Step → Option Desk
  | .watch a =>
      if d.object.sockets = 0 then none
      else some { d.handle (AnalystSession.webSocketMessage doId (some (.watch a))) with
        wanted := a :: d.wanted }
  | .unwatch a =>
      if d.object.sockets = 0 then none
      else some { d.handle (AnalystSession.webSocketMessage doId (some (.unwatch a))) with
        wanted := d.wanted.filter (· ≠ a) }
  | .close now =>
      if d.object.sockets = 0 then none
      else some { d.handle (AnalystSession.webSocketClose now doId) with wanted := [] }
  | .snapshot i s =>
      match d.object.watches[i]? with
      | some (a, .snapshot) =>
          some (d.handle (AnalystSession.afterSnapshot doId pushUrl i a (some s)))
      | _ => none
  | .served j env =>
      match d.posts[j]? with
      | some p =>
          let r := (p.serve isUrl tid).run (answer env) d.registry
          if r.1 = some ⟨200, none⟩ then
            some { d with
              posts := d.posts.eraseIdx j
              answers := d.answers ++ p.registers.toList
              registry := r.2 }
          else none
      | none => none
  | .registered i =>
      match d.object.watches[i]? with
      | some (a, .registration) =>
          if a ∈ d.answers then
            some { d.handle (AnalystSession.afterRegistration doId i a true) with
              answers := d.answers.erase a }
          else none
      | _ => none

end Desk

/-- What goes on at an object whose websocket has just been accepted. -/
def deskSystem (isUrl : String → Bool) (doId pushUrl : String) (session : TicketRedemption) :
    System Desk Desk.Step where
  start d := (∃ ticket sockets, d.object =
      (AnalystSession.accept doId ticket session (.fresh sockets)).1) ∧
    d.posts = [] ∧ d.answers = [] ∧ d.wanted = [] ∧ d.registry.WellTyped ∧
    (∀ a, ¬ Enrolled d.registry doId session.tenant_id a) ∧
    d.registry.members (k.doAlerts doId) = [] ∧ d.registry.fields doId = []
  step := Desk.step isUrl doId pushUrl session.tenant_id

/-- The request takes the object out of the alert's watchers. -/
def Post.Withdraws (a : String) : Post → Prop
  | .unwatch _ b => b = a
  | .disconnect _ _ => True
  | _ => False

/-- No unwatch and no close comes while a watch is under way that it is to undo, and no
registration is served before a withdrawal that was sent earlier. -/
def Desk.InTurn (d : Desk) : Desk.Step → Prop
  | .unwatch a => a ∉ d.object.watches.map Prod.fst
  | .close _ => d.object.watches = []
  | .served j _ => ∀ a, (d.posts[j]?).bind Post.registers = some a →
      ∀ i < j, ∀ p, d.posts[i]? = some p → ¬ p.Withdraws a
  | _ => True

/-- Every handler has ended, and every request has been served. -/
def Desk.Settled (d : Desk) : Prop := d.object.watches = [] ∧ d.posts = []

/-- The object watches, and the BFF has registered, exactly the alerts whose last message was
a watch. -/
def Desk.Linear (doId tid : String) (d : Desk) : Prop :=
  ∀ a, (a ∈ d.object.watchedAlerts ↔ a ∈ d.wanted) ∧
    (Enrolled d.registry doId tid a ↔ a ∈ d.wanted) ∧
    (a ∈ d.registry.members (k.doAlerts doId) ↔ a ∈ d.wanted)

/-! ## §3  What a step keeps -/

/-- A withdrawal is on its way only where nothing has registered the alert anew, and what is
registered is watched, answered for, or about to be withdrawn. -/
structure Desk.Inv (doId : String) (session : TicketRedemption) (d : Desk) : Prop where
  ticket : d.object.ticket = some session
  listed : Listed d.registry doId session.tenant_id
  ours : ∀ p ∈ d.posts, p.Of doId
  wanted : ∀ a, a ∈ d.wanted ↔
    a ∈ d.object.watchedAlerts ∨ a ∈ d.object.watches.map Prod.fst
  balance : ∀ a, d.posts.countP (fun p => p.registers = some a) + d.answers.count a =
    d.object.watches.count (a, .registration)
  order : d.posts.Pairwise fun p q => ∀ a, p.registers = some a → ¬ q.Withdraws a
  live : ∀ a, a ∈ d.object.watchedAlerts ∨ a ∈ d.answers →
    Enrolled d.registry doId session.tenant_id a ∧ ∀ p ∈ d.posts, ¬ p.Withdraws a
  held : ∀ a, Enrolled d.registry doId session.tenant_id a →
    a ∈ d.object.watchedAlerts ∨ a ∈ d.answers ∨ ∃ p ∈ d.posts, p.Withdraws a

theorem perm_of_getElem? {α : Type} {l : List α} {i : ℕ} {x : α} (h : l[i]? = some x) :
    l.Perm (x :: l.eraseIdx i) := by
  obtain ⟨hi, rfl⟩ := List.getElem?_eq_some_iff.mp h
  exact (List.getElem_cons_eraseIdx_perm hi).symm

/-- What a request leaves registered. -/
theorem Post.enrols_iff {before : String → Prop} {p : Post} {b : String} :
    p.enrols before b ↔ p.registers = some b ∨ ¬ p.Withdraws b ∧ before b := by
  cases p with
  | watch w => simp [Post.enrols, Post.registers, Post.Withdraws, eq_comm]
  | unwatch d a => simp [Post.enrols, Post.registers, Post.Withdraws, eq_comm]
  | disconnect d u => simp [Post.enrols, Post.registers, Post.Withdraws]
  | cancel a t u => simp [Post.enrols, Post.registers, Post.Withdraws]

theorem Post.countP_registers_append (posts : List Post) (p : Post) (a : String) :
    (posts ++ [p]).countP (fun q => q.registers = some a) =
      posts.countP (fun q => q.registers = some a) +
        if p.registers = some a then 1 else 0 := by
  rw [List.countP_append, List.countP_singleton]
  simp only [decide_eq_true_eq]

namespace Desk

variable {isUrl : String → Bool} {doId pushUrl : String} {session : TicketRedemption}
  {d d' : Desk} {a : String}

/-- Whoever is answered, or has a registration on its way, is under way. -/
theorem Inv.under_way (h : d.Inv doId session)
    (ha : a ∈ d.answers ∨ ∃ p ∈ d.posts, p.registers = some a) :
    a ∈ d.object.watches.map Prod.fst := by
  have hbalance := h.balance a
  have hpos : 0 < d.object.watches.count (a, .registration) := by
    rcases ha with ha | ⟨p, hp, hreg⟩
    · have hanswered := List.count_pos_iff.mpr ha
      omega
    · have hsent : 0 < d.posts.countP (fun p => p.registers = some a) :=
        List.countP_pos_iff.mpr ⟨p, hp, decide_eq_true hreg⟩
      omega
  exact List.mem_map.mpr ⟨_, List.count_pos_iff.mp hpos, rfl⟩

theorem Inv.watch (h : d.Inv doId session)
    (hstep : d.step isUrl doId pushUrl session.tenant_id (.watch a) = some d') :
    d'.Inv doId session := by
  simp only [step] at hstep
  split at hstep
  · cases hstep
  obtain rfl := Option.some.inj hstep
  have hmessage : AnalystSession.webSocketMessage doId (some (.watch a)) d.object =
      AnalystSession.handleWatch a d.object := by
    simp [AnalystSession.webSocketMessage, h.ticket]
  by_cases hwatched : a ∈ d.object.watchedAlerts
  · have hhandle : AnalystSession.handleWatch a d.object = (d.object, []) :=
      if_pos (.inr hwatched)
    simp only [handle, hmessage, hhandle, List.filterMap_nil, List.append_nil]
    refine { h with wanted := fun b => ?_ }
    rw [List.mem_cons, h.wanted b]
    constructor
    · rintro (rfl | hb)
      · exact .inl hwatched
      · exact hb
    · exact .inr
  · have hhandle : AnalystSession.handleWatch a d.object =
        ({ d.object.cancelScheduledCancel a with
          watches := d.object.watches ++ [(a, .snapshot)] }, []) := by
      simp [AnalystSession.handleWatch, h.ticket, hwatched,
        AnalystSession.cancelScheduledCancel]
    simp only [handle, hmessage, hhandle, List.filterMap_nil, List.append_nil]
    refine { h with ticket := h.ticket, wanted := fun b => ?_, balance := fun b => ?_ }
    · simp only [AnalystSession.cancelScheduledCancel, List.mem_cons, List.map_append,
        List.mem_append, List.map_cons, List.map_nil, List.not_mem_nil, or_false, h.wanted b]
      tauto
    · rw [h.balance b]
      simp [List.count_append]

theorem mem_posted {posts : List Post} {p q : Post} :
    p ∈ posts ++ [q] ↔ p ∈ posts ∨ p = q := by
  rw [List.mem_append, List.mem_singleton]

/-- One more of the session's own requests. -/
theorem Inv.ours_posted (h : d.Inv doId session) {q : Post} (hq : q.Of doId) :
    ∀ p ∈ d.posts ++ [q], p.Of doId := by
  intro p hp
  rcases mem_posted.mp hp with hp | rfl
  · exact h.ours p hp
  · exact hq

theorem Inv.unwatch (h : d.Inv doId session)
    (hturn : a ∉ d.object.watches.map Prod.fst)
    (hstep : d.step isUrl doId pushUrl session.tenant_id (.unwatch a) = some d') :
    d'.Inv doId session := by
  simp only [step] at hstep
  split at hstep
  · cases hstep
  obtain rfl := Option.some.inj hstep
  have hmessage : AnalystSession.webSocketMessage doId (some (.unwatch a)) d.object =
      AnalystSession.handleUnwatch doId a d.object := by
    simp [AnalystSession.webSocketMessage, h.ticket]
  have hwanted (b : String) : b ∈ d.wanted.filter (· ≠ a) ↔ b ∈ d.wanted ∧ b ≠ a := by
    simp
  by_cases hwatched : a ∈ d.object.watchedAlerts
  · -- nobody watches the alert: nothing is posted
    have hhandle : AnalystSession.handleUnwatch doId a d.object =
        ({ d.object with watchedAlerts := d.object.watchedAlerts.filter (· ≠ a) },
          [.posted (.unwatch doId a)]) := by
      simp [AnalystSession.handleUnwatch, h.ticket, hwatched]
    simp only [handle, hmessage, hhandle]
    have hmem (p : Post) : p ∈ d.posts ++ [.unwatch doId a] ↔ p ∈ d.posts ∨ p = .unwatch doId a :=
      mem_posted
    constructor
    · exact h.ticket
    · exact h.listed
    · exact h.ours_posted rfl
    · intro b
      rw [hwanted, h.wanted b]
      simp only [List.mem_filter, decide_eq_true_eq]
      constructor
      · rintro ⟨hb | hb, hne⟩
        · exact .inl ⟨hb, hne⟩
        · exact .inr hb
      · rintro (⟨hb, hne⟩ | hb)
        · exact ⟨.inl hb, hne⟩
        · refine ⟨.inr hb, ?_⟩
          rintro rfl
          exact hturn hb
    · intro b
      rw [← h.balance b]
      simp [Event.post?, Post.registers]
    · refine List.pairwise_append.mpr ⟨h.order, List.pairwise_singleton _ _, ?_⟩
      rintro p hp q hq b hreg hwithdraws
      obtain rfl := List.mem_singleton.mp hq
      obtain rfl : a = b := hwithdraws
      exact hturn (h.under_way (.inr ⟨p, hp, hreg⟩))
    · intro b hb
      have hne : b ≠ a := by
        rintro rfl
        rcases hb with hb | hb
        · exact absurd (List.mem_filter.mp hb).2 (by simp)
        · exact hturn (h.under_way (.inl hb))
      have hlive := h.live b (hb.imp_left fun hb => (List.mem_filter.mp hb).1)
      refine ⟨hlive.1, fun p hp => ?_⟩
      rcases (hmem p).mp hp with hp | rfl
      · exact hlive.2 p hp
      · exact Ne.symm hne
    · intro b hb
      by_cases hne : b = a
      · exact .inr (.inr ⟨_, (hmem _).mpr (.inr rfl), hne.symm⟩)
      rcases h.held b hb with hw | hanswer | ⟨p, hp, hwithdraws⟩
      · exact .inl (List.mem_filter.mpr ⟨hw, decide_eq_true hne⟩)
      · exact .inr (.inl hanswer)
      · exact .inr (.inr ⟨p, (hmem p).mpr (.inl hp), hwithdraws⟩)
  · have hhandle : AnalystSession.handleUnwatch doId a d.object = (d.object, []) :=
      if_pos (.inl hwatched)
    simp only [handle, hmessage, hhandle, List.filterMap_nil, List.append_nil]
    refine { h with wanted := fun b => ?_ }
    rw [hwanted, h.wanted b]
    constructor
    · exact fun hb => hb.1
    · intro hb
      refine ⟨hb, ?_⟩
      rintro rfl
      exact hb.elim hwatched hturn

theorem Inv.close {now : ℕ} (h : d.Inv doId session) (hturn : d.object.watches = [])
    (hstep : d.step isUrl doId pushUrl session.tenant_id (.close now) = some d') :
    d'.Inv doId session := by
  simp only [step] at hstep
  split at hstep
  · cases hstep
  obtain rfl := Option.some.inj hstep
  obtain ⟨pending, hpending⟩ := AnalystSession.foldl_scheduleCancel_eq now
    d.object.watchedAlerts d.object
  have hclose : AnalystSession.webSocketClose now doId d.object =
      ({ d.object with
          pendingCancels := pending, watchedAlerts := [], sockets := d.object.sockets - 1 },
        [.closed doId, .posted (.disconnect doId session.user_id)]) := by
    simp only [AnalystSession.webSocketClose, hpending, h.ticket]
  -- with no turn under way no registration is either
  have hnone (b : String) :
      ¬ (b ∈ d.answers ∨ ∃ p ∈ d.posts, p.registers = some b) := fun hb => by
    have hway := h.under_way hb
    rw [hturn] at hway
    cases hway
  simp only [handle, hclose]
  have hmem (p : Post) : p ∈ d.posts ++ [.disconnect doId session.user_id] ↔
      p ∈ d.posts ∨ p = .disconnect doId session.user_id := mem_posted
  constructor
  · exact h.ticket
  · exact h.listed
  · exact h.ours_posted rfl
  · intro b
    simp [hturn]
  · intro b
    rw [← h.balance b]
    simp [Event.post?, Post.registers]
  · refine List.pairwise_append.mpr ⟨h.order, List.pairwise_singleton _ _, ?_⟩
    intro p hp q hq b hreg
    exact absurd (.inr ⟨p, hp, hreg⟩) (hnone b)
  · rintro b (hb | hb)
    · cases hb
    · exact absurd (.inl hb) (hnone b)
  · intro b _
    exact .inr (.inr ⟨_, (hmem _).mpr (.inr rfl), trivial⟩)

theorem Inv.snapshot {i : ℕ} {s : Snapshot} (h : d.Inv doId session)
    (hstep : d.step isUrl doId pushUrl session.tenant_id (.snapshot i s) = some d') :
    d'.Inv doId session := by
  simp only [step] at hstep
  split at hstep
  · rename_i a hi
    obtain rfl := Option.some.inj hstep
    have hlen := (List.getElem?_eq_some_iff.mp hi).1
    have hget := (List.getElem?_eq_some_iff.mp hi).2
    have hafter : AnalystSession.afterSnapshot doId pushUrl i a (some s) d.object =
        ({ d.object with watches := d.object.watches.set i (a, .registration) },
          [.sent doId (.snapshot a s),
            .posted (.watch ⟨doId, session.user_id, session.tenant_id, a, pushUrl⟩)]) := by
      simp [AnalystSession.afterSnapshot, h.ticket]
    simp only [handle, hafter]
    have hmem (p : Post) :
        p ∈ d.posts ++ [.watch ⟨doId, session.user_id, session.tenant_id, a, pushUrl⟩] ↔
          p ∈ d.posts ∨
            p = .watch ⟨doId, session.user_id, session.tenant_id, a, pushUrl⟩ := mem_posted
    -- the watch goes on to its registration, under the same alert
    have hwatches : (d.object.watches.set i (a, .registration)).map Prod.fst =
        d.object.watches.map Prod.fst := by
      have hfst : (d.object.watches.map Prod.fst)[i]? = some a := by
        rw [List.getElem?_map, hi]
        rfl
      obtain ⟨hi', hfst⟩ := List.getElem?_eq_some_iff.mp hfst
      rw [List.map_set, ← hfst]
      exact List.set_getElem_self hi'
    have hsent (b : String) : (if (Post.watch ⟨doId, session.user_id, session.tenant_id, a,
        pushUrl⟩).registers = some b then 1 else 0) = if a = b then 1 else 0 := by
      simp [Post.registers]
    constructor
    · exact h.ticket
    · exact h.listed
    · exact h.ours_posted rfl
    · intro b
      show _ ↔ _ ∨ b ∈ (d.object.watches.set i (a, .registration)).map Prod.fst
      rw [hwatches]
      exact h.wanted b
    · intro b
      have hbalance := h.balance b
      have hcount : (d.object.watches.set i (a, .registration)).count (b, .registration) =
          d.object.watches.count (b, .registration) + if a = b then 1 else 0 := by
        rw [List.count_set hlen, hget]
        simp
      show (d.posts ++ [_]).countP _ + d.answers.count b = _
      rw [Post.countP_registers_append, hsent, hcount]
      omega
    · refine List.pairwise_append.mpr ⟨h.order, List.pairwise_singleton _ _, ?_⟩
      intro p _ q hq b _
      obtain rfl := List.mem_singleton.mp hq
      exact id
    · intro b hb
      refine ⟨(h.live b hb).1, fun p hp => ?_⟩
      rcases (hmem p).mp hp with hp | rfl
      · exact (h.live b hb).2 p hp
      · exact id
    · intro b hb
      rcases h.held b hb with hw | hanswer | ⟨p, hp, hwithdraws⟩
      · exact .inl hw
      · exact .inr (.inl hanswer)
      · exact .inr (.inr ⟨p, (hmem p).mpr (.inl hp), hwithdraws⟩)
  · cases hstep

theorem Inv.served {j : ℕ} {env : Environment} (h : d.Inv doId session)
    (hturn : ∀ a, (d.posts[j]?).bind Post.registers = some a →
      ∀ i < j, ∀ p, d.posts[i]? = some p → ¬ p.Withdraws a)
    (hstep : d.step isUrl doId pushUrl session.tenant_id (.served j env) = some d') :
    d'.Inv doId session := by
  simp only [step] at hstep
  split at hstep
  · rename_i p hj
    split at hstep
    · rename_i hok
      obtain rfl := Option.some.inj hstep
      rw [hj, Option.bind_some] at hturn
      have hperm := perm_of_getElem? hj
      have hmem (q : Post) : q ∈ d.posts ↔ q = p ∨ q ∈ d.posts.eraseIdx j := by
        rw [hperm.mem_iff, List.mem_cons]
      obtain ⟨hlisted, henrolled⟩ :=
        h.listed.serve (h.ours p ((hmem p).mpr (.inl rfl))) hok
      have hanswer (b : String) :
          b ∈ d.answers ++ p.registers.toList ↔ b ∈ d.answers ∨ p.registers = some b := by
        simp
      constructor
      · exact h.ticket
      · exact hlisted
      · exact fun q hq => h.ours q ((hmem q).mpr (.inr hq))
      · exact h.wanted
      · intro b
        have hbalance := h.balance b
        rw [hperm.countP_eq, List.countP_cons] at hbalance
        have hcount : (d.answers ++ p.registers.toList).count b =
            d.answers.count b + if p.registers = some b then 1 else 0 := by
          rw [List.count_append]
          cases p.registers with
          | none => simp
          | some c => simp [List.count_singleton]
        simp only [decide_eq_true_eq] at hbalance
        show (d.posts.eraseIdx j).countP (fun q => q.registers = some b) +
          (d.answers ++ p.registers.toList).count b = d.object.watches.count (b, .registration)
        rw [hcount]
        omega
      · exact h.order.sublist (List.eraseIdx_sublist _ _)
      · intro b hb
        have hcases : (b ∈ d.object.watchedAlerts ∨ b ∈ d.answers) ∨ p.registers = some b := by
          rw [or_assoc, ← hanswer]
          exact hb
        rcases hcases with hold | hreg
        · obtain ⟨hin, hnone⟩ := h.live b hold
          refine ⟨(henrolled b).mpr (Post.enrols_iff.mpr (.inr ⟨?_, hin⟩)), fun q hq => ?_⟩
          · exact hnone p ((hmem p).mpr (.inl rfl))
          · exact hnone q ((hmem q).mpr (.inr hq))
        · refine ⟨(henrolled b).mpr (Post.enrols_iff.mpr (.inl hreg)), fun q hq => ?_⟩
          -- whatever was sent earlier has been served, and what was sent later is a watch
          obtain ⟨i, hne, hi⟩ := List.mem_eraseIdx_iff_getElem?.mp hq
          rcases Nat.lt_or_gt_of_ne hne with hlt | hlt
          · exact hturn b hreg i hlt q hi
          · obtain ⟨hi', rfl⟩ := List.getElem?_eq_some_iff.mp hi
            obtain ⟨hj', rfl⟩ := List.getElem?_eq_some_iff.mp hj
            exact List.pairwise_iff_getElem.mp h.order j i hj' hi' hlt b hreg
      · intro b hb
        rcases Post.enrols_iff.mp ((henrolled b).mp hb) with hreg | ⟨hkeep, hin⟩
        · exact .inr (.inl ((hanswer b).mpr (.inr hreg)))
        rcases h.held b hin with hw | hanswered | ⟨q, hq, hwithdraws⟩
        · exact .inl hw
        · exact .inr (.inl ((hanswer b).mpr (.inl hanswered)))
        · rcases (hmem q).mp hq with rfl | hq
          · exact absurd hwithdraws hkeep
          · exact .inr (.inr ⟨q, hq, hwithdraws⟩)
    · cases hstep
  · cases hstep

theorem Inv.registered {i : ℕ} (h : d.Inv doId session)
    (hstep : d.step isUrl doId pushUrl session.tenant_id (.registered i) = some d') :
    d'.Inv doId session := by
  simp only [step] at hstep
  split at hstep
  · rename_i a hi
    split at hstep
    · rename_i hanswered
      obtain rfl := Option.some.inj hstep
      -- the alert may be among the watched ones already
      obtain ⟨watched, hafter, hwatched⟩ : ∃ watched : List String,
          AnalystSession.afterRegistration doId i a true d.object =
            ({ d.object with watches := d.object.watches.eraseIdx i, watchedAlerts := watched },
              []) ∧
          ∀ b, b ∈ watched ↔ b = a ∨ b ∈ d.object.watchedAlerts := by
        by_cases hin : a ∈ d.object.watchedAlerts
        · refine ⟨d.object.watchedAlerts, by simp [AnalystSession.afterRegistration, hin],
            fun b => ⟨.inr, ?_⟩⟩
          rintro (rfl | hb)
          · exact hin
          · exact hb
        · refine ⟨d.object.watchedAlerts ++ [a],
            by simp [AnalystSession.afterRegistration, hin], fun b => ?_⟩
          rw [List.mem_append, List.mem_singleton, or_comm]
      simp only [handle, hafter, List.filterMap_nil, List.append_nil]
      have hperm := perm_of_getElem? hi
      constructor
      · exact h.ticket
      · exact h.listed
      · exact h.ours
      · intro b
        have hway : b ∈ d.object.watches.map Prod.fst ↔
            b = a ∨ b ∈ (d.object.watches.eraseIdx i).map Prod.fst := by
          rw [(hperm.map Prod.fst).mem_iff, List.map_cons, List.mem_cons]
        show _ ↔ b ∈ watched ∨ b ∈ (d.object.watches.eraseIdx i).map Prod.fst
        rw [h.wanted b, hway, hwatched]
        tauto
      · intro b
        have hbalance := h.balance b
        rw [hperm.count_eq, List.count_cons] at hbalance
        show d.posts.countP (fun q => q.registers = some b) + (d.answers.erase a).count b =
          (d.object.watches.eraseIdx i).count (b, .registration)
        rw [List.count_erase]
        by_cases hb : a = b
        · subst hb
          have hpos := List.count_pos_iff.mpr hanswered
          simp only [beq_self_eq_true, if_true] at hbalance ⊢
          omega
        · simp only [beq_iff_eq, Prod.mk.injEq, hb, false_and, if_false] at hbalance ⊢
          exact hbalance
      · exact h.order
      · rintro b (hb | hb)
        · rcases (hwatched b).mp hb with rfl | hb
          · exact h.live b (.inr hanswered)
          · exact h.live b (.inl hb)
        · exact h.live b (.inr (List.mem_of_mem_erase hb))
      · intro b hb
        rcases h.held b hb with hw | hanswer | hwithdraws
        · exact .inl ((hwatched b).mpr (.inr hw))
        · by_cases hba : b = a
          · exact .inl ((hwatched b).mpr (.inl hba))
          · exact .inr (.inl ((List.mem_erase_of_ne hba).mpr hanswer))
        · exact .inr (.inr hwithdraws)
    · cases hstep
  · cases hstep

theorem Inv.start (h : (deskSystem isUrl doId pushUrl session).start d) : d.Inv doId session := by
  obtain ⟨⟨ticket, sockets, hobject⟩, hposts, hanswers, hwanted, htyped, hnone, hdoAlerts, hfields⟩ := h
  constructor
  · rw [hobject]
    rfl
  · refine ⟨htyped, fun a => iff_of_false ?_ (hnone a), fun a ha => absurd ha (hnone a),
      fun hne => absurd hfields hne, fun a ha => absurd ha (hnone a)⟩
    rw [hdoAlerts]
    exact List.not_mem_nil
  · simp [hposts]
  · simp [hwanted, hobject, AnalystSession.accept, AnalystSession.fresh]
  · simp [hposts, hanswers, hobject, AnalystSession.accept, AnalystSession.fresh]
  · rw [hposts]
    exact .nil
  · simp [hanswers, hobject, AnalystSession.accept, AnalystSession.fresh]
  · exact fun a ha => absurd ha (hnone a)

/-- A step in turn keeps the invariant. -/
theorem Inv.step {st : Desk.Step} (h : d.Inv doId session) (hturn : d.InTurn st)
    (hstep : d.step isUrl doId pushUrl session.tenant_id st = some d') : d'.Inv doId session := by
  cases st with
  | watch a => exact h.watch hstep
  | unwatch a => exact h.unwatch hturn hstep
  | close now => exact h.close hturn hstep
  | snapshot i s => exact h.snapshot hstep
  | served j env => exact h.served hturn hstep
  | registered i => exact h.registered hstep

/-- With nothing under way, what is wanted is watched and registered. -/
theorem Inv.linear (h : d.Inv doId session) (hsettled : d.Settled) :
    d.Linear doId session.tenant_id := by
  obtain ⟨hwatches, hposts⟩ := hsettled
  intro a
  have hanswers : a ∉ d.answers := by
    intro ha
    have hway := h.under_way (.inl ha)
    rw [hwatches] at hway
    cases hway
  have hwanted : a ∈ d.object.watchedAlerts ↔ a ∈ d.wanted := by
    rw [h.wanted a, hwatches]
    simp
  have henrolled : Enrolled d.registry doId session.tenant_id a ↔ a ∈ d.object.watchedAlerts := by
    constructor
    · intro ha
      rcases h.held a ha with hw | hanswered | ⟨p, hp, -⟩
      · exact hw
      · exact absurd hanswered hanswers
      · rw [hposts] at hp
        cases hp
    · exact fun ha => (h.live a (.inl ha)).1
  exact ⟨hwanted, henrolled.trans hwanted, (h.listed.doAlerts a).trans (henrolled.trans hwanted)⟩

end Desk

/-! ## §4  Every run -/

/-- **Watches are linear** in a run whose steps are in turn: once it has come to rest, the object
watches and the BFF has registered what was watched last, and neither has anything after a
close. -/
theorem watches_linear (isUrl : String → Bool) (doId pushUrl : String)
    (session : TicketRedemption) {d : Desk}
    (h : (deskSystem isUrl doId pushUrl session).Reached Desk.InTurn d) (hsettled : d.Settled) :
    d.Linear doId session.tenant_id := by
  have hinv : d.Inv doId session :=
    h.invariant (fun _ => Desk.Inv.start) fun _ _ _ hd hturn hstep => hd.step hturn hstep
  exact hinv.linear hsettled

/-- An object of its own analyst, accepted before anything else happened. -/
def acceptedDesk : Desk :=
  ⟨(AnalystSession.accept "do" "ticket" ⟨"ann", "north", none⟩ (.fresh 0)).1, [], [],
    Registry.empty, []⟩

theorem start_acceptedDesk (isUrl : String → Bool) (pushUrl : String) :
    (deskSystem isUrl "do" pushUrl ⟨"ann", "north", none⟩).start acceptedDesk :=
  ⟨⟨"ticket", 0, rfl⟩, rfl, rfl, rfl, start_wellTyped, fun _ => List.not_mem_nil, rfl, rfl⟩

/-- A watch with all that follows it, and what comes while its snapshot is fetched. -/
def watchSteps (alertId : String) (meanwhile : List Desk.Step) : List Desk.Step :=
  .watch alertId :: meanwhile ++
    [.snapshot 0 ⟨0, none⟩, .served 0 ⟨1700000000, "token", 204⟩, .registered 0]

/-- The first alert is left while the second is being watched. -/
theorem watches_linear_overlap :
    ∃ d, (deskSystem (fun _ => true) "do" "https://gateway/push" ⟨"ann", "north", none⟩).run
        acceptedDesk (watchSteps "a1" [] ++
          watchSteps "a2" [.unwatch "a1", .served 0 ⟨1700000000, "token", 204⟩]) = some d ∧
      d.wanted = ["a2"] ∧ d.Linear "do" "north" := by
  have hrun : ∃ d, (deskSystem (fun _ => true) "do" "https://gateway/push"
      ⟨"ann", "north", none⟩).run acceptedDesk (watchSteps "a1" [] ++
        watchSteps "a2" [.unwatch "a1", .served 0 ⟨1700000000, "token", 204⟩]) = some d ∧
      d.Settled ∧ d.wanted = ["a2"] := ⟨_, rfl, ⟨rfl, rfl⟩, rfl⟩
  obtain ⟨d, hd, hsettled, hwanted⟩ := hrun
  refine ⟨d, hd, hwanted, watches_linear (fun _ => true) "do" "https://gateway/push"
    ⟨"ann", "north", none⟩ (System.Meets.reached ?_ (.start (start_acceptedDesk _ _)) hd) hsettled⟩
  -- nothing is on its way before what is served
  have hfirst (d : Desk) (env : Environment) : d.InTurn (.served 0 env) :=
    fun _ _ i hi => absurd hi (Nat.not_lt_zero i)
  refine ⟨trivial, fun s₁ h₁ => ⟨trivial, fun s₂ h₂ => ⟨hfirst _ _, fun s₃ h₃ => ⟨trivial,
    fun s₄ h₄ => ⟨trivial, fun s₅ h₅ => ⟨?_, fun s₆ _ => ⟨hfirst _ _, fun s₇ _ => ⟨trivial,
    fun s₈ _ => ⟨hfirst _ _, fun s₉ _ => ⟨trivial, fun s₁₀ _ => trivial⟩⟩⟩⟩⟩⟩⟩⟩⟩⟩
  obtain rfl := Option.some.inj h₁
  obtain rfl := Option.some.inj h₂
  obtain rfl := Option.some.inj h₃
  obtain rfl := Option.some.inj h₄
  obtain rfl := Option.some.inj h₅
  show "a1" ∉ ["a2"]
  decide

/-- An alert that is left while it is being watched stays watched. -/
theorem unwatch_overtaken :
    ¬ ∀ (isUrl : String → Bool) (doId pushUrl : String) (session : TicketRedemption) (d : Desk),
      (deskSystem isUrl doId pushUrl session).Reachable d → d.Settled →
        d.Linear doId session.tenant_id := by
  intro h
  have hrun : ∃ d, (deskSystem (fun _ => true) "do" "https://gateway/push"
      ⟨"ann", "north", none⟩).run acceptedDesk (watchSteps "a1" [.unwatch "a1"]) = some d ∧
      d.Settled ∧ d.wanted = [] ∧ d.object.watchedAlerts = ["a1"] :=
    ⟨_, rfl, ⟨rfl, rfl⟩, rfl, rfl⟩
  obtain ⟨d, hd, hsettled, hwanted, hwatched⟩ := hrun
  have hreached := System.reached_of_run
    (.start (start_acceptedDesk (fun _ => true) "https://gateway/push")) hd
  have hlinear := (h _ _ _ _ d hreached hsettled "a1").1
  rw [hwanted, hwatched] at hlinear
  exact absurd (hlinear.mp List.mem_cons_self) List.not_mem_nil

end AlertTriage.Gateway
