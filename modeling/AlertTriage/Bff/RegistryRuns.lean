import AlertTriage.Bff.EventFanout
import AlertTriage.Library.Transition

/-!
# Runs of the watcher registry

Any number of operations run side by side against one Redis server: a step
starts one, advances one by one call, or lets time pass. What a step does to
the store is a `Move`: it applies one block, or time passes, or nothing happens.

§1 the operations, §2 the steps and their moves, §3 what each block leaves under
each kind of key.
-/

namespace AlertTriage.Bff

open Library

/-! ## §1  Operations -/

structure Response where
  status : ℕ
  error : Option String
deriving DecidableEq, Repr

/-- The length of a string in 16-bit units. -/
def utf16Length (s : String) : ℕ := (Url.utf16 s.toList).length

/-- `z.string().min(1).max(bound)` of a field. -/
def zString (bound : ℕ) (key : String) (body : Json) : Option String :=
  match body.asObj?.bind (Json.lookup key) with
  | some (.str s) =>
      if 1 ≤ utf16Length s ∧ utf16Length s ≤ bound then some s else none
  | _ => none

def invalidRequest : Response := ⟨400, some "invalid_request"⟩

section Routes

variable (isUrl : String → Bool)

/-- `POST /api/internal/watch`, for the tenant of the verified token or the
refusal of the guard. The body is absent when it is no JSON. -/
def postWatch (claims : Except Response String) (body : Option Json) :
    Task Response :=
  match claims with
  | .error refusal => pure refusal
  | .ok tid =>
      let parsed : Option (String × String × String × String × String) := do
        let body ← body
        let doId ← zString 128 "do_id" body
        let userId ← zString 128 "user_id" body
        let tenantId ← zString 128 "tenant_id" body
        let alertId ← zString 256 "alert_id" body
        let pushUrl ← zString 512 "push_url" body
        if isUrl pushUrl then some (doId, userId, tenantId, alertId, pushUrl) else none
      match parsed with
      | none => pure invalidRequest
      | some (doId, userId, tenantId, alertId, pushUrl) =>
          if tid ≠ tenantId then pure ⟨403, some "tenant_mismatch"⟩
          else do
            registerWatch doId userId tid alertId pushUrl none
            pure ⟨200, none⟩

/-- `POST /api/internal/unwatch`. -/
def postUnwatch (claims : Except Response String) (body : Option Json) :
    Task Response :=
  match claims with
  | .error refusal => pure refusal
  | .ok tid =>
      match body.bind (zString 128 "do_id"), body.bind (zString 256 "alert_id") with
      | some doId, some alertId => do
          deregisterWatch doId alertId (some tid)
          pure ⟨200, none⟩
      | _, _ => pure invalidRequest

/-- `POST /api/internal/disconnect`. -/
def postDisconnect (claims : Except Response String) (body : Option Json) :
    Task Response :=
  match claims with
  | .error refusal => pure refusal
  | .ok _ =>
      match body.bind (zString 128 "do_id"), body.bind (zString 128 "user_id") with
      | some doId, some _ => do
          deregisterDo doId
          pure ⟨200, none⟩
      | _, _ => pure invalidRequest

inductive Operation where
  | registerWatch (doId userId tenantId alertId pushUrl : String)
      (ttlSeconds : Option ℕ)
  | deregisterWatch (doId alertId : String) (tenantId : Option String)
  | deregisterDo (doId : String)
  | pruneDoEverywhere (doId : String)
  | refreshTtl (doId alertId tenantId : String) (ttlSeconds : Option ℕ)
  | watchersForAlert (tenantId alertId : String)
  | dosForUser (tenantId userId : String)
  | pushWithRetry (p : Push)
  | postWatch (claims : Except Response String) (body : Option Json)
  | postUnwatch (claims : Except Response String) (body : Option Json)
  | postDisconnect (claims : Except Response String) (body : Option Json)

/-- A program for its effect on the registry alone. -/
def forEffect {α : Type} (x : Task α) : Task (List WatcherMeta) := do
  let _ ← x
  pure []

/-- The program of an operation, with what a lookup finds. -/
def Operation.program : Operation → Task (List WatcherMeta)
  | .registerWatch d u t a url ttl => forEffect (Bff.registerWatch d u t a url ttl)
  | .deregisterWatch d a t => forEffect (Bff.deregisterWatch d a t)
  | .deregisterDo d => forEffect (Bff.deregisterDo d)
  | .pruneDoEverywhere d => forEffect (Bff.pruneDoEverywhere d)
  | .refreshTtl d a t ttl => forEffect (Bff.refreshTtl d a t ttl)
  | .watchersForAlert t a => Bff.watchersForAlert t a
  | .dosForUser t u => Bff.dosForUser t u
  | .pushWithRetry p => forEffect (Bff.pushWithRetry p)
  | .postWatch claims body => forEffect (Bff.postWatch isUrl claims body)
  | .postUnwatch claims body => forEffect (Bff.postUnwatch claims body)
  | .postDisconnect claims body => forEffect (Bff.postDisconnect claims body)

end Routes

/-! ## §2  Steps and moves -/

/-- The store, and every operation begun with what is left of its program. -/
structure Fleet where
  registry : Registry
  tasks : List (Operation × Task (List WatcherMeta))

def Fleet.start : Fleet := ⟨Registry.empty, []⟩

inductive Label where
  | begin (op : Operation)
  | advance (i : ℕ) (o : Outcome) (env : Environment)
  | pass (d : ℕ)

def Fleet.step (isUrl : String → Bool) (s : Fleet) : Label → Option Fleet
  | .begin op => some { s with tasks := s.tasks ++ [(op, op.program isUrl)] }
  | .advance i o env =>
      (s.tasks[i]?).map fun task =>
        let next := task.2.resume (answer env) o s.registry
        { registry := next.2, tasks := s.tasks.set i (task.1, next.1) }
  | .pass d => some { s with registry := s.registry.pass d }

def registrySystem (isUrl : String → Bool) : System Fleet Label where
  start := (· = Fleet.start)
  step := Fleet.step isUrl

inductive Move where
  | apply (block : Transaction)
  | pass (d : ℕ)

def Registry.move (r : Registry) : Move → Registry
  | .apply block => r.apply block
  | .pass d => r.pass d

/-- What the next call of a program does to the store if it gets there. -/
def nextBlock : Task (List WatcherMeta) → Option Transaction
  | .call (.exec block) _ => some block
  | _ => none

/-- What the step does to the store. -/
def Fleet.moveOf (s : Fleet) : Label → Option Move
  | .begin _ => none
  | .advance i o _ =>
      if o.applied then
        ((s.tasks[i]?).bind fun task => nextBlock task.2).map Move.apply
      else none
  | .pass d => some (.pass d)

/-- **One step is one move.** -/
theorem step_registry {isUrl : String → Bool} {s s' : Fleet} {l : Label}
    (h : s.step isUrl l = some s') :
    s'.registry = (s.moveOf l).elim s.registry s.registry.move := by
  cases l with
  | begin op =>
      obtain rfl := Option.some.inj h
      rfl
  | pass d =>
      obtain rfl := Option.some.inj h
      rfl
  | advance i o env =>
      simp only [Fleet.step, Option.map_eq_some_iff] at h
      obtain ⟨⟨op, x⟩, hi, rfl⟩ := h
      simp only [Fleet.moveOf, hi, Option.bind_some]
      cases x with
      | pure a => simp [nextBlock, Async.resume]
      | raise => simp [nextBlock, Async.resume]
      | call c next =>
          cases c with
          | exec block =>
              cases o with
              | returned => rfl
              | raised applied => cases applied <;> rfl
              | killed applied => cases applied <;> rfl
          | _ =>
              cases o with
              | returned => rfl
              | raised applied => cases applied <;> rfl
              | killed applied => cases applied <;> rfl

/-! ## §3  What a move leaves -/

/-- Hashes under the metadata keys, sets under the others, nothing empty. -/
def Registry.WellTyped (r : Registry) : Prop := r.store.WellTyped IsMetaKey

theorem commands_wellTyped (b : Transaction) :
    ∀ c ∈ b.commands, c.WellTyped IsMetaKey := by
  cases b with
  | registerWatch d u t a url ttl now =>
      simp [Transaction.commands, Keyspace.Command.WellTyped]
  | deregisterWatch t d a =>
      simp only [Transaction.commands]
      split <;> simp [Keyspace.Command.WellTyped]
  | deregisterDo d info alertIds =>
      simp only [Transaction.commands, List.mem_append, List.mem_map]
      rintro c (⟨a, -, rfl⟩ | hc)
      · exact not_isMetaKey_alert _ _
      · simp only [List.mem_cons, List.not_mem_nil, or_false] at hc
        rcases hc with rfl | rfl | rfl
        · exact not_isMetaKey_user _ _
        · trivial
        · trivial
  | refreshTtl d a t ttl now =>
      simp [Transaction.commands, Keyspace.Command.WellTyped]

theorem Registry.WellTyped.move {r : Registry} (hr : r.WellTyped) (m : Move) :
    (r.move m).WellTyped := by
  cases m with
  | apply b => exact Keyspace.WellTyped.multi hr (commands_wellTyped b)
  | pass d => exact hr

section Blocks

variable {r : Registry} (hr : r.WellTyped)
include hr

theorem members_apply (b : Transaction) {key : String} (hkey : ¬ IsMetaKey key) :
    (r.apply b).members key =
      b.commands.foldl (fun l c => c.members key l) (r.members key) :=
  Keyspace.smembers_multi hr (commands_wellTyped b) hkey

theorem fields_apply (b : Transaction) (d : String) :
    (r.apply b).fields d =
      b.commands.foldl (fun l c => c.fields (k.meta d) l) (r.fields d) :=
  Keyspace.hgetall_multi hr (commands_wellTyped b) (isMetaKey_meta d)

theorem fields_registerWatch (d' d u t a url : String) (ttl now : ℕ) :
    (r.apply (.registerWatch d u t a url ttl now)).fields d' =
      if d' = d then
        if ttl = 0 then [] else
          Keyspace.mergeFields [("user_id", u), ("tenant_id", t), ("push_url", url),
            ("last_seen_epoch", toString now)] (r.fields d')
      else r.fields d' := by
  rw [fields_apply hr]
  by_cases h : d' = d <;>
    simp [Transaction.commands, Keyspace.Command.fields, h]

theorem alert_registerWatch (t' a' d u t a url : String) (ttl now : ℕ) :
    (r.apply (.registerWatch d u t a url ttl now)).members (k.alert t' a') =
      if k.alert t' a' = k.alert t a then
        if ttl = 0 then [] else Keyspace.addMember d (r.members (k.alert t' a'))
      else r.members (k.alert t' a') := by
  rw [members_apply hr _ (not_isMetaKey_alert t' a')]
  by_cases h : k.alert t' a' = k.alert t a <;>
    simp [Transaction.commands, Keyspace.Command.members, h]

theorem user_registerWatch (t' u' d u t a url : String) (ttl now : ℕ) :
    (r.apply (.registerWatch d u t a url ttl now)).members (k.user t' u') =
      if k.user t' u' = k.user t u then
        if ttl = 0 then [] else Keyspace.addMember d (r.members (k.user t' u'))
      else r.members (k.user t' u') := by
  rw [members_apply hr _ (not_isMetaKey_user t' u')]
  by_cases h : k.user t' u' = k.user t u <;>
    simp [Transaction.commands, Keyspace.Command.members, h]

theorem fields_deregisterWatch (d' : String) (t : Option String) (d a : String) :
    (r.apply (.deregisterWatch t d a)).fields d' = r.fields d' := by
  rw [fields_apply hr]
  simp only [Transaction.commands]
  split <;> simp [Keyspace.Command.fields]

theorem alert_deregisterWatch {d' t' a' : String} {t : Option String}
    {d a : String}
    (h : d' ∈ (r.apply (.deregisterWatch t d a)).members (k.alert t' a')) :
    d' ∈ r.members (k.alert t' a') := by
  rw [members_apply hr _ (not_isMetaKey_alert t' a')] at h
  refine (Keyspace.mem_foldl_srem ?_ _ (m := d)).1 h
  intro c hc hk
  simp only [Transaction.commands, List.mem_append, List.mem_singleton] at hc
  rcases hc with hc | rfl
  · split at hc
    · obtain rfl := List.mem_singleton.mp hc
      exact congrArg (Keyspace.Command.srem · d) hk.symm
    · cases hc
  · exact absurd hk (alert_ne_doAlerts _ _ _)

theorem user_deregisterWatch (t' u' : String) (t : Option String) (d a : String) :
    (r.apply (.deregisterWatch t d a)).members (k.user t' u') =
      r.members (k.user t' u') := by
  rw [members_apply hr _ (not_isMetaKey_user t' u')]
  simp only [Transaction.commands]
  split <;> simp [Keyspace.Command.members]

theorem fields_deregisterDo (d' d : String) (info : WatcherMeta)
    (as : List String) :
    (r.apply (.deregisterDo d info as)).fields d' =
      if d' = d then [] else r.fields d' := by
  have hsrem : ∀ c ∈ as.map (fun a =>
      Keyspace.Command.srem (k.alert info.tenant_id a) d), k.meta d' ≠ c.key := by
    intro c hc
    obtain ⟨a, -, rfl⟩ := List.mem_map.mp hc
    exact meta_ne_alert _ _ _
  rw [fields_apply hr, Transaction.commands, List.foldl_append,
    Keyspace.fields_foldl_of_ne hsrem]
  by_cases h : d' = d <;> simp [Keyspace.Command.fields, h]

/-- A removal takes its object, and no other, out of sets. -/
theorem members_deregisterDo {d' key d : String} {info : WatcherMeta}
    {as : List String} (hkey : ¬ IsMetaKey key) (hdo : key ≠ k.doAlerts d) :
    (d' ∈ (r.apply (.deregisterDo d info as)).members key → d' ∈ r.members key) ∧
    (d' ≠ d → d' ∈ r.members key →
      d' ∈ (r.apply (.deregisterDo d info as)).members key) := by
  rw [members_apply hr _ hkey]
  refine Keyspace.mem_foldl_srem ?_ _
  intro c hc hk
  simp only [Transaction.commands, List.mem_append, List.mem_map, List.mem_cons,
    List.not_mem_nil, or_false] at hc
  rcases hc with ⟨a, -, rfl⟩ | rfl | rfl | rfl
  · exact congrArg (Keyspace.Command.srem · d) hk.symm
  · exact congrArg (Keyspace.Command.srem · d) hk.symm
  · subst hk
    exact absurd (isMetaKey_meta d) hkey
  · exact absurd hk hdo

theorem fields_refreshTtl (d' d a t : String) (ttl now : ℕ) :
    (r.apply (.refreshTtl d a t ttl now)).fields d' =
      if d' = d then
        Keyspace.mergeFields [("last_seen_epoch", toString now)]
          (if ttl = 0 then [] else r.fields d')
      else r.fields d' := by
  rw [fields_apply hr]
  by_cases h : d' = d <;>
    simp [Transaction.commands, Keyspace.Command.fields, h]

theorem alert_refreshTtl (t' a' d a t : String) (ttl now : ℕ) :
    (r.apply (.refreshTtl d a t ttl now)).members (k.alert t' a') =
      if k.alert t' a' = k.alert t a ∧ ttl = 0 then []
      else r.members (k.alert t' a') := by
  rw [members_apply hr _ (not_isMetaKey_alert t' a')]
  simp [Transaction.commands, Keyspace.Command.members]

theorem user_refreshTtl (t' u' d a t : String) (ttl now : ℕ) :
    (r.apply (.refreshTtl d a t ttl now)).members (k.user t' u') =
      r.members (k.user t' u') := by
  rw [members_apply hr _ (not_isMetaKey_user t' u')]
  simp [Transaction.commands, Keyspace.Command.members]

end Blocks

/-! ### Time -/

def Registry.view (r : Registry) (key : String) : Option (Entry Collection) :=
  Keyspace.view r.clock key r.store

theorem view_pass (r : Registry) (d : ℕ) (key : String) :
    (r.pass d).view key = (r.view key).filter (Entry.live (r.clock + d)) :=
  Keyspace.view_advance r.clock d key r.store

theorem view_apply (r : Registry) (b : Transaction) (key : String) :
    (r.apply b).view key =
      b.commands.foldl (Keyspace.Command.updateAt r.clock key) (r.view key) :=
  Keyspace.view_multi r.clock key b.commands r.store

/-- The move ends the lifetime of the key. -/
def Registry.Expires (r : Registry) (key : String) : Move → Prop
  | .apply block => .expire key 0 ∈ block.commands
  | .pass d => ∃ e, r.view key = some e ∧ e.live (r.clock + d) = false

theorem view_pass_of_expires {r : Registry} {key : String} {d : ℕ}
    (h : r.Expires key (.pass d)) : (r.pass d).view key = none := by
  obtain ⟨e, he, hlive⟩ := h
  rw [view_pass, he, Option.filter_some, hlive]
  rfl

theorem view_pass_of_not_expires {r : Registry} {key : String} {d : ℕ}
    (h : ¬ r.Expires key (.pass d)) : (r.pass d).view key = r.view key := by
  rw [view_pass]
  cases hv : r.view key with
  | none => rfl
  | some e =>
      have hlive : e.live (r.clock + d) = true := by
        by_contra hdead
        exact h ⟨e, hv, by simpa using hdead⟩
      rw [Option.filter_some, hlive, if_pos rfl]

theorem mem_members_pass {r : Registry} {key d : String} {n : ℕ} :
    d ∈ (r.pass n).members key ↔
      d ∈ r.members key ∧ ¬ r.Expires key (.pass n) := by
  by_cases h : r.Expires key (.pass n)
  · have hnone : (r.pass n).members key = [] :=
      congrArg Keyspace.membersOf (view_pass_of_expires h)
    simp [hnone, h]
  · have hsame : (r.pass n).members key = r.members key :=
      congrArg Keyspace.membersOf (view_pass_of_not_expires h)
    simp [hsame, h]

theorem fields_pass (r : Registry) (n : ℕ) (d : String) :
    ((r.pass n).fields d = [] ∧ r.Expires (k.meta d) (.pass n)) ∨
      ((r.pass n).fields d = r.fields d ∧ ¬ r.Expires (k.meta d) (.pass n)) := by
  by_cases h : r.Expires (k.meta d) (.pass n)
  · exact .inl ⟨congrArg Keyspace.fieldsOf (view_pass_of_expires h), h⟩
  · exact .inr ⟨congrArg Keyspace.fieldsOf (view_pass_of_not_expires h), h⟩

/-- Fields that are there after a move are as they were, unless the move wrote
to them. -/
theorem fields_move {r : Registry} (hr : r.WellTyped) {d : String} {m : Move}
    (h : (r.move m).fields d ≠ [])
    (hreg : ∀ u t a url ttl now, m ≠ .apply (.registerWatch d u t a url ttl now))
    (href : ∀ a t ttl now, m ≠ .apply (.refreshTtl d a t ttl now)) :
    (r.move m).fields d = r.fields d := by
  cases m with
  | pass n =>
      rcases fields_pass r n d with ⟨hnil, -⟩ | ⟨hsame, -⟩
      · exact absurd hnil h
      · exact hsame
  | apply b =>
      cases b with
      | registerWatch d' u t a url ttl now =>
          refine (fields_registerWatch hr ..).trans (if_neg ?_)
          rintro rfl
          exact hreg u t a url ttl now rfl
      | deregisterWatch t' d' a' => exact fields_deregisterWatch hr d t' d' a'
      | deregisterDo d' info as =>
          have hf := fields_deregisterDo hr d d' info as
          split at hf
          · exact absurd hf h
          · exact hf
      | refreshTtl d' a t ttl now =>
          refine (fields_refreshTtl hr ..).trans (if_neg ?_)
          rintro rfl
          exact href a t ttl now rfl

/-- Who is found for an alert after a move was there before, or has just been
registered. -/
theorem mem_alert_move {r : Registry} (hr : r.WellTyped) {m : Move}
    {d t a : String} (h : d ∈ (r.move m).members (k.alert t a)) :
    d ∈ r.members (k.alert t a) ∧ ¬ r.Expires (k.alert t a) m ∨
      ∃ u t' a' url ttl now, k.alert t a = k.alert t' a' ∧ ttl ≠ 0 ∧
        m = .apply (.registerWatch d u t' a' url ttl now) := by
  cases m with
  | pass n => exact .inl (mem_members_pass.mp h)
  | apply b =>
      cases b with
      | registerWatch d' u t' a' url ttl now =>
          rw [Registry.move, alert_registerWatch hr] at h
          by_cases hk : k.alert t a = k.alert t' a'
          · rw [if_pos hk] at h
            split at h
            · cases h
            · rename_i hpos
              rcases Keyspace.mem_addMember.mp h with rfl | h
              · exact .inr ⟨u, t', a', url, ttl, now, hk, hpos, rfl⟩
              · refine .inl ⟨h, ?_⟩
                simp [Registry.Expires, Transaction.commands, Ne.symm hpos]
          · rw [if_neg hk] at h
            refine .inl ⟨h, ?_⟩
            simp [Registry.Expires, Transaction.commands, hk]
      | deregisterWatch t' d' a' =>
          refine .inl ⟨alert_deregisterWatch hr h, ?_⟩
          simp only [Registry.Expires, Transaction.commands, List.mem_append]
          split <;> simp
      | deregisterDo d' info as =>
          refine .inl ⟨(members_deregisterDo hr (not_isMetaKey_alert t a)
            (alert_ne_doAlerts t a d')).1 h, ?_⟩
          simp [Registry.Expires, Transaction.commands]
      | refreshTtl d' a' t' ttl now =>
          rw [Registry.move, alert_refreshTtl hr] at h
          split at h
          · cases h
          · rename_i hk
            refine .inl ⟨h, ?_⟩
            intro hexp
            simp [Registry.Expires, Transaction.commands] at hexp
            exact hk ⟨hexp.1, hexp.2.symm⟩

/-! ## §4  Lookups, and runs that keep a property -/

/-- What a lookup finds when nothing interrupts it. -/
def Registry.found (r : Registry) (lookup : Task (List WatcherMeta)) :
    List WatcherMeta :=
  ((lookup.run (answer ⟨0, "", 0⟩) r).1).getD []

theorem mem_found {r : Registry} {key : String} {w : WatcherMeta} :
    w ∈ r.found (watchersUnder key) ↔
      w.do_id ∈ r.members key ∧ r.infoOf w.do_id = some w := by
  have hrun : r.found (watchersUnder key) = (r.members key).filterMap r.infoOf := by
    rw [Registry.found, watchersUnder_run]
    rfl
  rw [hrun, List.mem_filterMap]
  constructor
  · rintro ⟨d, hd, hw⟩
    have hid : w.do_id = d := by
      unfold Registry.infoOf WatcherMeta.ofHash at hw
      split at hw
      · cases hw
      · exact (congrArg WatcherMeta.do_id (Option.some.inj hw)).symm
    subst hid
    exact ⟨hd, hw⟩
  · rintro ⟨hd, hw⟩
    exact ⟨w.do_id, hd, hw⟩

theorem infoOf_isSome {r : Registry} {d : String} :
    (r.infoOf d).isSome ↔ r.fields d ≠ [] := by
  unfold Registry.infoOf WatcherMeta.ofHash
  split
  · rename_i h
    simp [h]
  · rename_i h
    simp [h]

/-- The tenant in the fields of an object, `""` if there is none. -/
def Registry.tenantOf (r : Registry) (d : String) : String :=
  (Json.lookup "tenant_id" (r.fields d)).getD ""

theorem infoOf_of_fields {r : Registry} {d : String} (h : r.fields d ≠ []) :
    ∃ w, r.infoOf d = some w ∧ w.do_id = d ∧ w.tenant_id = r.tenantOf d :=
  ⟨_, if_neg h, rfl, rfl⟩

theorem start_wellTyped : Fleet.start.registry.WellTyped := Keyspace.WellTyped.empty

/-- **Runs of the registry**: where a move keeps `P` exactly under `C`, a run
from the empty store has `P` throughout exactly when its moves meet `C`. -/
theorem registry_throughout_iff (isUrl : String → Bool) {P : Registry → Prop}
    {C : Registry → Move → Prop}
    (hP : ∀ r m, r.WellTyped → P r → (C r m ↔ P (r.move m)))
    (h0 : P Registry.empty) (as : List Label) :
    (registrySystem isUrl).Throughout (fun s => P s.registry) Fleet.start as ↔
      (registrySystem isUrl).Meets
        (fun s l => ∀ m, s.moveOf l = some m → C s.registry m) Fleet.start as := by
  refine System.throughout_iff_meets (I := fun s => s.registry.WellTyped)
    ?_ ?_ start_wellTyped h0
  · intro s l s' h hs
    rw [step_registry h]
    cases s.moveOf l with
    | none => exact hs
    | some m => exact hs.move m
  · intro s l hs hp
    constructor
    · intro hc s' h
      show P s'.registry
      rw [step_registry h]
      cases hm : s.moveOf l with
      | none => exact hp
      | some m => exact (hP _ m hs hp).mp (hc m hm)
    · intro hnext m hm
      -- a label that cannot be taken makes no move
      cases hstep : s.step isUrl l with
      | none =>
          cases l with
          | begin op => cases hstep
          | pass d => cases hstep
          | advance i o env =>
              have hi : s.tasks[i]? = none := by
                simpa [Fleet.step] using hstep
              simp [Fleet.moveOf, hi] at hm
      | some s' =>
          have hp' := hnext s' hstep
          rw [step_registry hstep, hm] at hp'
          exact (hP _ m hs hp).mpr hp'

end AlertTriage.Bff
