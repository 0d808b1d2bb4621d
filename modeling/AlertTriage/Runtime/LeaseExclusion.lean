import AlertTriage.Runtime.ReconcilerSteps

/-!
# The lease of an entry

`SET NX EX` gives an entry to one reconciler, and as long as every holder is done
before its lease runs out nobody else is at work on it (`LeaseInv`): the release
removes only the owner's own lease, so a late one does not take a successor's away.
`mark_published` removes the entry together with the lease, in one command, so
whoever gets the lease next finds no entry until it is written again, and between two
acknowledged publishes there is a `write_ahead` (`lease_excludes`).
-/

namespace AlertTriage

open Library

variable {ι : Type}

/-! ## §1  Holders -/

/-- The condition on a step, for one alert: no holder of its lease outlives it, and
the ingest path does not mark it published. -/
def InTime (cfg : ι → IngestReconciler) (alertId : String) (s : Fleet ι) :
    FleetStep ι → Prop
  | .tick d => ∀ i t, s.turns i = some t → t.alertId = alertId → t.point.Holds →
      s.world.now + d < t.since + (cfg i).lease * second
  | .markPublished _ id => id ≠ alertId
  | _ => True

/-- Who is at work on an entry holds its lease, and the lease has not run out. -/
structure LeaseInv (cfg : ι → IngestReconciler) (alertId : String) (s : Fleet ι) :
    Prop where
  leased : ∀ i t, s.turns i = some t → t.alertId = alertId → t.point.Holds →
    ∀ τ, τ < t.since + (cfg i).lease * second →
      s.world.redis.get τ (leaseKey alertId) = some (.text (cfg i).owner)
  inTime : ∀ i t, s.turns i = some t → t.alertId = alertId → t.point.Holds →
    s.world.now < t.since + (cfg i).lease * second

variable {cfg : ι → IngestReconciler} {alertId : String} {s s' : Fleet ι}

/-- The lease key is taken while somebody is at work. -/
theorem LeaseInv.lookup (h : LeaseInv cfg alertId s) {i : ι} {t : Turn}
    (ht : s.turns i = some t) (hid : t.alertId = alertId) (hp : t.point.Holds) :
    s.world.lookup (leaseKey alertId) = some (.text (cfg i).owner) :=
  h.leased i t ht hid hp _ (h.inTime i t ht hid hp)

/-- **Exclusion**: two reconcilers at work on one entry are the same. -/
theorem LeaseInv.exclusive (h : LeaseInv cfg alertId s)
    (howner : ∀ i j, (cfg i).owner = (cfg j).owner → i = j) {i j : ι} {t u : Turn}
    (hi : s.turns i = some t) (hj : s.turns j = some u) (hti : t.alertId = alertId)
    (huj : u.alertId = alertId) (hp : t.point.Holds) (hq : u.point.Holds) : i = j := by
  have heq := (h.lookup hi hti hp).symm.trans (h.lookup hj huj hq)
  apply howner
  simpa using heq

/-- A step that leaves the key and the clock alone, and adds no holder. -/
theorem LeaseInv.of_frame (h : LeaseInv cfg alertId s)
    (hturns : ∀ i t, s'.turns i = some t → t.alertId = alertId → t.point.Holds →
      ∃ u, s.turns i = some u ∧ u.alertId = alertId ∧ u.point.Holds ∧
        u.since = t.since)
    (hkey : ∀ i t, s'.turns i = some t → t.alertId = alertId → t.point.Holds → ∀ τ,
      s'.world.redis.get τ (leaseKey alertId) = s.world.redis.get τ (leaseKey alertId))
    (hnow : s'.world.now = s.world.now) : LeaseInv cfg alertId s' := by
  constructor
  · intro i t ht hid hp τ hτ
    obtain ⟨u, hu, huid, hup, hsince⟩ := hturns i t ht hid hp
    rw [hkey i t ht hid hp]
    exact h.leased i u hu huid hup τ (hsince ▸ hτ)
  · intro i t ht hid hp
    obtain ⟨u, hu, huid, hup, hsince⟩ := hturns i t ht hid hp
    rw [hnow, ← hsince]
    exact h.inTime i u hu huid hup

variable [DecidableEq ι]

theorem LeaseInv.lease (h : LeaseInv cfg alertId s) {i : ι} {id : String}
    (hstep : fleetStep cfg s (.lease i id) = some s') : LeaseInv cfg alertId s' := by
  simp only [fleetStep] at hstep
  split at hstep
  swap
  · cases hstep
  rename_i hcan
  obtain rfl := Option.some.inj hstep
  by_cases hheld : (s.world.lookup (leaseKey id)).isSome = true
  · -- the lease is another's
    simp only [World.setNxEx, if_pos hheld]
    exact ⟨h.leased, h.inTime⟩
  simp only [World.setNxEx, if_neg hheld]
  by_cases hid : id = alertId
  · subst hid
    have hnone (j : ι) (u : Turn) (hu : s.turns j = some u) (huid : u.alertId = id)
        (hup : u.point.Holds) : False := by
      rw [h.lookup hu huid hup] at hheld
      exact hheld rfl
    constructor
    · intro j u hu huid hup τ hτ
      rcases turn_update hu with ⟨rfl, hx⟩ | ⟨-, hu⟩
      · obtain rfl := Option.some.inj hx
        exact TtlStore.get_setEx_of_lt hτ
      · exact (hnone j u hu huid hup).elim
    · intro j u hu huid hup
      rcases turn_update hu with ⟨rfl, hx⟩ | ⟨-, hu⟩
      · obtain rfl := Option.some.inj hx
        exact Nat.lt_add_of_pos_right (Nat.mul_pos hcan.2.1 (by decide))
      · exact (hnone j u hu huid hup).elim
  · refine h.of_frame ?_ ?_ rfl
    · intro j u hu huid hup
      rcases turn_update hu with ⟨rfl, hx⟩ | ⟨-, hu⟩
      · obtain rfl := Option.some.inj hx
        exact absurd huid hid
      · exact ⟨u, hu, huid, hup, rfl⟩
    · intro _ _ _ _ _ τ
      exact TtlStore.get_setEx_ne fun heq => hid (leaseKey_injective heq).symm

theorem leaseKey_notMem_writes {p : Point} {id : String}
    (h : id ≠ alertId ∨ p ≠ .marking) : leaseKey alertId ∉ p.writes id := by
  have h1 := pendingKey_ne_leaseKey id alertId
  have h2 := leaseKey_ne_attemptsKey alertId id
  have h3 := leaseKey_ne_nextAfterKey alertId id
  cases p with
  | marking =>
      have hid : id ≠ alertId := h.resolve_right fun hp => hp rfl
      have h4 : leaseKey alertId ≠ leaseKey id := fun heq =>
        hid (leaseKey_injective heq).symm
      simp [Point.writes, h1.symm, h2, h4]
  | _ => simp [Point.writes, h1.symm, h2, h3]

theorem LeaseInv.go (h : LeaseInv cfg alertId s)
    (howner : ∀ i j, (cfg i).owner = (cfg j).owner → i = j) {i : ι} {c : Connection}
    {publish : PublishEnv} {dlq : Outcome}
    (hstep : fleetStep cfg s (.go i c publish dlq) = some s') :
    LeaseInv cfg alertId s' := by
  cases ht : s.turns i with
  | none => simp [fleetStep, ht] at hstep
  | some t =>
      rw [fleetStep_go ht] at hstep
      obtain rfl := Option.some.inj hstep
      -- whoever else is at work keeps its turn
      have others (x : Option Turn) {j : ι} {u : Turn}
          (hu : Function.update s.turns i x j = some u) (hx : x = some u → False) :
          j ≠ i ∧ s.turns j = some u := by
        rcases turn_update hu with ⟨rfl, he⟩ | hu
        · exact (hx he).elim
        · exact hu
      rcases Turn.go_cases (cfg i) publish dlq t c s.world with
        ⟨hp, hgo⟩ | ⟨hp, q, hq, hgo⟩ | ⟨hp, hq, hgo⟩
      · rw [hgo]
        apply h.of_frame
        · intro j u hu huid hup
          exact ⟨u, (others none hu (by simp)).2, huid, hup, rfl⟩
        · -- a late release finds another's lease, or none
          intro j u hu huid hup τ
          obtain ⟨hj, hu⟩ := others none hu (by simp)
          by_cases hid : leaseKey t.alertId = leaseKey alertId
          · have hne : (cfg j).owner ≠ (cfg i).owner := fun heq => hj (howner _ _ heq)
            have hlook := h.lookup hu huid hup
            rw [World.afterRelease, if_neg]
            rw [hid, hlook]
            simpa using hne
          · exact get_afterRelease_ne (fun heq => hid heq.symm) τ
        · simp only [World.afterRelease]
          split <;> rfl
      · rw [hgo]
        refine h.of_frame ?_ ?_ Point.next_now
        · intro j u hu huid hup
          rcases turn_update hu with ⟨rfl, hx⟩ | ⟨-, hu⟩
          · obtain rfl := Option.some.inj hx
            exact ⟨t, ht, huid, hp, rfl⟩
          · exact ⟨u, hu, huid, hup, rfl⟩
        · intro j u hu huid hup τ
          refine Point.next_get (leaseKey_notMem_writes ?_) τ
          by_contra hcon
          push Not at hcon
          obtain ⟨hid, hmark⟩ := hcon
          rw [hmark] at hq
          obtain rfl := Option.some.inj hq
          rcases turn_update hu with ⟨rfl, hx⟩ | ⟨hj, hu⟩
          · obtain rfl := Option.some.inj hx
            exact hup
          · exact hj (h.exclusive howner hu ht huid hid hup hp)
      · rw [hgo]
        refine h.of_frame ?_ ?_ Point.next_now
        · intro j u hu huid hup
          exact ⟨u, (others none hu (by simp)).2, huid, hup, rfl⟩
        · intro _ _ _ _ _ τ
          refine Point.next_get (leaseKey_notMem_writes (.inr ?_)) τ
          intro hmark
          rw [hmark] at hq
          cases hq

theorem LeaseInv.step (h : LeaseInv cfg alertId s)
    (howner : ∀ i j, (cfg i).owner = (cfg j).owner → i = j) {l : FleetStep ι}
    (hl : InTime cfg alertId s l) (hstep : fleetStep cfg s l = some s') :
    LeaseInv cfg alertId s' := by
  cases l with
  | tick d =>
      obtain rfl := Option.some.inj hstep
      exact ⟨h.leased, hl⟩
  | writeAhead r id payload =>
      obtain rfl := Option.some.inj hstep
      refine h.of_frame (fun i t ht hid hp => ⟨t, ht, hid, hp, rfl⟩) ?_ ?_
      · intro _ _ _ _ _ τ
        simp only [World.afterWriteAhead]
        split
        · exact TtlStore.get_setEx_ne (pendingKey_ne_leaseKey id alertId).symm
        · rfl
      · simp only [World.afterWriteAhead]
        split <;> rfl
  | markPublished r id =>
      obtain rfl := Option.some.inj hstep
      refine h.of_frame (fun i t ht hid hp => ⟨t, ht, hid, hp, rfl⟩) ?_ ?_
      · intro _ _ _ _ _ τ
        exact get_afterMarkPublished_of_notMem
          (leaseKey_notMem_writes (p := .marking) (.inl hl)) τ
      · simp only [World.afterMarkPublished]
        split <;> rfl
  | lease i id => exact h.lease hstep
  | go i c publish dlq => exact h.go howner hstep

/-! ## §2  Acknowledgements in the log -/

/-- A publish of the alert has been acknowledged since its entry was last written. -/
def acknowledged (alertId : String) : List Event → Bool
  | [] => false
  | .stored msgId _ acked :: log =>
      (acked && msgId == some alertId) || acknowledged alertId log
  | .redisSet key _ :: log => key != pendingKey alertId && acknowledged alertId log
  | _ :: log => acknowledged alertId log

/-- Every acknowledged publish is the first since the entry was written. -/
def AckedOnce : List Event → Prop
  | [] => True
  | x :: log =>
      (∀ id msg, x = .stored (some id) msg true → acknowledged id log = false) ∧
        AckedOnce log

/-- Between two acknowledged publishes of one alert its entry is written. -/
def WrittenBetween (log : List Event) : Prop :=
  ∀ id newer m₁ mid m₂ older,
    log = newer ++ .stored (some id) m₁ true :: (mid ++ .stored (some id) m₂ true :: older) →
      ∃ value, .redisSet (pendingKey id) value ∈ mid

theorem acknowledged_of_notMem {id : String} {mid : List Event} (msg : NatsMsg)
    (older : List Event) (h : ∀ value, .redisSet (pendingKey id) value ∉ mid) :
    acknowledged id (mid ++ .stored (some id) msg true :: older) = true := by
  induction mid with
  | nil => simp [acknowledged]
  | cons x mid ih =>
      have hrest := ih fun value hmem => h value (List.mem_cons_of_mem _ hmem)
      cases x with
      | redisSet key value =>
          have hkey : key ≠ pendingKey id := by
            rintro rfl
            exact h value List.mem_cons_self
          simp [acknowledged, hrest, hkey]
      | _ => simp [acknowledged, hrest]

theorem AckedOnce.writtenBetween {log : List Event} (h : AckedOnce log) :
    WrittenBetween log := by
  intro id newer m₁ mid m₂ older hlog
  by_contra hno
  push Not at hno
  subst hlog
  induction newer with
  | nil =>
      have hack := acknowledged_of_notMem m₂ older hno
      rw [h.1 id m₁ rfl] at hack
      cases hack
  | cons x newer ih => exact ih h.2

/-- An event that is no acknowledgement and writes no entry. -/
def Event.Quiet : Event → Prop
  | .stored _ _ acked => acked = false
  | .redisSet key _ => ∀ id, key ≠ pendingKey id
  | _ => True

theorem acknowledged_quiet {id : String} {evs log : List Event}
    (h : ∀ x ∈ evs, x.Quiet) :
    acknowledged id (evs ++ log) = acknowledged id log := by
  induction evs with
  | nil => rfl
  | cons x evs ih =>
      rw [List.cons_append, ← ih fun y hy => h y (List.mem_cons_of_mem _ hy)]
      have hx := h x List.mem_cons_self
      cases x with
      | stored msgId msg acked =>
          obtain rfl : acked = false := hx
          simp [acknowledged]
      | redisSet key value => simp [acknowledged, hx id]
      | _ => rfl

theorem AckedOnce.quiet {evs log : List Event} (h : AckedOnce log)
    (hq : ∀ x ∈ evs, x.Quiet) : AckedOnce (evs ++ log) := by
  induction evs with
  | nil => exact h
  | cons x evs ih =>
      refine ⟨?_, ih fun y hy => hq y (List.mem_cons_of_mem _ hy)⟩
      rintro id msg rfl
      exact absurd (hq _ List.mem_cons_self) (by simp [Event.Quiet])

theorem quiet_redisSet {key : String} {value : RedisValue}
    (h : ∀ id, key ≠ pendingKey id) : (Event.redisSet key value).Quiet := h

theorem quiet_dlqTaken (id reason : String) (accepted : Bool) :
    (Event.dlqTaken id reason accepted).Quiet := trivial

/-- What a command adds to the log is quiet. -/
def Quietly (w w' : World) : Prop :=
  ∃ evs, w'.log = evs ++ w.log ∧ ∀ x ∈ evs, x.Quiet

theorem Quietly.refl (w : World) : Quietly w w := ⟨[], rfl, by simp⟩

theorem Quietly.cons {w w' : World} {x : Event} (hx : x.Quiet)
    (h : w'.log = x :: w.log) : Quietly w w' :=
  ⟨[x], h, by simpa using hx⟩

theorem quietly_delete (keys : List String) (w : World) :
    Quietly w (w.delete keys) := by
  refine ⟨w.deletions keys, rfl, fun x hx => ?_⟩
  obtain ⟨k, -, v, -, rfl⟩ := World.mem_deletions hx
  trivial

theorem quietly_afterMarkPublished (r : IngestReconciler) (id : String) (w : World) :
    Quietly w (w.afterMarkPublished r .returned id) := by
  unfold World.afterMarkPublished
  split
  · exact quietly_delete _ w
  · exact Quietly.refl w

theorem attemptsKey_ne_pendingKey (a b : String) : attemptsKey a ≠ pendingKey b :=
  (pendingKey_ne_attemptsKey b a).symm

theorem log_afterPublishJson (e : PublishEnv) (subject : Json) (payload : Body)
    (id : String) (w : World) :
    (e.confirmsJson subject w.conn = true ∧ ∃ msg,
      (w.afterPublishJson e subject payload (some id) [] true).log =
        .stored (some id) msg true :: w.log) ∨
    (e.confirmsJson subject w.conn = false ∧
      Quietly w (w.afterPublishJson e subject payload (some id) [] true)) := by
  cases subject with
  | str name =>
      simp only [PublishEnv.confirmsJson, PublishEnv.confirms, World.afterPublishJson,
        World.afterPublish, PublishEnv.delivers, publishEvent]
      cases hreach : e.reaches w.conn with
      | false => exact .inr ⟨rfl, Quietly.refl _⟩
      | true =>
          by_cases hret : e.send = .returned
          · left
            simp [hret, Outcome.applied]
          · right
            refine ⟨by simp [hret], ?_⟩
            simp only [Bool.true_and, if_true]
            split
            · exact Quietly.cons (by simp [Event.Quiet, hret]) rfl
            · exact Quietly.refl _
  | _ => exact .inr ⟨rfl, Quietly.refl _⟩

/-- Who is answered is alive. -/
theorem diesJson_of_confirmsJson {e : PublishEnv} {subject : Json} {c : Connection}
    (h : e.confirmsJson subject c = true) : e.diesJson subject c = false := by
  cases subject with
  | str name =>
      simp only [PublishEnv.confirmsJson, PublishEnv.confirms, Bool.and_eq_true,
        decide_eq_true_eq] at h
      obtain ⟨hreach, hsend⟩ := h
      simp only [PublishEnv.diesJson, PublishEnv.dies, hsend, Outcome.kills,
        Bool.and_false, Bool.or_false]
      unfold PublishEnv.reaches at hreach
      cases hc : c.connected with
      | true => rfl
      | false =>
          simp only [hc, Bool.false_eq_true, if_false, decide_eq_true_eq] at hreach
          simp [hreach]
  | _ => cases h

theorem startPublish_ne_marking (r : IngestReconciler) (payload : Json) (n : ℕ) :
    startPublish r payload n ≠ .marking := by
  unfold startPublish
  split <;> simp

theorem afterCheck_ne_marking (r : IngestReconciler) (payload : Json) (n now : ℕ)
    (value : Option RedisValue) : afterCheck r payload n now value ≠ .marking := by
  unfold afterCheck
  split
  · exact startPublish_ne_marking r payload n
  split
  · simp
  split
  · simp
  · exact startPublish_ne_marking r payload n

/-- **What a command says in the log**: it is quiet, unless it is a publish that is
acknowledged. -/
theorem next_log (r : IngestReconciler) (publish : PublishEnv) (dlq : Outcome)
    (id : String) (p : Point) (w : World) :
    (Quietly w (p.next r publish dlq id w).2 ∧
      (p.next r publish dlq id w).1 ≠ some .marking) ∨
    ∃ payload n subject msg, p = .publishing payload n subject ∧
      (p.next r publish dlq id w).1 = some .marking ∧
      (p.next r publish dlq id w).2.log = .stored (some id) msg true :: w.log := by
  cases p with
  | reading =>
      left
      simp only [Point.next]
      repeat' split
      all_goals exact ⟨Quietly.refl w, by simp⟩
  | dropping => exact .inl ⟨quietly_delete _ w, by simp [Point.next]⟩
  | counting payload =>
      left
      obtain ⟨w', hw, hnext⟩ := next_counting r publish dlq id w payload
      constructor
      · rw [hnext, ← hw]
        rcases redisIncr_world (attemptsKey id) w with h | ⟨value, h⟩ <;> rw [h]
        · exact Quietly.refl w
        · exact Quietly.cons (quiet_redisSet (attemptsKey_ne_pendingKey id)) rfl
      · simp only [Point.next]
        split <;> simp
  | renewing payload n => exact .inl ⟨⟨[], rfl, by simp⟩, by simp [Point.next]⟩
  | checking payload n =>
      exact .inl ⟨Quietly.refl w, fun h =>
        afterCheck_ne_marking r payload n _ _ (Option.some.inj h)⟩
  | publishing payload n subject =>
      -- a confirmed publish goes on to the mark, any other is not on the log as released
      rw [next_publishing]
      simp only [Point.next, publishJson_spec]
      rcases log_afterPublishJson publish subject
        (.utf8 (Json.dumps pythonStyle payload)) id w with
        ⟨hconf, msg, hlog⟩ | ⟨hconf, hquiet⟩
      · right
        have hdies := diesJson_of_confirmsJson hconf
        exact ⟨payload, n, subject, msg, rfl, by simp [hdies, hconf], hlog⟩
      · left
        refine ⟨hquiet, ?_⟩
        cases publish.diesJson subject w.conn <;> simp [hconf]
  | marking => exact .inl ⟨quietly_afterMarkPublished r id w, by simp [Point.next]⟩
  | scheduling n t =>
      left
      refine ⟨Quietly.cons (quiet_redisSet fun a =>
        (pendingKey_ne_nextAfterKey a id).symm) rfl, ?_⟩
      simp only [Point.next, Point.burial]
      split
      · split <;> simp
      · simp
  | offering =>
      left
      constructor
      · simp only [Point.next]
        split
        · exact Quietly.cons (quiet_dlqTaken ..) rfl
        · exact Quietly.refl w
      · simp only [Point.next]
        split <;> simp
  | cleaning => exact .inl ⟨quietly_delete _ w, by simp [Point.next]⟩
  | releasing raised => exact .inl ⟨Quietly.refl w, by simp [Point.next]⟩

/-! ## §3  One acknowledgement for each entry -/

/-- The turn has read the entry and not yet learned how its publish ended. -/
def Point.Unanswered : Point → Prop
  | .counting _ => True
  | .renewing _ _ => True
  | .checking _ _ => True
  | .publishing _ _ _ => True
  | _ => False

theorem Point.Unanswered.holds {p : Point} (h : p.Unanswered) : p.Holds := by
  cases p <;> trivial

/-- An entry whose publish was acknowledged is gone, or about to go; nobody carries
it to another publish. -/
structure AckInv (cfg : ι → IngestReconciler) (s : Fleet ι) : Prop where
  client : ∀ i t, s.turns i = some t → (cfg i).hasClient = true
  once : AckedOnce s.world.log
  carried : ∀ i t, s.turns i = some t → t.point.Unanswered →
    acknowledged t.alertId s.world.log = false
  gone : ∀ id, acknowledged id s.world.log = true →
    s.world.lookup (pendingKey id) = none ∨
      ∃ i t, s.turns i = some t ∧ t.alertId = id ∧ t.point = .marking

omit [DecidableEq ι] in
/-- A step with nothing to say about acknowledgements. -/
theorem AckInv.of_quiet (h : AckInv cfg s) (hlog : Quietly s.world s'.world)
    (hclient : ∀ i t, s'.turns i = some t → (cfg i).hasClient = true)
    (hcarried : ∀ i t, s'.turns i = some t → t.point.Unanswered →
      acknowledged t.alertId s.world.log = false)
    (hgone : ∀ id, acknowledged id s.world.log = true →
      s'.world.lookup (pendingKey id) = none ∨
        ∃ i t, s'.turns i = some t ∧ t.alertId = id ∧ t.point = .marking) :
    AckInv cfg s' := by
  obtain ⟨evs, heq, hq⟩ := hlog
  constructor
  · exact hclient
  · rw [heq]
    exact h.once.quiet hq
  · intro i t ht hu
    rw [heq, acknowledged_quiet hq]
    exact hcarried i t ht hu
  · intro id hack
    rw [heq, acknowledged_quiet hq] at hack
    exact hgone id hack

theorem delete_keeps_absent {k : String} {keys : List String} {w : World}
    (h : w.lookup k = none) : (w.delete keys).lookup k = none := by
  by_cases hk : k ∈ keys
  · exact World.lookup_delete_of_mem hk
  · rw [World.lookup_delete_of_notMem hk]
    exact h

/-- No command of a turn writes an entry. -/
theorem next_keeps_absent {r : IngestReconciler} {publish : PublishEnv} {dlq : Outcome}
    {id id' : String} {p : Point} {w : World} (h : w.lookup (pendingKey id) = none) :
    (p.next r publish dlq id' w).2.lookup (pendingKey id) = none := by
  have hframe (hk : pendingKey id ∉ p.writes id') :
      (p.next r publish dlq id' w).2.lookup (pendingKey id) = none := by
    rw [World.lookup, Point.next_get hk, Point.next_now]
    exact h
  cases p with
  | dropping => exact delete_keeps_absent h
  | marking =>
      simp only [Point.next, World.afterMarkPublished]
      split
      · exact delete_keeps_absent h
      · exact h
  | cleaning => exact delete_keeps_absent h
  | _ =>
      apply hframe
      simp [Point.writes, pendingKey_ne_attemptsKey, pendingKey_ne_nextAfterKey]

/-- A turn that goes to a publish has read the entry. -/
theorem next_unanswered {r : IngestReconciler} {publish : PublishEnv} {dlq : Outcome}
    {id : String} {p q : Point} {w : World}
    (hq : (p.next r publish dlq id w).1 = some q) (hu : q.Unanswered) :
    p.Unanswered ∨ (p = .reading ∧ w.lookup (pendingKey id) ≠ none) := by
  cases p with
  | reading =>
      right
      refine ⟨rfl, ?_⟩
      intro hnone
      simp only [Point.next, hnone] at hq
      obtain rfl := Option.some.inj hq
      exact hu
  | scheduling n t =>
      obtain rfl := Option.some.inj hq
      unfold Point.burial at hu
      split at hu
      · split at hu <;> exact hu.elim
      · exact hu.elim
  | offering =>
      simp only [Point.next] at hq
      split at hq
      · cases hq
      · obtain rfl := Option.some.inj hq
        exact hu.elim
  | counting payload => exact .inl trivial
  | renewing payload n => exact .inl trivial
  | checking payload n => exact .inl trivial
  | publishing payload n subject => exact .inl trivial
  | _ =>
      obtain rfl := Option.some.inj hq
      exact hu.elim

theorem quietly_afterRelease (r : IngestReconciler) (id : String) (w : World) :
    Quietly w (w.afterRelease r id) := by
  unfold World.afterRelease
  split
  · exact quietly_delete _ w
  · exact Quietly.refl w

/-- A turn ends, but not with the mark to be written. -/
theorem AckInv.ends (h : AckInv cfg s) {i : ι} {t : Turn} (ht : s.turns i = some t)
    (hmark : t.point ≠ .marking) {w : World} (hquiet : Quietly s.world w)
    (hgone : ∀ id, s.world.lookup (pendingKey id) = none → w.lookup (pendingKey id) = none) :
    AckInv cfg { s with turns := Function.update s.turns i none, world := w } := by
  apply h.of_quiet hquiet
  · intro j u hu
    rcases turn_update hu with ⟨-, hx⟩ | ⟨-, hu⟩
    · cases hx
    · exact h.client j u hu
  · intro j u hu hun
    rcases turn_update hu with ⟨-, hx⟩ | ⟨-, hu⟩
    · cases hx
    · exact h.carried j u hu hun
  · intro id hack
    rcases h.gone id hack with hnone | ⟨j, u, hu, huid, hmarking⟩
    · exact .inl (hgone id hnone)
    · right
      have hj : j ≠ i := by
        rintro rfl
        obtain rfl := Option.some.inj (ht.symm.trans hu)
        exact hmark hmarking
      exact ⟨j, u, (Function.update_of_ne hj ..).trans hu, huid, hmarking⟩

theorem AckInv.client_update (h : AckInv cfg s) {i : ι} {t t' : Turn}
    (ht : s.turns i = some t) (j : ι) (u : Turn)
    (hu : Function.update s.turns i (some t') j = some u) : (cfg j).hasClient = true := by
  rcases turn_update hu with ⟨rfl, -⟩ | ⟨-, hu⟩
  · exact h.client j t ht
  · exact h.client j u hu

/-- A command that acknowledges nothing, and after which the turn goes on. -/
theorem AckInv.advance (h : AckInv cfg s) (hl : ∀ id, LeaseInv cfg id s)
    (howner : ∀ i j, (cfg i).owner = (cfg j).owner → i = j) {i : ι} {t : Turn}
    {c : Connection} {publish : PublishEnv} {dlq : Outcome} {q : Point}
    (ht : s.turns i = some t) (hp : t.point.Holds)
    (hq : (t.point.next (cfg i) publish dlq t.alertId (s.world.setConn c)).1 = some q)
    (hquiet : Quietly s.world
      (t.point.next (cfg i) publish dlq t.alertId (s.world.setConn c)).2)
    (history : List EntryEvent) :
    AckInv cfg ⟨(t.point.next (cfg i) publish dlq t.alertId (s.world.setConn c)).2,
      Function.update s.turns i (some { t with point := q }), history⟩ := by
  refine h.of_quiet hquiet (h.client_update ht) ?_ ?_
  · intro j u hu hun
    rcases turn_update hu with ⟨rfl, hx⟩ | ⟨-, hu⟩
    · obtain rfl := Option.some.inj hx
      rcases next_unanswered hq hun with hpu | ⟨hread, hpresent⟩
      · exact h.carried j t ht hpu
      · -- a present entry has no acknowledgement
        by_contra hack
        rw [Bool.not_eq_false] at hack
        rcases h.gone t.alertId hack with hnone | ⟨k, v, hv, hvid, hmark⟩
        · exact hpresent hnone
        · have hkj := (hl t.alertId).exclusive howner hv ht hvid rfl
            (by rw [hmark]; trivial) hp
          subst hkj
          obtain rfl := Option.some.inj (ht.symm.trans hv)
          rw [hread] at hmark
          cases hmark
    · exact h.carried j u hu hun
  · intro id hack
    rcases h.gone id hack with hnone | ⟨j, u, hu, huid, hmark⟩
    · exact .inl (next_keeps_absent hnone)
    · by_cases hj : j = i
      · subst hj
        obtain rfl := Option.some.inj (ht.symm.trans hu)
        left
        simp only [hmark, Point.next, World.afterMarkPublished,
          h.client j t ht, Outcome.applied, Bool.and_self, if_true, huid]
        exact World.lookup_delete_of_mem List.mem_cons_self
      · right
        exact ⟨j, u, (Function.update_of_ne hj ..).trans hu, huid, hmark⟩

/-- A publish is acknowledged: the turn that carried the entry is about to mark it, and
the lease keeps every other turn away from the entry. -/
theorem AckInv.acked (h : AckInv cfg s) (hl : ∀ id, LeaseInv cfg id s)
    (howner : ∀ i j, (cfg i).owner = (cfg j).owner → i = j) {i : ι} {t : Turn}
    {payload : Json} {n : ℕ} {subject : Json} {msg : NatsMsg} {w : World}
    (ht : s.turns i = some t) (hp : t.point.Holds)
    (hpub : t.point = .publishing payload n subject)
    (hlog : w.log = .stored (some t.alertId) msg true :: s.world.log)
    (habsent : ∀ id, s.world.lookup (pendingKey id) = none → w.lookup (pendingKey id) = none)
    (history : List EntryEvent) :
    AckInv cfg ⟨w, Function.update s.turns i (some { t with point := .marking }),
      history⟩ := by
  have hfresh : acknowledged t.alertId s.world.log = false :=
    h.carried i t ht (by rw [hpub]; trivial)
  constructor
  · exact h.client_update ht
  · simp only [hlog]
    refine ⟨?_, h.once⟩
    rintro id m heq
    obtain ⟨hid, -, -⟩ := Event.stored.inj heq
    obtain rfl := Option.some.inj hid
    exact hfresh
  · intro j u hu hun
    rcases turn_update hu with ⟨rfl, hx⟩ | ⟨hj, hu⟩
    · obtain rfl := Option.some.inj hx
      exact hun.elim
    · have hne : t.alertId ≠ u.alertId := fun heq =>
        hj ((hl t.alertId).exclusive howner hu ht heq.symm rfl hun.holds hp)
      simp only [hlog, acknowledged]
      simp [h.carried j u hu hun, hne]
  · intro id hack
    simp only [hlog, acknowledged, Bool.true_and, Bool.or_eq_true,
      beq_iff_eq, Option.some.injEq] at hack
    rcases hack with rfl | hack
    · exact .inr ⟨i, _, Function.update_self .., rfl, rfl⟩
    · rcases h.gone id hack with hnone | ⟨j, u, hu, huid, hm⟩
      · exact .inl (habsent id hnone)
      · by_cases hj : j = i
        · subst hj
          obtain rfl := Option.some.inj (ht.symm.trans hu)
          rw [hpub] at hm
          cases hm
        · exact .inr ⟨j, u, (Function.update_of_ne hj ..).trans hu, huid, hm⟩

theorem AckInv.go (h : AckInv cfg s) (hl : ∀ id, LeaseInv cfg id s)
    (howner : ∀ i j, (cfg i).owner = (cfg j).owner → i = j) {i : ι} {c : Connection}
    {publish : PublishEnv} {dlq : Outcome}
    (hstep : fleetStep cfg s (.go i c publish dlq) = some s') : AckInv cfg s' := by
  cases ht : s.turns i with
  | none => simp [fleetStep, ht] at hstep
  | some t =>
      rw [fleetStep_go ht] at hstep
      obtain rfl := Option.some.inj hstep
      rcases Turn.go_cases (cfg i) publish dlq t c s.world with
        ⟨hp, hgo⟩ | ⟨hp, q, hq, hgo⟩ | ⟨hp, hq, hgo⟩
      · -- the release
        rw [hgo]
        refine h.ends ht ?_ (quietly_afterRelease ..) ?_
        · intro hmark
          exact hp (by rw [hmark]; trivial)
        · intro id hnone
          simp only [World.afterRelease]
          split
          · exact delete_keeps_absent hnone
          · exact hnone
      · rw [hgo]
        -- one command alone acknowledges: the publish that goes on to the mark
        rcases next_log (cfg i) publish dlq t.alertId t.point (s.world.setConn c) with
          ⟨hquiet, hnm⟩ | ⟨payload, n, subject, msg, hpub, hmark, hlog⟩
        · exact h.advance hl howner ht hp hq hquiet _
        · rw [hmark] at hq
          obtain rfl := Option.some.inj hq
          apply h.acked hl howner ht hp hpub hlog
          exact fun id hnone => next_keeps_absent hnone
      · -- the process dies
        rw [hgo]
        have hquiet : Quietly s.world (t.point.next (cfg i) publish dlq t.alertId
            (s.world.setConn c)).2 := by
          rcases next_log (cfg i) publish dlq t.alertId t.point
            (s.world.setConn c) with
            ⟨hquiet, -⟩ | ⟨_, _, _, _, _, hmark, _⟩
          · exact hquiet
          · rw [hq] at hmark
            cases hmark
        refine h.ends ht ?_ hquiet ?_
        · intro hmark
          rw [hmark] at hq
          cases hq
        · intro id hnone
          exact next_keeps_absent hnone

theorem AckInv.writeAhead (h : AckInv cfg s) {r : IngestReconciler} {id : String}
    {payload : Json} (hstep : fleetStep cfg s (.writeAhead r id payload) = some s') :
    AckInv cfg s' := by
  obtain rfl := Option.some.inj hstep
  simp only [World.afterWriteAhead]
  cases hr : r.hasClient with
  | false => exact ⟨h.client, h.once, h.carried, h.gone⟩
  | true =>
      simp only [Outcome.applied, Bool.and_self, if_true]
      constructor
      · exact h.client
      · refine ⟨?_, h.once⟩
        intro id' msg heq
        cases heq
      · intro i t ht hu
        simp only [World.setEx, acknowledged, h.carried i t ht hu, Bool.and_false]
      · intro id' hack
        simp only [World.setEx, acknowledged, Bool.and_eq_true, bne_iff_ne] at hack
        rcases h.gone id' hack.2 with hnone | hmark
        · left
          rw [World.lookup_setEx_ne hack.1.symm]
          exact hnone
        · exact .inr hmark

theorem AckInv.lease (h : AckInv cfg s) {i : ι} {id : String}
    (hstep : fleetStep cfg s (.lease i id) = some s') : AckInv cfg s' := by
  simp only [fleetStep] at hstep
  split at hstep
  swap
  · cases hstep
  rename_i hcan
  obtain rfl := Option.some.inj hstep
  -- a lease that is held stays as it is
  by_cases hheld : (s.world.lookup (leaseKey id)).isSome = true
  · simp only [World.setNxEx, if_pos hheld]
    exact ⟨h.client, h.once, h.carried, h.gone⟩
  simp only [World.setNxEx, if_neg hheld]
  refine h.of_quiet
    (Quietly.cons (quiet_redisSet fun a => (pendingKey_ne_leaseKey a id).symm) rfl)
    ?_ ?_ ?_
  · intro j u hu
    rcases turn_update hu with ⟨rfl, -⟩ | ⟨-, hu⟩
    · exact hcan.1
    · exact h.client j u hu
  · intro j u hu hun
    rcases turn_update hu with ⟨-, hx⟩ | ⟨-, hu⟩
    · obtain rfl := Option.some.inj hx
      exact hun.elim
    · exact h.carried j u hu hun
  · intro id' hack
    rcases h.gone id' hack with hnone | ⟨j, u, hu, huid, hmark⟩
    · left
      rw [World.lookup_setEx_ne (pendingKey_ne_leaseKey id' id)]
      exact hnone
    · right
      have hj : j ≠ i := by
        rintro rfl
        rw [hu] at hcan
        exact absurd hcan.2.2 (by simp)
      exact ⟨j, u, (Function.update_of_ne hj ..).trans hu, huid, hmark⟩

theorem AckInv.step (h : AckInv cfg s) (hl : ∀ id, LeaseInv cfg id s)
    (howner : ∀ i j, (cfg i).owner = (cfg j).owner → i = j) {l : FleetStep ι}
    (hstep : fleetStep cfg s l = some s') : AckInv cfg s' := by
  cases l with
  | tick d =>
      obtain rfl := Option.some.inj hstep
      refine ⟨h.client, h.once, h.carried, fun id hack => ?_⟩
      rcases h.gone id hack with hnone | hmark
      · exact .inl (TtlStore.get_none_of_le (Nat.le_add_right _ d) hnone)
      · exact .inr hmark
  | writeAhead r id payload => exact h.writeAhead hstep
  | markPublished r id =>
      obtain rfl := Option.some.inj hstep
      refine h.of_quiet (quietly_afterMarkPublished ..) h.client h.carried ?_
      intro id' hack
      rcases h.gone id' hack with hnone | hmark
      · left
        simp only [World.afterMarkPublished]
        split
        · exact delete_keeps_absent hnone
        · exact hnone
      · exact .inr hmark
  | lease i id => exact h.lease hstep
  | go i c publish dlq => exact h.go hl howner hstep

/-- A publish of the alert is in flight at reconciler `i`. -/
def InFlight (s : Fleet ι) (i : ι) (alertId : String) : Prop :=
  ∃ t payload n subject, s.turns i = some t ∧ t.alertId = alertId ∧
    t.point = .publishing payload n subject

/-- **The lease prevents double publishing**: with distinct owners, however the
commands of the reconcilers interleave, if every holder is done within its lease and
the ingest path publishes nothing inline, then between two acknowledged publishes of
an alert its entry is written, and no two reconcilers have a publish of it in flight
together. -/
theorem lease_excludes (howner : ∀ i j, (cfg i).owner = (cfg j).owner → i = j)
    (h : (fleetSystem cfg).Reached (fun s l => ∀ id, InTime cfg id s l) s) :
    WrittenBetween s.world.log ∧
      ∀ i j id, InFlight s i id → InFlight s j id → i = j := by
  have hinv : (∀ id, LeaseInv cfg id s) ∧ AckInv cfg s := by
    refine h.invariant (P := fun s => (∀ id, LeaseInv cfg id s) ∧ AckInv cfg s) ?_ ?_
    · rintro s ⟨hlog, -, hturns⟩
      refine ⟨fun id => ⟨?_, ?_⟩, ⟨?_, ?_, ?_, ?_⟩⟩
      all_goals simp [hlog, hturns, AckedOnce, acknowledged]
    · rintro s l s' ⟨hl, ha⟩ hin hstep
      exact ⟨fun id => (hl id).step howner (hin id) hstep, ha.step hl howner hstep⟩
  refine ⟨hinv.2.once.writtenBetween, ?_⟩
  rintro i j id ⟨t, p, n, x, ht, htid, htp⟩ ⟨u, q, m, y, hu, huid, huq⟩
  exact (hinv.1 id).exclusive howner ht hu htid huid (by rw [htp]; trivial)
    (by rw [huq]; trivial)

/-- Nothing stored, nobody at work. -/
def Fleet.fresh (ι : Type) : Fleet ι := ⟨World.fresh, fun _ => none, []⟩

/-- Two processes. -/
def twoReconcilers (i : Fin 2) : IngestReconciler :=
  startupReconciler (if i = 0 then "proc-A" else "proc-B")

/-- The first of them. -/
def procA : Fin 2 := 0

/-- A reconciler goes on, and NATS acknowledges. -/
def goes (i : Fin 2) : FleetStep (Fin 2) :=
  .go i ⟨true, true⟩ ⟨.returned, .returned⟩ .returned

/-- The second process tries for the lease while the first publishes, and gets it
before the first has come to its release. -/
def overlapping : List (FleetStep (Fin 2)) :=
  [.writeAhead (twoReconcilers 0) "a1" walEntry, .lease 0 "a1", .lease 1 "a1", goes 0,
    goes 0, goes 0, goes 0, .lease 1 "a1", goes 0, goes 0, .lease 1 "a1", goes 0, goes 1,
    goes 1]

theorem lease_excludes_overlapping :
    ∃ s, (fleetSystem twoReconcilers).run (Fleet.fresh (Fin 2)) overlapping = some s ∧
      WrittenBetween s.world.log ∧
      ∀ i j id, InFlight s i id → InFlight s j id → i = j := by
  have hrun : ((fleetSystem twoReconcilers).run (Fleet.fresh (Fin 2))
      overlapping).isSome = true := by decide +kernel
  obtain ⟨s, hs⟩ := Option.isSome_iff_exists.mp hrun
  have hmeets : (fleetSystem twoReconcilers).Meets
      (fun s l => ∀ id, InTime twoReconcilers id s l) (Fleet.fresh (Fin 2))
      overlapping := by
    apply System.Meets.of_forall
    simp [overlapping, goes, InTime]
  have hreached := hmeets.reached (.start ⟨rfl, rfl, fun _ => rfl⟩) hs
  exact ⟨s, hs, lease_excludes (by decide) hreached⟩

end AlertTriage
