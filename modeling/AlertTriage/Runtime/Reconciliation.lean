import AlertTriage.Library.Transition
import AlertTriage.Runtime.RuntimeGlue

/-!
# Runs of the write-ahead log

What any number of ingest calls and reconcilers do to the entries
`pending_alert:{id}` over a whole run. The log of the world is read backwards:
an entry is *released* once a publish under its id has been acknowledged, or a
dead-letter publisher has accepted it, since the entry was last written. A run
never drops an alert when every deletion of an entry finds it released.

The last attempt deletes the entry whether or not anything took it, so runs
keep this only while the dead-letter step succeeds (`never_drops`).
-/

namespace AlertTriage

open Library

/-! ## §1  Released entries -/

/-- `key[len("pending_alert:"):]` for the keys that SCAN matches. -/
def pendingId? (key : String) : Option String :=
  if keyPending.toList.isPrefixOf key.toList then
    some (String.ofList (key.toList.drop keyPending.toList.length))
  else none

/-- The entry that an event deletes, if it held a JSON object. -/
def droppedEntry : Event → Option String
  | .redisDeleted key (.text s) =>
      match Json.loads s with
      | some (.obj _) => pendingId? key
      | _ => none
  | _ => none

/-- Since the entry was last written, a publish under its id was acknowledged
or a dead-letter publisher accepted it. -/
def released (alertId : String) : List Event → Bool
  | [] => false
  | .stored msgId _ acked :: log =>
      (acked && msgId == some alertId) || released alertId log
  | .dlqTaken id _ accepted :: log =>
      (accepted && id == alertId) || released alertId log
  | .redisSet key _ :: log => key != pendingKey alertId && released alertId log
  | _ :: log => released alertId log

/-- Every deletion of an entry in the log found it released. -/
def NeverDrops : List Event → Prop
  | [] => True
  | x :: log =>
      (∀ id, droppedEntry x = some id → released id log = true) ∧ NeverDrops log

/-- Reading a log decides it. -/
instance decidableNeverDrops : DecidablePred NeverDrops
  | [] => isTrue trivial
  | x :: log =>
      have : Decidable (NeverDrops log) := decidableNeverDrops log
      decidable_of_iff
        ((droppedEntry x).all (released · log) = true ∧ NeverDrops log)
        (by simp [NeverDrops, Option.all_eq_true])

theorem pendingId?_eq {key id : String} (h : pendingId? key = some id) :
    key = pendingKey id := by
  unfold pendingId? at h
  split at h
  · rename_i hp
    obtain ⟨t, ht⟩ := List.isPrefixOf_iff_prefix.mp hp
    obtain rfl := Option.some.inj h
    apply String.toList_inj.mp
    rw [pendingKey, String.toList_append, String.toList_ofList, ← ht,
      List.drop_left]
  · exact absurd h (by simp)

theorem droppedEntry_eq {x : Event} {id : String}
    (h : droppedEntry x = some id) :
    ∃ s fields, x = .redisDeleted (pendingKey id) (.text s) ∧
      Json.loads s = some (.obj fields) := by
  unfold droppedEntry at h
  split at h
  · rename_i key s
    split at h
    · rename_i fields hl
      exact ⟨s, fields, by rw [pendingId?_eq h], hl⟩
    · exact absurd h (by simp)
  · exact absurd h (by simp)

/-! ## §2  Events that drop nothing -/

theorem NeverDrops.cons_of_not_deleted {x : Event} {log : List Event}
    (h : NeverDrops log) (hx : droppedEntry x = none) : NeverDrops (x :: log) :=
  ⟨fun id hid => absurd hid (by rw [hx]; simp), h⟩

theorem NeverDrops.setEx {w : World} (h : NeverDrops w.log) (key : String)
    (value : RedisValue) (ttl : ℕ) : NeverDrops (w.setEx key value ttl).log :=
  h.cons_of_not_deleted rfl

theorem released_append_deleted {id : String} {evs log : List Event}
    (h : ∀ x ∈ evs, ∃ k v, x = .redisDeleted k v) :
    released id (evs ++ log) = released id log := by
  induction evs with
  | nil => rfl
  | cons x evs ih =>
      obtain ⟨k, v, rfl⟩ := h x List.mem_cons_self
      rw [List.cons_append, released]
      · exact ih fun y hy => h y (List.mem_cons_of_mem _ hy)
      all_goals simp

theorem released_delete (id : String) (keys : List String) (w : World) :
    released id (w.delete keys).log = released id w.log := by
  apply released_append_deleted
  intro x hx
  obtain ⟨k, -, v, -, rfl⟩ := World.mem_deletions hx
  exact ⟨k, v, rfl⟩

/-- The entry under an id is present and holds a JSON object. -/
def HoldsObject (alertId : String) (w : World) : Prop :=
  ∃ s fields, w.lookup (pendingKey alertId) = some (.text s) ∧
    Json.loads s = some (.obj fields)

/-- A DEL drops nothing if each entry among its keys is released or holds no
object. -/
theorem NeverDrops.delete {w : World} (h : NeverDrops w.log)
    {keys : List String}
    (hk : ∀ id, pendingKey id ∈ keys → HoldsObject id w →
      released id w.log = true) :
    NeverDrops (w.delete keys).log := by
  have hev : ∀ x ∈ w.deletions keys,
      (∃ k v, x = .redisDeleted k v) ∧
        ∀ id, droppedEntry x = some id → released id w.log = true := by
    intro x hx
    obtain ⟨k, hmem, v, hv, rfl⟩ := World.mem_deletions hx
    refine ⟨⟨k, v, rfl⟩, fun id hid => ?_⟩
    obtain ⟨s, fields, heq, hs⟩ := droppedEntry_eq hid
    obtain ⟨rfl, rfl⟩ := Event.redisDeleted.inj heq
    exact hk id hmem ⟨s, fields, hv, hs⟩
  unfold World.delete
  dsimp only
  generalize w.deletions keys = evs at hev
  induction evs with
  | nil => exact h
  | cons x evs ih =>
      have htail := fun y hy => hev y (List.mem_cons_of_mem _ hy)
      rw [List.cons_append]
      refine ⟨fun id hid => ?_, ih htail⟩
      rw [released_append_deleted fun y hy => (htail y hy).1]
      exact (hev x List.mem_cons_self).2 id hid

/-! ## §3  The last attempt -/

theorem released_redisSet {id key : String} {value : RedisValue}
    {log : List Event} (h : key ≠ pendingKey id) :
    released id (.redisSet key value :: log) = released id log := by
  have hb : (key != pendingKey id) = true := by simpa using h
  rw [released, hb, Bool.true_and]

theorem released_afterPublishJson {e : PublishEnv} {subject : Json} {w : World}
    {payload : Body} {alertId : String}
    (h : e.confirmsJson subject w.conn = true) :
    released alertId (w.afterPublishJson e subject payload (some alertId) []
      true).log = true := by
  cases subject with
  | str s =>
      simp only [PublishEnv.confirmsJson, PublishEnv.confirms,
        Bool.and_eq_true, decide_eq_true_eq] at h
      have hd : e.delivers w.conn = true := by
        simp [PublishEnv.delivers, h.1, h.2, Outcome.applied]
      simp [World.afterPublishJson, World.afterPublish, hd, publishEvent,
        released, h.2]
  | _ => simp [PublishEnv.confirmsJson] at h

theorem NeverDrops.afterPublishJson {w : World} (h : NeverDrops w.log)
    (e : PublishEnv) (subject : Json) (payload : Body) (msgId : Option String)
    (headers : List (String × String)) :
    NeverDrops (w.afterPublishJson e subject payload msgId headers true).log := by
  cases subject with
  | str s =>
      unfold World.afterPublishJson World.afterPublish
      dsimp only
      split
      · exact h.cons_of_not_deleted rfl
      · exact h
  | _ => exact h

theorem lookup_afterPublishJson (e : PublishEnv) (subject : Json)
    (payload : Body) (msgId : Option String) (headers : List (String × String))
    (awaitAck : Bool) (w : World) (key : String) :
    (w.afterPublishJson e subject payload msgId headers awaitAck).lookup key =
      w.lookup key := by
  cases subject with
  | str s => exact lookup_afterPublish e msgId _ awaitAck w key
  | _ => rfl

theorem NeverDrops.afterMarkPublished {w : World} (h : NeverDrops w.log)
    {alertId : String} (hr : HoldsObject alertId w → released alertId w.log)
    (r : IngestReconciler) (o : Outcome) :
    NeverDrops (w.afterMarkPublished r o alertId).log := by
  unfold World.afterMarkPublished
  split
  · apply h.delete
    intro id hmem hobj
    simp only [List.mem_cons, pendingKey_ne_leaseKey, pendingKey_ne_attemptsKey,
      List.not_mem_nil, or_false] at hmem
    obtain rfl := pendingKey_injective hmem
    exact hr hobj
  · exact h

/-- The last attempt keeps the log clean if the dead-letter publisher accepts
the entry it is about to delete. -/
theorem moveToDlq_neverDrops {r : IngestReconciler} {e : ProcessEnv}
    {alertId reason : String} {w : World} (h : NeverDrops w.log)
    (hd : HoldsObject alertId w → e.cleanup.applied = true →
      r.hasDlq = true ∧ e.dlq = .returned) :
    NeverDrops (moveToDlq r e alertId reason w).2.log := by
  have hoffer : offerToDlq r e alertId reason w =
      (if r.hasDlq && e.dlq.kills then .error .kill else .ok (),
        if r.hasDlq && e.dlq.applied then
          w.record (.dlqTaken alertId reason (e.dlq = .returned))
        else w) := by
    unfold offerToDlq
    cases r.hasDlq with
    | false => rfl
    | true => simp [Run.tryExcept_call_unit]
  generalize hw' : (if r.hasDlq && e.dlq.applied then
    w.record (.dlqTaken alertId reason (e.dlq = .returned)) else w) = w'
    at hoffer
  have hclean : NeverDrops w'.log := by
    rw [← hw']
    split
    · exact h.cons_of_not_deleted rfl
    · exact h
  have hhold : HoldsObject alertId w' → HoldsObject alertId w := by
    rw [← hw']
    split <;> exact id
  unfold moveToDlq
  rw [Run.bind_apply, hoffer]
  by_cases hk : (r.hasDlq && e.dlq.kills) = true
  · simpa only [if_pos hk] using hclean
  · simp only [if_neg hk, redisDelete, Run.tryExcept_call_unit]
    by_cases ha : e.cleanup.applied = true
    · rw [if_pos ha]
      -- what is deleted was taken by the dead-letter publisher right before
      apply hclean.delete
      intro id hmem hobj
      simp only [List.mem_cons, pendingKey_ne_attemptsKey,
        pendingKey_ne_nextAfterKey, List.not_mem_nil, or_false] at hmem
      obtain rfl := pendingKey_injective hmem
      obtain ⟨hq, ho⟩ := hd (hhold hobj) ha
      rw [← hw']
      simp [hq, ho, Outcome.applied, released]
    · rw [if_neg ha]
      exact hclean

/-- The publish fails, it was the last attempt, and the entry is deleted. -/
def LastAttemptFails (r : IngestReconciler) (e : ProcessEnv) (payload : Json)
    (attempts : ℕ) (c : Connection) : Prop :=
  ∃ subject, r.publishSubjectFor payload = .ok subject ∧
    e.publish.diesJson subject c = false ∧
    e.publish.confirmsJson subject c = false ∧
    e.setNextAfter = .returned ∧ backoffSeconds.length ≤ attempts ∧
    e.cleanup.applied = true

theorem attemptPublish_neverDrops {r : IngestReconciler} {e : ProcessEnv}
    {alertId : String} {payload : Json} {attempts : ℕ} {w : World}
    (h : NeverDrops w.log)
    (hd : HoldsObject alertId w → LastAttemptFails r e payload attempts w.conn →
      r.hasDlq = true ∧ e.dlq = .returned) :
    NeverDrops (attemptPublish r e alertId payload attempts w).2.log := by
  unfold attemptPublish
  cases hs : r.publishSubjectFor payload with
  | error x => simpa [Run.ofExcept, Run.bind_apply] using h
  | ok subject =>
      simp only [Run.ofExcept, Run.bind_apply, Run.pure_apply, publishJson_spec]
      generalize hw' : w.afterPublishJson e.publish subject
        (.utf8 (Json.dumps pythonStyle payload)) (some alertId) [] true = w'
      have hclean : NeverDrops w'.log := by
        rw [← hw']
        exact h.afterPublishJson _ _ _ _ _
      have hlook : ∀ k, w'.lookup k = w.lookup k := by
        intro k
        rw [← hw']
        exact lookup_afterPublishJson _ _ _ _ _ _ _ _
      by_cases hdies : e.publish.diesJson subject w.conn = true
      · simpa only [if_pos hdies] using hclean
      simp only [if_neg hdies]
      by_cases hconf : e.publish.confirmsJson subject w.conn = true
      · -- the publish was acknowledged: the entry that goes is released
        simp only [if_pos hconf, markPublished_spec]
        apply hclean.afterMarkPublished
        intro _
        rw [← hw']
        exact released_afterPublishJson hconf
      simp only [if_neg hconf, redisSetEx, Run.bind_apply, Run.get_apply]
      generalize hn : RedisValue.time _ = next
      have hset : NeverDrops (w'.setEx (nextAfterKey alertId) next
          (r.maxAge * second)).log := hclean.setEx _ _ _
      cases hsn : e.setNextAfter with
      | raised b => cases b <;> simpa [Run.call] using by assumption
      | killed b => cases b <;> simpa [Run.call] using by assumption
      | returned =>
          simp only [Run.call]
          by_cases hlast : backoffSeconds.length ≤ attempts
          · rw [if_pos hlast]
            apply moveToDlq_neverDrops hset
            rintro ⟨t, fields, hl, hj⟩ hcl
            refine hd ⟨t, fields, ?_, hj⟩ ⟨subject, hs, ?_, ?_, hsn, hlast, hcl⟩
            · rw [← hlook, ← hl]
              exact (World.lookup_setEx_ne
                (pendingKey_ne_nextAfterKey alertId alertId)).symm
            · simpa using hdies
            · simpa using hconf
          · rw [if_neg hlast]
            exact hset

/-! ## §4  One entry -/

/-- The attempt count that a pass comes to for an entry. -/
def attemptNumber (e : ProcessEnv) (alertId : String) (w : World) : ℕ :=
  if e.incr = .returned ∧ e.expire = .returned then
    match w.lookup (attemptsKey alertId) with
    | some (.count n) => n + 1
    | _ => 1
  else 1

theorem incrementAttempts_ok {r : IngestReconciler} {e : ProcessEnv}
    {alertId : String} {w w' : World} {n : ℕ}
    (h : incrementAttempts r e alertId w = (.ok n, w')) :
    n = attemptNumber e alertId w := by
  obtain ⟨g, dc, i, x, gn, p, mp, sn, d, cl⟩ := e
  unfold incrementAttempts Run.tryExcept at h
  simp only [Run.bind_apply, redisIncr] at h
  rcases hl : w.lookup (attemptsKey alertId) with _ | s | m | t <;>
    rw [hl] at h <;>
    rcases i with _ | b | b <;> rcases x with _ | c | c <;>
    simp [Run.call, redisExpire] at h <;>
    simp [attemptNumber, hl, h.1]

/-- What counting leaves alone: the log's deletions, every other key, the
clock and the connection. -/
theorem incrementAttempts_frame (r : IngestReconciler) (e : ProcessEnv)
    (alertId : String) {w : World} (h : NeverDrops w.log) :
    NeverDrops (incrementAttempts r e alertId w).2.log ∧
      (∀ k, k ≠ attemptsKey alertId →
        (incrementAttempts r e alertId w).2.lookup k = w.lookup k) ∧
      (incrementAttempts r e alertId w).2.now = w.now ∧
      (incrementAttempts r e alertId w).2.conn = w.conn := by
  obtain ⟨value, ttl, heq | heq | heq⟩ := incrementAttempts_world r e alertId w
  · rw [heq]
    exact ⟨h, fun _ _ => rfl, rfl, rfl⟩
  · rw [heq]
    exact ⟨h.cons_of_not_deleted rfl,
      fun k hk => World.lookup_overwrite_ne hk, rfl, rfl⟩
  · rw [heq]
    refine ⟨h.cons_of_not_deleted rfl, fun k hk => ?_, rfl, rfl⟩
    rw [World.lookup_expire_ne hk, World.lookup_overwrite_ne hk]

theorem nextAfterKey_ne_attemptsKey (a : String) :
    nextAfterKey a ≠ attemptsKey a := by
  intro h
  have h' := congrArg (fun s => s.toList.length) h
  simp [nextAfterKey, attemptsKey] at h'

/-- The entry is due: its backoff has run out. -/
def Due (alertId : String) (w : World) : Prop :=
  ∀ value, w.lookup (nextAfterKey alertId) = some value →
    ∃ t, nextAfterTime value = .ok t ∧ t ≤ w.now

/-- A pass over the entry ends in its deletion without a publish: it holds an
object, it is due, it was the last attempt and that attempt fails. -/
def Exhausts (r : IngestReconciler) (e : ProcessEnv) (alertId : String)
    (w : World) : Prop :=
  ∃ s fields, w.lookup (pendingKey alertId) = some (.text s) ∧
    Json.loads s = some (.obj fields) ∧ e.getEntry = .returned ∧
    e.getNextAfter = .returned ∧ Due alertId w ∧
    LastAttemptFails r e (.obj fields) (attemptNumber e alertId w) w.conn

theorem redisGet_apply (o : Outcome) (key : String) (w : World) :
    redisGet o key w =
      match o with
      | .returned => (.ok (w.lookup key), w)
      | .raised _ => (.error (.exception redisError), w)
      | .killed _ => (.error .kill, w) := by
  rcases o with _ | b | b
  · rfl
  · cases b <;> rfl
  · cases b <;> rfl

/-- One entry: unless the pass ends in its unpublished deletion, or the
dead-letter publisher accepts it, nothing is dropped. -/
theorem processOne_neverDrops {r : IngestReconciler} {e : ProcessEnv}
    {alertId : String} {w : World} (h : NeverDrops w.log)
    (hd : Exhausts r e alertId w → r.hasDlq = true ∧ e.dlq = .returned) :
    NeverDrops (processOne r e alertId w).2.log := by
  unfold processOne
  simp only [Run.bind_apply, redisGet_apply]
  cases hg : e.getEntry with
  | raised b => exact h
  | killed b => exact h
  | returned =>
      simp only
      cases hl : w.lookup (pendingKey alertId) with
      | none => exact h
      | some value =>
          simp only
          by_cases hempty : value.toText = ""
          · rw [if_pos hempty]
            exact h
          rw [if_neg hempty]
          cases hj : Json.loads value.toText with
          | none =>
              -- a corrupt entry holds no object
              simp only [redisDelete, Run.call_world]
              split
              · apply h.delete
                rintro id hmem ⟨s, fields, hs, hobj⟩
                obtain rfl := pendingKey_injective (List.mem_singleton.mp hmem)
                rw [hl] at hs
                obtain rfl := Option.some.inj hs
                rw [RedisValue.toText, hobj] at hj
                exact absurd hj (by simp)
              · exact h
          | some payload =>
              obtain ⟨hclean, hlook, hnow, hconn⟩ :=
                incrementAttempts_frame r e alertId h
              simp only [Run.bind_apply]
              rcases hi : incrementAttempts r e alertId w with ⟨_ | n, w'⟩
              · rw [hi] at hclean
                exact hclean
              rw [hi] at hclean hlook hnow hconn
              have hn := incrementAttempts_ok hi
              have hnext := hlook _ (nextAfterKey_ne_attemptsKey alertId)
              have hpend := hlook _ (pendingKey_ne_attemptsKey alertId alertId)
              simp only at hclean hnow hconn hnext hpend ⊢
              cases hgn : e.getNextAfter with
              | raised b =>
                  simp only [redisGet_apply]
                  exact hclean
              | killed b =>
                  simp only [redisGet_apply]
                  exact hclean
              | returned =>
                  -- the attempt on a due entry, with the count it was given
                  have attempt (hdue : Due alertId w) :
                      NeverDrops
                        (attemptPublish r e alertId payload n w').2.log := by
                    apply attemptPublish_neverDrops hclean
                    rintro ⟨s, fields, hs, hobj⟩ hlast
                    rw [hpend, hl] at hs
                    obtain rfl := Option.some.inj hs
                    rw [RedisValue.toText, hobj] at hj
                    obtain rfl := Option.some.inj hj
                    rw [hn, hconn] at hlast
                    exact hd ⟨s, fields, hl, hobj, hg, hgn, hdue, hlast⟩
                  simp only [redisGet_apply, Run.get_apply, hnext]
                  cases hv : w.lookup (nextAfterKey alertId) with
                  | none =>
                      exact attempt fun v hv' => absurd hv' (by rw [hv]; simp)
                  | some v =>
                      simp only
                      cases ht : nextAfterTime v with
                      | error x => exact hclean
                      | ok t =>
                          simp only [Run.ofExcept, Run.bind_apply,
                            Run.pure_apply, hnow]
                          by_cases hlt : w.now < t
                          · rw [if_pos hlt]
                            exact hclean
                          · rw [if_neg hlt]
                            apply attempt
                            intro v' hv'
                            rw [hv] at hv'
                            obtain rfl := Option.some.inj hv'
                            exact ⟨t, ht, Nat.le_of_not_lt hlt⟩

/-! ## §5  One pass -/

/-- An entry that a pass deletes unpublished is accepted by the dead-letter
publisher. -/
def EntryMeets (r : IngestReconciler) (alertId : String) (e : EntryEnv)
    (w : World) : Prop :=
  ∀ w', acquireLease r e.acquire alertId (w.advance e.wait) = (.ok true, w') →
    Exhausts r e.process alertId w' →
      r.hasDlq = true ∧ e.process.dlq = .returned

/-- The same for every entry that the pass comes to. -/
def ScanMeets (r : IngestReconciler) : List (String × EntryEnv) → World → Prop
  | [], _ => True
  | (alertId, e) :: rest, w =>
      EntryMeets r alertId e w ∧
        ∀ w', scanEntry r alertId e w = (.ok (), w') → ScanMeets r rest w'

theorem setNxEx_neverDrops {w : World} (h : NeverDrops w.log) (key : String)
    (value : RedisValue) (ttl : ℕ) :
    NeverDrops (w.setNxEx key value ttl).log := by
  unfold World.setNxEx
  split
  · exact h
  · exact h.setEx key value ttl

theorem releaseLease_keeps (r : IngestReconciler) (o : Outcome)
    (alertId : String) :
    Run.Keeps (fun w => NeverDrops w.log) (releaseLease r o alertId) := by
  apply Run.Keeps.tryExcept
  · apply Run.Keeps.call
    intro w hw
    split
    · apply hw.delete
      intro id hmem _
      exact absurd (List.mem_singleton.mp hmem) (pendingKey_ne_leaseKey id _)
    · exact hw
  · intro _
    exact Run.Keeps.pure ()

theorem scanEntry_neverDrops {r : IngestReconciler} {alertId : String}
    {e : EntryEnv} {w : World} (h : NeverDrops w.log)
    (hm : EntryMeets r alertId e w) :
    NeverDrops (scanEntry r alertId e w).2.log := by
  unfold scanEntry
  simp only [Run.bind_apply, Run.modify_apply]
  have hl : NeverDrops
      (acquireLease r e.acquire alertId (w.advance e.wait)).2.log := by
    rw [acquireLease, redisSetNxEx, Run.call_world]
    split
    · exact setNxEx_neverDrops (show NeverDrops (w.advance e.wait).log from h)
        _ _ _
    · exact h
  rcases ha : acquireLease r e.acquire alertId (w.advance e.wait) with
    ⟨_ | held, w'⟩
  · rw [ha] at hl
    exact hl
  rw [ha] at hl
  cases held with
  | false => exact hl
  | true =>
      have hp := processOne_neverDrops hl (hm w' ha)
      have hrel := releaseLease_keeps r e.release alertId _ hp
      simp only [if_true, Run.tryFinally]
      rcases hx : processOne r e.process alertId w' with ⟨(x | k) | a, w''⟩
      all_goals rw [hx] at hp hrel
      · rcases hy : releaseLease r e.release alertId w'' with ⟨_ | _, w3⟩
        all_goals
          rw [hy] at hrel
          simpa only [hy] using hrel
      · exact hp
      · rcases hy : releaseLease r e.release alertId w'' with ⟨_ | _, w3⟩
        all_goals
          rw [hy] at hrel
          simpa only [hy] using hrel

theorem scanEntries_neverDrops {r : IngestReconciler} :
    ∀ {entries : List (String × EntryEnv)} {w : World}, NeverDrops w.log →
      ScanMeets r entries w → NeverDrops (scanEntries r entries w).2.log
  | [], _, h, _ => h
  | (alertId, e) :: rest, w, h, hm => by
      have h1 := scanEntry_neverDrops h hm.1
      rw [scanEntries, Run.bind_apply]
      rcases hx : scanEntry r alertId e w with ⟨_ | ⟨⟩, w'⟩
      · rw [hx] at h1
        exact h1
      · rw [hx] at h1
        exact scanEntries_neverDrops h1 (hm.2 w' hx)

theorem runOnce_neverDrops {r : IngestReconciler} {e : ScanEnv} {w : World}
    (h : NeverDrops w.log) (hm : ScanMeets r e.entries w) :
    NeverDrops (runOnce r e w).2.log := by
  unfold runOnce
  cases r.hasClient with
  | false => exact h
  | true =>
      have hs := scanEntries_neverDrops h hm
      rw [if_neg (by decide), Run.bind_apply]
      rcases hx : scanEntries r e.entries w with ⟨_ | ⟨⟩, w'⟩
      · rw [hx] at hs
        exact hs
      · rw [hx] at hs
        simp only [Run.bind_apply]
        rcases e.last with _ | b | b
        · exact hs
        · cases b <;> exact hs
        · cases b <;> exact hs

/-! ## §6  A pass takes no release back -/

/-- The reconciler writes counts, leases and backoff times, never an entry. -/
theorem setEx_keeps_released {id key : String} {value : RedisValue} {ttl : ℕ}
    {w : World} (hk : pendingKey id ≠ key) (h : released id w.log = true) :
    released id (w.setEx key value ttl).log = true := by
  rw [World.setEx, released_redisSet hk.symm, h]

theorem delete_keeps_released {id : String} {keys : List String}
    (w : World) (h : released id w.log = true) :
    released id (w.delete keys).log = true := by
  rw [released_delete, h]

theorem publish_keeps_released {id : String} {w : World} (e : PublishEnv)
    (subject : Json) (payload : Body) (msgId : Option String)
    (h : released id w.log = true) :
    released id
      (w.afterPublishJson e subject payload msgId [] true).log = true := by
  cases subject with
  | str s =>
      simp only [World.afterPublishJson, World.afterPublish]
      split
      · simp [publishEvent, released, h]
      · exact h
  | _ => exact h

theorem released_kept (id : String) :
    KeptByReconciler fun w => released id w.log = true where
  advance _ _ h := h
  setEx hk h := setEx_keeps_released (hk id) h
  overwrite hk h := by rw [World.overwrite, released_redisSet (hk id).symm, h]
  expire h := h
  delete h := delete_keeps_released _ h
  publish e subject payload alertId _ h :=
    publish_keeps_released e subject payload (some alertId) h
  dlqTaken h := by simp [released, h]

/-! ## §7  Runs -/

/-- The shared stores, and the ingest calls whose publish was acknowledged and
whose `mark_published` is still to come: the id, and whether the entry has
stayed unwritten since that acknowledgement. -/
structure WalState where
  world : World
  owed : List (String × Bool)

/-- What the processes do, one call at a time. The connection is that of the
process that makes the call. -/
inductive WalStep where
  | tick (d : ℕ)
  | writeAhead (r : IngestReconciler) (o : Outcome) (alertId : String)
      (payload : Json)
  | publishInline (c : Connection) (e : PublishEnv) (alertId subject : String)
      (body : Body)
  | markPublished (r : IngestReconciler) (o : Outcome) (alertId : String)
      (fresh : Bool)
  | runOnce (r : IngestReconciler) (c : Connection) (e : ScanEnv)

/-- One call. `mark_published` is only called by an ingest call whose publish
was acknowledged. -/
def walStep (s : WalState) : WalStep → Option WalState
  | .tick d => some { s with world := s.world.advance d }
  | .writeAhead r o alertId payload =>
      some
        { world := (AlertTriage.writeAhead r o alertId payload s.world).2
          owed := if r.hasClient && o.applied then
              s.owed.map fun m => if m.1 = alertId then (m.1, false) else m
            else s.owed }
  | .publishInline c e alertId subject body =>
      let out := publish e subject body (some alertId) [] true
        (s.world.setConn c)
      some
        { world := out.2
          owed := if e.confirms c && !e.dies c then
              (alertId, true) :: s.owed
            else s.owed }
  | .markPublished r o alertId fresh =>
      if (alertId, fresh) ∈ s.owed then
        some
          { world := (AlertTriage.markPublished r o alertId s.world).2
            owed := s.owed.erase (alertId, fresh) }
      else none
  | .runOnce r c e =>
      some { s with world := (AlertTriage.runOnce r e (s.world.setConn c)).2 }

/-- Entries of any earlier history, an empty log. -/
def walSystem : System WalState WalStep where
  start s := s.world.log = [] ∧ s.owed = []
  step := walStep

/-- The condition on one step: `mark_published` meets no entry that was written
after the acknowledgement it follows, and an entry that a pass gives up on is
accepted by a dead-letter publisher. -/
def WalStep.Meets (s : WalState) : WalStep → Prop
  | .markPublished _ _ alertId fresh =>
      fresh = true ∨ ¬ HoldsObject alertId s.world
  | .runOnce r c e => ScanMeets r e.entries (s.world.setConn c)
  | _ => True

/-- The invariant: the log is clean, and a fresh mark means a released
entry. -/
structure WalInv (s : WalState) : Prop where
  clean : NeverDrops s.world.log
  fresh : ∀ id, (id, true) ∈ s.owed → released id s.world.log = true

theorem walInv_step {s s' : WalState} {a : WalStep} (h : WalInv s)
    (hm : WalStep.Meets s a) (hs : walStep s a = some s') : WalInv s' := by
  cases a with
  | tick d =>
      obtain rfl := Option.some.inj hs
      exact ⟨h.clean, h.fresh⟩
  | writeAhead r o alertId payload =>
      obtain rfl := Option.some.inj hs
      simp only [writeAhead_spec, World.afterWriteAhead]
      by_cases ha : (r.hasClient && o.applied) = true
      · simp only [if_pos ha]
        refine ⟨h.clean.setEx _ _ _, fun id hid => ?_⟩
        obtain ⟨⟨id', f⟩, hmem, heq⟩ := List.mem_map.mp hid
        -- the entry written ahead is fresh no more
        by_cases hid' : id' = alertId
        · simp [hid'] at heq
        · rw [if_neg hid'] at heq
          obtain ⟨rfl, rfl⟩ := Prod.mk.inj heq
          exact setEx_keeps_released
            (fun hk => hid' (pendingKey_injective hk)) (h.fresh _ hmem)
      · simp only [if_neg ha]
        exact h
  | publishInline c e alertId subject body =>
      obtain rfl := Option.some.inj hs
      have hpub := publishJson_spec e (.str subject) body (some alertId) [] true
        (s.world.setConn c)
      rw [publishJson] at hpub
      simp only [hpub]
      refine ⟨NeverDrops.afterPublishJson (w := s.world.setConn c) h.clean
        _ _ _ _ _, fun id hid => ?_⟩
      have hkeep : released id s.world.log = true →
          released id ((s.world.setConn c).afterPublishJson e (.str subject)
            body (some alertId) [] true).log = true := by
        intro hr
        exact publish_keeps_released (w := s.world.setConn c) e (.str subject)
          body (some alertId) hr
      by_cases hc : (e.confirms c && !e.dies c) = true
      · rw [if_pos hc] at hid
        rcases List.mem_cons.mp hid with heq | hmem
        · obtain ⟨rfl, -⟩ := Prod.mk.inj heq
          apply released_afterPublishJson
          exact (Bool.and_eq_true_iff.mp hc).1
        · exact hkeep (h.fresh id hmem)
      · rw [if_neg hc] at hid
        exact hkeep (h.fresh id hid)
  | markPublished r o alertId fresh =>
      simp only [walStep] at hs
      split at hs
      · rename_i hmem
        obtain rfl := Option.some.inj hs
        simp only [markPublished_spec]
        refine ⟨h.clean.afterMarkPublished ?_ r o, fun id hid => ?_⟩
        · intro hobj
          -- a fresh mark follows its release, and any other finds no entry to drop
          rcases hm with rfl | hno
          · exact h.fresh alertId hmem
          · exact absurd hobj hno
        · have hr := h.fresh id (List.mem_of_mem_erase hid)
          unfold World.afterMarkPublished
          split
          · exact delete_keeps_released _ hr
          · exact hr
      · exact absurd hs (by simp)
  | runOnce r c e =>
      obtain rfl := Option.some.inj hs
      exact ⟨runOnce_neverDrops (w := s.world.setConn c) h.clean hm,
        fun id hid => (released_kept id).runOnce r e (s.world.setConn c)
          (h.fresh id hid)⟩

/-- **Runs that meet the condition drop no alert**: in every state they come
to, each entry that was deleted while it held a JSON object had been published
with an acknowledgement, or accepted by a dead-letter publisher, since it was
written. -/
theorem never_drops {s : WalState}
    (h : walSystem.Reached WalStep.Meets s) : NeverDrops s.world.log := by
  have hinv : WalInv s := by
    refine h.invariant ?_ fun _ _ _ => walInv_step
    rintro s ⟨hlog, howed⟩
    refine ⟨?_, ?_⟩
    · rw [hlog]
      trivial
    · rw [howed]
      simp
  exact hinv.clean

/-- Nothing has happened yet. -/
def WalState.fresh : WalState := ⟨World.fresh, []⟩

/-- The entry of an alert of tenant `acme`. -/
def walEntry : Json :=
  .obj [("alert_id", .str "a1"),
    ("__subject__", .str "alerts.v1.acme.generic.a1")]

/-- An ingest call that publishes inline: its entry is deleted, released. -/
def inlineRun : List WalStep :=
  [.writeAhead (startupReconciler "api-1") .returned "a1" walEntry,
    .publishInline ⟨true, true⟩ ⟨.returned, .returned⟩ "a1"
      "alerts.v1.acme.generic.a1" (.utf8 "body"),
    .markPublished (startupReconciler "api-1") .returned "a1" true]

theorem never_drops_inlineRun :
    ∃ s, walSystem.run WalState.fresh inlineRun = some s ∧
      NeverDrops s.world.log :=
  have h0 : walSystem.Reached WalStep.Meets WalState.fresh :=
    .start ⟨rfl, rfl⟩
  have h1 := System.Reached.step (a := inlineRun[0]) h0 trivial rfl
  have h2 := System.Reached.step (a := inlineRun[1]) h1 trivial rfl
  ⟨_, rfl, never_drops (.step (a := inlineRun[2]) h2 (Or.inl rfl) rfl)⟩

/-- Everything answers but NATS, which refuses the publish. -/
def refused : ProcessEnv where
  getEntry := .returned
  deleteCorrupt := .returned
  incr := .returned
  expire := .returned
  getNextAfter := .returned
  publish := ⟨.returned, .raised false⟩
  markPublished := .returned
  setNextAfter := .returned
  dlq := .returned
  cleanup := .returned

/-- One pass of the reconciler that `startup` builds, over that entry. -/
def refusedPass : WalStep :=
  .runOnce (startupReconciler "api-1") ⟨true, true⟩
    ⟨[("a1", ⟨0, .returned, refused, .returned⟩)], .returned⟩

/-- The entry is written, and seven passes meet a NATS that refuses. Every
pass counts, though only the first and the last are due. -/
def refusedRun : List WalStep :=
  .writeAhead (startupReconciler "api-1") .returned "a1" walEntry ::
    (List.replicate 6 refusedPass ++ [.tick (5 * second), refusedPass])

/-- The reconciler that production builds deletes an entry no publish of which
was acknowledged. -/
theorem drops_unpublished :
    ¬ ∀ s, walSystem.Reachable s → NeverDrops s.world.log := by
  intro h
  have hrun : (walSystem.run WalState.fresh refusedRun).any
      (fun s => !decide (NeverDrops s.world.log)) = true := by decide +kernel
  obtain ⟨s, hs, hno⟩ := (Option.any_eq_true _ _).mp hrun
  have h0 : walSystem.Reachable WalState.fresh := .start ⟨rfl, rfl⟩
  simp [h s (System.reached_of_run h0 hs)] at hno

end AlertTriage
