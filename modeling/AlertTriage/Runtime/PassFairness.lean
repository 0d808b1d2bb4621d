import AlertTriage.Runtime.LeaseExclusion

/-!
# One pass over all entries

`run_once` releases the lease of an entry in a `finally`, but catches nothing: what
`_process_one` raises ends the pass. It raises where an entry that is due loads as
JSON and the subject resolver refuses it, and `_wal_subject_resolver` refuses what is
no object and what has no subject. The entries that SCAN would have yielded after it
wait for the next pass, which may meet the same entry first. A pass comes to all its
entries exactly where none but the last of them raises (`pass_fair_iff`).
-/

namespace AlertTriage

open Library

/-! ## §1  What one entry raises -/

/-- The entry holds the JSON value. -/
def Loaded (alertId : String) (w : World) (payload : Json) : Prop :=
  ∃ value, w.lookup (pendingKey alertId) = some value ∧ value.toText ≠ "" ∧
    Json.loads value.toText = some payload

/-- `_process_one` raises: the entry loads, and its next-retry time is no number or it
is due and the resolver refuses its payload. -/
def Raises (r : IngestReconciler) (alertId : String) (w : World) : Prop :=
  ∃ payload, Loaded alertId w payload ∧
    ((∃ value x, w.lookup (nextAfterKey alertId) = some value ∧
        nextAfterTime value = .error x) ∨
      (Due alertId w ∧ ∃ x, r.publishSubjectFor payload = .error x))

/-- Nothing in the call ends the process. -/
structure Survives (publish : PublishEnv) (dlq : Outcome) : Prop where
  connect : publish.connect.kills = false
  send : publish.send.kills = false
  dlq : dlq.kills = false

variable {r : IngestReconciler} {publish : PublishEnv} {dlq : Outcome}
  {alertId : String} {w : World} {payload : Json}

theorem Survives.publishes (h : Survives publish dlq) (subject : Json) (c : Connection) :
    publish.diesJson subject c = false := by
  cases subject <;> simp [PublishEnv.diesJson, PublishEnv.dies, h.connect, h.send]

/-- What counting an attempt leaves alone. -/
structure Counted (alertId : String) (w w' : World) : Prop where
  now : w'.now = w.now
  conn : w'.conn = w.conn
  get : ∀ key, key ≠ attemptsKey alertId → w'.lookup key = w.lookup key

theorem incrementAttempts_counted (r : IngestReconciler) (publish : PublishEnv)
    (dlq : Outcome) (alertId : String) (w : World) :
    ∃ n w', incrementAttempts r (.smooth publish dlq) alertId w = (.ok n, w') ∧
      Counted alertId w w' := by
  rw [incrementAttempts_smooth]
  unfold redisIncr
  rcases w.lookup (attemptsKey alertId) with _ | s | n | t
  · refine ⟨_, _, rfl, rfl, rfl, fun key hkey => ?_⟩
    rw [World.lookup_expire_ne hkey, World.lookup_overwrite_ne hkey]
  · exact ⟨_, _, rfl, rfl, rfl, fun _ _ => rfl⟩
  · refine ⟨_, _, rfl, rfl, rfl, fun key hkey => ?_⟩
    rw [World.lookup_expire_ne hkey, World.lookup_overwrite_ne hkey]
  · exact ⟨_, _, rfl, rfl, rfl, fun _ _ => rfl⟩

/-- The commands from the look at the entry to the look at the clock. -/
theorem processOne_loaded (r : IngestReconciler) (publish : PublishEnv) (dlq : Outcome)
    (h : Loaded alertId w payload) :
    ∃ n w', Counted alertId w w' ∧
      processOne r (.smooth publish dlq) alertId w =
        (afterCheck r payload n w.now (w.lookup (nextAfterKey alertId))).rest r publish
          dlq alertId w' := by
  obtain ⟨value, hvalue, hne, hload⟩ := h
  obtain ⟨n, w', hcount, hframe⟩ := incrementAttempts_counted r publish dlq alertId w
  refine ⟨n, w', hframe, ?_⟩
  have hread : processOne r (.smooth publish dlq) alertId w =
      (Point.counting payload).rest r publish dlq alertId w := by
    rw [show processOne r (.smooth publish dlq) alertId w =
      Point.reading.rest r publish dlq alertId w from rfl, Point.rest_next]
    simp only [Point.next, hvalue, if_neg hne, hload]
  rw [hread, Point.rest, Run.bind_ok hcount, ← rest_afterCheck, hframe.now,
    hframe.get _ (nextAfterKey_ne_attemptsKey alertId)]

theorem moveToDlq_ok (hd : dlq.kills = false) (reason : String) :
    (moveToDlq r (.smooth publish dlq) alertId reason w).1 = .ok () := by
  have hoffer : (offerToDlq r (.smooth publish dlq) alertId reason w).1 = .ok () := by
    unfold offerToDlq
    split
    · simp [Run.tryExcept_call_unit, ProcessEnv.smooth, hd]
    · rfl
  rcases ho : offerToDlq r (.smooth publish dlq) alertId reason w with ⟨x, w'⟩
  rw [ho] at hoffer
  obtain rfl : x = .ok () := hoffer
  rw [moveToDlq, Run.bind_ok ho]
  rfl

/-- Once the publish has started nothing is raised. -/
theorem finishPublish_ok (hs : Survives publish dlq) (n : ℕ) (subject : Json) :
    (finishPublish r publish dlq alertId payload n subject w).1 = .ok () := by
  unfold finishPublish
  simp only [ProcessEnv.smooth, Run.bind_apply, publishJson_spec, hs.publishes,
    Bool.false_eq_true, if_false]
  cases publish.confirmsJson subject w.conn with
  | true => simp [markPublished_spec, Outcome.kills]
  | false =>
      simp only [Bool.false_eq_true, if_false, redisSetEx, Run.call, Run.bind_apply,
        Run.get_apply]
      split
      · exact moveToDlq_ok hs.dlq _
      · rfl

/-- A point after the look at the clock returns, unless it releases with an
exception. -/
theorem rest_afterCheck_ok (hs : Survives publish dlq) (n now : ℕ)
    (value : Option RedisValue) {w' : World} :
    ((afterCheck r payload n now value).rest r publish dlq alertId w').1 = .ok () ↔
      ∀ x, afterCheck r payload n now value ≠ .releasing (some x) := by
  have hstart : ((startPublish r payload n).rest r publish dlq alertId w').1 = .ok () ↔
      ∀ x, startPublish r payload n ≠ .releasing (some x) := by
    unfold startPublish
    cases r.publishSubjectFor payload with
    | ok subject => simp [Point.rest, finishPublish_ok hs]
    | error x => simp [Point.rest]
  unfold afterCheck
  split
  · exact hstart
  split
  · simp [Point.rest]
  split
  · simp [Point.rest]
  · exact hstart

/-- When the look at the clock leads to an exception. -/
theorem afterCheck_raises (n : ℕ) :
    (∃ x, afterCheck r payload n w.now (w.lookup (nextAfterKey alertId)) =
        .releasing (some x)) ↔
      (∃ value x, w.lookup (nextAfterKey alertId) = some value ∧
        nextAfterTime value = .error x) ∨
      (Due alertId w ∧ ∃ x, r.publishSubjectFor payload = .error x) := by
  have hstart : (∃ x, startPublish r payload n = .releasing (some x)) ↔
      ∃ x, r.publishSubjectFor payload = .error x := by
    unfold startPublish
    cases r.publishSubjectFor payload <;> simp
  unfold afterCheck Due
  cases w.lookup (nextAfterKey alertId) with
  | none => simpa using hstart
  | some value =>
      cases ht : nextAfterTime value with
      | error x => simp [ht]
      | ok t =>
          by_cases hlt : w.now < t
          · simp [ht, hlt]
          · simpa [ht, hlt, Nat.not_lt.mp hlt] using hstart

/-- **What `_process_one` raises**: nothing, unless the entry raises. -/
theorem processOne_ok_iff (hs : Survives publish dlq) :
    (processOne r (.smooth publish dlq) alertId w).1 = .ok () ↔ ¬ Raises r alertId w := by
  have hempty (h : ∀ payload, ¬ Loaded alertId w payload) : ¬ Raises r alertId w := by
    rintro ⟨payload, hl, -⟩
    exact h payload hl
  by_cases hl : ∃ payload, Loaded alertId w payload
  · obtain ⟨payload, hl⟩ := hl
    obtain ⟨n, w', -, heq⟩ := processOne_loaded r publish dlq hl
    have huniq (payload' : Json) (hl' : Loaded alertId w payload') : payload' = payload := by
      obtain ⟨value, hv, -, hj⟩ := hl
      obtain ⟨value', hv', -, hj'⟩ := hl'
      obtain rfl := Option.some.inj (hv.symm.trans hv')
      exact Option.some.inj (hj'.symm.trans hj)
    rw [heq, rest_afterCheck_ok hs, ← not_exists, not_iff_not, afterCheck_raises]
    constructor
    · exact fun h => ⟨payload, hl, h⟩
    · rintro ⟨payload', hl', h⟩
      rw [huniq payload' hl'] at h
      exact h
  · push Not at hl
    refine iff_of_true ?_ (hempty hl)
    -- nothing to load: the entry is absent, empty or corrupt
    rw [show processOne r (.smooth publish dlq) alertId w =
      Point.reading.rest r publish dlq alertId w from rfl, Point.rest_next]
    simp only [Point.next]
    cases hv : w.lookup (pendingKey alertId) with
    | none => rfl
    | some value =>
        by_cases hne : value.toText = ""
        · simp only [if_pos hne]
          rfl
        · cases hj : Json.loads value.toText with
          | none =>
              simp only [if_neg hne, hj]
              rfl
          | some payload => exact absurd ⟨value, hv, hne, hj⟩ (hl payload)

/-! ## §2  One entry of a pass -/

/-- Redis answers every command for the entry, and nothing ends the process. -/
structure EntryEnv.Smooth (e : EntryEnv) : Prop where
  acquire : e.acquire = .returned
  process : e.process = .smooth e.process.publish e.process.dlq
  release : e.release = .returned
  survives : Survives e.process.publish e.process.dlq

/-- The pass ends at the entry: its lease is free, and it raises. -/
def Spoils (r : IngestReconciler) (alertId : String) (e : EntryEnv) (w : World) : Prop :=
  (w.advance e.wait).lookup (leaseKey alertId) = none ∧
    Raises r alertId (w.advance e.wait)

/-- The world with the lease taken. -/
def World.withLease (r : IngestReconciler) (alertId : String) (w : World) : World :=
  w.setEx (leaseKey alertId) (.text r.owner) (r.lease * second)

theorem lookup_withLease {key : String} (hkey : key ≠ leaseKey alertId) :
    (w.withLease r alertId).lookup key = w.lookup key :=
  World.lookup_setEx_ne hkey

theorem raises_withLease : Raises r alertId (w.withLease r alertId) ↔ Raises r alertId w := by
  have hp := lookup_withLease (r := r) (w := w) (pendingKey_ne_leaseKey alertId alertId)
  have hn := lookup_withLease (r := r) (w := w) (leaseKey_ne_nextAfterKey alertId alertId).symm
  unfold Raises Loaded Due
  rw [hp, hn]
  exact Iff.rfl

/-- `_process_one` under the lease. -/
def processLeased (r : IngestReconciler) (alertId : String) (e : EntryEnv) : Io Unit :=
  fun w => processOne r e.process alertId ((w.advance e.wait).withLease r alertId)

/-- An entry with a free lease: `_process_one`, then the release. -/
theorem scanEntry_free {e : EntryEnv} (he : e.Smooth)
    (hfree : (w.advance e.wait).lookup (leaseKey alertId) = none) :
    (scanEntry r alertId e w).1 = (processLeased r alertId e w).1 ∧
      ((processLeased r alertId e w).1 = .ok () →
        (scanEntry r alertId e w).2 =
          (processLeased r alertId e w).2.afterRelease r alertId) := by
  unfold scanEntry processLeased
  simp only [Run.bind_apply, Run.modify_apply, acquireLease, redisSetNxEx, he.acquire,
    Run.call, hfree, Option.isSome_none, Bool.not_false, if_true, World.setNxEx,
    Bool.false_eq_true, if_false, he.release, Run.tryFinally, World.withLease]
  rcases processOne r e.process alertId ((w.advance e.wait).setEx (leaseKey alertId)
    (.text r.owner) (r.lease * second)) with ⟨(x | _) | u, w'⟩
  · exact ⟨rfl, fun h => by cases h⟩
  · exact ⟨rfl, fun h => by cases h⟩
  · exact ⟨rfl, fun _ => rfl⟩

/-- An entry whose lease is another's is passed over. -/
theorem scanEntry_taken {e : EntryEnv} (he : e.Smooth)
    (htaken : (w.advance e.wait).lookup (leaseKey alertId) ≠ none) :
    scanEntry r alertId e w = (.ok (), w.advance e.wait) := by
  have hsome := Option.isSome_iff_ne_none.mpr htaken
  unfold scanEntry
  simp only [Run.bind_apply, Run.modify_apply, acquireLease, redisSetNxEx, he.acquire,
    Run.call, hsome, Bool.not_true, Bool.false_eq_true, if_false, World.setNxEx, if_true]
  rfl

theorem scanEntry_ok_iff {e : EntryEnv} (he : e.Smooth) :
    (scanEntry r alertId e w).1 = .ok () ↔ ¬ Spoils r alertId e w := by
  unfold Spoils
  by_cases hfree : (w.advance e.wait).lookup (leaseKey alertId) = none
  · rw [(scanEntry_free he hfree).1, processLeased, he.process,
      processOne_ok_iff he.survives, raises_withLease]
    simp [hfree]
  · rw [scanEntry_taken he hfree]
    simp [hfree]

/-! ## §3  The pass -/

/-- The pass comes to every entry that SCAN yields, and a well-formed one with a free
lease that is due is published, if NATS acknowledges it. -/
structure PassFair (r : IngestReconciler) (e : ScanEnv) (w : World) : Prop where
  reached : ∀ before alertId entry after, e.entries = before ++ (alertId, entry) :: after →
    ∃ w', scanEntries r before w = (.ok (), w')
  published : ∀ before alertId entry after w' payload subject,
    e.entries = before ++ (alertId, entry) :: after →
    scanEntries r before w = (.ok (), w') →
    (w'.advance entry.wait).lookup (leaseKey alertId) = none →
    Loaded alertId (w'.advance entry.wait) payload →
    Due alertId (w'.advance entry.wait) → r.publishSubjectFor payload = .ok subject →
    entry.process.publish.confirmsJson subject w'.conn = true →
      ∃ msg, .stored (some alertId) msg true ∈ (runOnce r e w).2.log

/-- No entry but the last spoils the pass. -/
def NoneSpoils (r : IngestReconciler) : List (String × EntryEnv) → World → Prop
  | [], _ => True
  | [_], _ => True
  | (alertId, entry) :: rest, w =>
      ¬ Spoils r alertId entry w ∧ NoneSpoils r rest (scanEntry r alertId entry w).2

theorem scanEntries_append (before after : List (String × EntryEnv)) :
    scanEntries r (before ++ after) =
      (scanEntries r before >>= fun _ => scanEntries r after) := by
  induction before with
  | nil => rfl
  | cons x before ih =>
      obtain ⟨alertId, entry⟩ := x
      simp only [List.cons_append, scanEntries, ih]
      funext w
      simp only [Run.bind_apply]
      rcases scanEntry r alertId entry w with ⟨_ | _, w'⟩ <;> rfl

theorem scanEntries_cons {alertId : String} {entry : EntryEnv}
    {rest : List (String × EntryEnv)} {w w' : World} :
    scanEntries r ((alertId, entry) :: rest) w = (.ok (), w') ↔
      (scanEntry r alertId entry w).1 = .ok () ∧
        scanEntries r rest (scanEntry r alertId entry w).2 = (.ok (), w') := by
  rw [scanEntries, Run.bind_apply]
  rcases scanEntry r alertId entry w with ⟨_ | _, w1⟩
  · simp
  · simp

/-- The pass comes to an entry when none before it spoils it. -/
theorem reached_iff {entries : List (String × EntryEnv)}
    (he : ∀ x ∈ entries, x.2.Smooth) (w : World) :
    (∀ before alertId entry after, entries = before ++ (alertId, entry) :: after →
        ∃ w', scanEntries r before w = (.ok (), w')) ↔
      NoneSpoils r entries w := by
  -- on the entries, each in the world that the ones before it left
  induction entries generalizing w with
  | nil => simp [NoneSpoils]
  | cons x rest ih =>
      obtain ⟨alertId, entry⟩ := x
      have hx : (scanEntry r alertId entry w).1 = .ok () ↔ ¬ Spoils r alertId entry w :=
        scanEntry_ok_iff (he _ List.mem_cons_self)
      have hrest := ih (fun y hy => he y (List.mem_cons_of_mem _ hy))
        (scanEntry r alertId entry w).2
      cases rest with
      | nil =>
          refine iff_of_true ?_ trivial
          intro before id' entry' after heq
          cases before with
          | nil => exact ⟨w, rfl⟩
          | cons y ys => simp at heq
      | cons y ys =>
          show _ ↔ ¬ Spoils r alertId entry w ∧
            NoneSpoils r (y :: ys) (scanEntry r alertId entry w).2
          rw [← hx, ← hrest]
          constructor
          · intro h
            have hfirst : (scanEntry r alertId entry w).1 = .ok () := by
              obtain ⟨w', hw'⟩ := h [(alertId, entry)] y.1 y.2 ys rfl
              exact (scanEntries_cons.mp hw').1
            refine ⟨hfirst, ?_⟩
            intro before id' entry' after heq
            obtain ⟨w', hw'⟩ := h ((alertId, entry) :: before) id' entry' after
              (by rw [heq, List.cons_append])
            exact ⟨w', (scanEntries_cons.mp hw').2⟩
          · rintro ⟨hfirst, h⟩ before id' entry' after heq
            cases before with
            | nil => exact ⟨w, rfl⟩
            | cons z before =>
                rw [List.cons_append] at heq
                obtain ⟨hz, hrest'⟩ := List.cons.inj heq
                subst hz
                obtain ⟨w', hw'⟩ := h before id' entry' after hrest'
                exact ⟨w', scanEntries_cons.mpr ⟨hfirst, hw'⟩⟩

/-! ## §4  A due entry is published -/

/-- The reconciler forgets nothing that has happened. -/
theorem logged_kept (x : Event) : KeptByReconciler fun w => x ∈ w.log where
  advance _ _ h := h
  setEx _ h := List.mem_cons_of_mem _ h
  overwrite _ h := List.mem_cons_of_mem _ h
  expire h := h
  delete h := List.mem_append_right _ h
  publish e subject payload alertId w h := by
    cases subject with
    | str s =>
        unfold World.afterPublishJson World.afterPublish
        dsimp only
        split
        · exact List.mem_cons_of_mem _ h
        · exact h
    | _ => exact h
  dlqTaken h := List.mem_cons_of_mem _ h

theorem mem_log_afterMarkPublished {x : Event} (h : x ∈ w.log) :
    x ∈ (w.afterMarkPublished r .returned alertId).log := by
  unfold World.afterMarkPublished
  split
  · exact List.mem_append_right _ h
  · exact h

theorem processOne_publishes (dlq : Outcome) {subject : Json}
    (hl : Loaded alertId w payload) (hdue : Due alertId w) (hsub : r.publishSubjectFor payload = .ok subject)
    (hconf : publish.confirmsJson subject w.conn = true) :
    ∃ msg, .stored (some alertId) msg true ∈
      (processOne r (.smooth publish dlq) alertId w).2.log := by
  obtain ⟨n, w', hframe, heq⟩ := processOne_loaded r publish dlq hl
  rw [heq, afterCheck_of_due hdue, startPublish_ok hsub]
  rw [← hframe.conn] at hconf
  rcases log_afterPublishJson publish subject (.utf8 (Json.dumps pythonStyle payload))
    alertId w' with ⟨-, msg, hlog⟩ | ⟨hno, -⟩
  · refine ⟨msg, ?_⟩
    simp only [Point.rest, finishPublish, ProcessEnv.smooth, Run.bind_apply,
      publishJson_spec, diesJson_of_confirmsJson hconf, hconf, Bool.false_eq_true,
      if_false, if_true, markPublished_spec]
    apply mem_log_afterMarkPublished
    rw [hlog]
    exact List.mem_cons_self
  · rw [hconf] at hno
    cases hno

theorem not_raises_of_subject {subject : Json} (hl : Loaded alertId w payload)
    (hdue : Due alertId w) (hsub : r.publishSubjectFor payload = .ok subject) :
    ¬ Raises r alertId w := by
  rintro ⟨payload', ⟨value', hv', -, hj'⟩, hraise⟩
  obtain ⟨value, hv, -, hj⟩ := hl
  obtain rfl := Option.some.inj (hv'.symm.trans hv)
  obtain rfl := Option.some.inj (hj'.symm.trans hj)
  rcases hraise with ⟨next, x, hnext, hx⟩ | ⟨-, x, hx⟩
  · obtain ⟨t, ht, -⟩ := hdue next hnext
    rw [hx] at ht
    cases ht
  · rw [hx] at hsub
    cases hsub

/-- The event of the publish is in the log after the entry. -/
theorem scanEntry_publishes {e : EntryEnv} {subject : Json} (he : e.Smooth)
    (hfree : (w.advance e.wait).lookup (leaseKey alertId) = none)
    (hl : Loaded alertId (w.advance e.wait) payload) (hdue : Due alertId (w.advance e.wait))
    (hsub : r.publishSubjectFor payload = .ok subject)
    (hconf : e.process.publish.confirmsJson subject w.conn = true) :
    ∃ msg, .stored (some alertId) msg true ∈ (scanEntry r alertId e w).2.log := by
  have hp := lookup_withLease (r := r) (w := w.advance e.wait)
    (pendingKey_ne_leaseKey alertId alertId)
  have hn := lookup_withLease (r := r) (w := w.advance e.wait)
    (leaseKey_ne_nextAfterKey alertId alertId).symm
  have hl' : Loaded alertId ((w.advance e.wait).withLease r alertId) payload := by
    unfold Loaded
    rw [hp]
    exact hl
  have hdue' : Due alertId ((w.advance e.wait).withLease r alertId) := by
    unfold Due
    rw [hn]
    exact hdue
  have hok : (processLeased r alertId e w).1 = .ok () := by
    rw [processLeased, he.process, processOne_ok_iff he.survives]
    exact not_raises_of_subject hl' hdue' hsub
  obtain ⟨msg, hmsg⟩ := processOne_publishes e.process.dlq hl' hdue' hsub hconf
  refine ⟨msg, ?_⟩
  rw [(scanEntry_free he hfree).2 hok, processLeased, he.process]
  unfold World.afterRelease
  split
  · exact List.mem_append_right _ hmsg
  · exact hmsg

/-- The end of the pass writes nothing. -/
theorem mem_log_runOnce {e : ScanEnv} {x : Event} (hr : r.hasClient = true)
    (h : x ∈ (scanEntries r e.entries w).2.log) : x ∈ (runOnce r e w).2.log := by
  have hlast : Run.Keeps (fun w' : World => x ∈ w'.log)
      (do
        Run.call e.last redisError id fun _ => ()
        return e.entries.length : Io ℕ) :=
    Run.Keeps.bind (Run.Keeps.call fun _ hw => hw) fun _ => Run.Keeps.pure _
  unfold runOnce
  rw [if_neg (by simp [hr]), Run.bind_apply]
  rcases hs : scanEntries r e.entries w with ⟨_ | _, w'⟩
  · rw [hs] at h
    exact h
  · rw [hs] at h
    exact hlast w' h

/-- **A pass comes to all its entries exactly where none but the last raises**: an
entry that loads as JSON, is due and is refused by the subject resolver keeps every
entry after it from being attempted. -/
theorem pass_fair_iff {e : ScanEnv} (he : ∀ x ∈ e.entries, x.2.Smooth)
    (hr : r.hasClient = true) : PassFair r e w ↔ NoneSpoils r e.entries w := by
  rw [← reached_iff he]
  constructor
  · exact fun h => h.reached
  · intro h
    refine ⟨h, ?_⟩
    intro before alertId entry after w' payload subject heq hrun hfree hl hdue hsub hconf
    have hentry : entry.Smooth := he (alertId, entry) (by rw [heq]; simp)
    obtain ⟨msg, hmsg⟩ := scanEntry_publishes hentry hfree hl hdue hsub hconf
    refine ⟨msg, ?_⟩
    have hlog : Event.stored (some alertId) msg true ∈ (scanEntries r e.entries w).2.log := by
      rw [heq, scanEntries_append, Run.bind_ok hrun, scanEntries, Run.bind_apply]
      rcases hx : scanEntry r alertId entry w' with ⟨_ | _, w2⟩
      · rw [hx] at hmsg
        exact hmsg
      · rw [hx] at hmsg
        exact (logged_kept _).scanEntries r after w2 hmsg
    exact mem_log_runOnce hr hlog

/-- The resolver refuses what is no object, and an object without a subject. -/
theorem walSubjectResolver_error_iff :
    (∃ x, walSubjectResolver payload = .error x) ↔
      ∀ fields subject, payload = .obj fields →
        Json.lookup "__subject__" fields = some subject → subject.truthy = false := by
  have hobj (fields : Params) : (∃ x, walSubjectResolver (.obj fields) = .error x) ↔
      ∀ subject, Json.lookup "__subject__" fields = some subject →
        subject.truthy = false := by
    cases hl : Json.lookup "__subject__" fields with
    | none => simp [walSubjectResolver, hl]
    | some subject => cases ht : subject.truthy <;> simp [walSubjectResolver, hl, ht]
  cases payload with
  | obj fields =>
      rw [hobj]
      constructor
      · rintro h _ subject ⟨⟩ hl
        exact h subject hl
      · exact fun h subject hl => h fields subject rfl hl
  | _ => simp [walSubjectResolver]

/-- Redis answers and NATS acknowledges. -/
def smoothEntry : EntryEnv :=
  ⟨0, .returned, .smooth ⟨.returned, .returned⟩ .returned, .returned⟩

theorem smoothEntry_smooth : smoothEntry.Smooth :=
  ⟨rfl, rfl, rfl, ⟨rfl, rfl, rfl⟩⟩

/-- Two entries, of which SCAN yields `first` before `a1`. -/
def scanOf (first : String) : ScanEnv :=
  ⟨[(first, smoothEntry), ("a1", smoothEntry)], .returned⟩

theorem scanOf_smooth (first : String) : ∀ x ∈ (scanOf first).entries, x.2.Smooth := by
  intro x hx
  rcases List.mem_pair.mp hx with rfl | rfl
  · exact smoothEntry_smooth
  · exact smoothEntry_smooth

/-- A store with the text of an entry `first`, and the entry `a1` of an alert. -/
def worldWith (first text : String) : World :=
  (World.fresh.setEx (pendingKey first) (.text text) (100 * second)).setEx
    (pendingKey "a1") (.text (Json.dumps pythonStyle walEntry)) (100 * second)

/-- An entry that is no JSON is deleted, and the next one is published. -/
theorem pass_fair_corrupt :
    PassFair (startupReconciler "proc-A") (scanOf "bad") (worldWith "bad" "no json") := by
  apply (pass_fair_iff (scanOf_smooth "bad") rfl).mpr
  refine ⟨?_, trivial⟩
  rintro ⟨-, payload, ⟨value, hvalue, -, hload⟩, -⟩
  have hget : ((worldWith "bad" "no json").advance 0).lookup (pendingKey "bad") =
      some (.text "no json") := by decide +kernel
  obtain rfl := Option.some.inj (hvalue.symm.trans hget)
  have hno : Json.loads "no json" = none := by decide +kernel
  rw [RedisValue.toText, hno] at hload
  cases hload

/-- An entry that holds an array ends the pass, and `a1` is not attempted. -/
theorem array_starves :
    ¬ ∀ (r : IngestReconciler) (e : ScanEnv) (w : World), r.hasClient = true →
      (∀ x ∈ e.entries, x.2.Smooth) → PassFair r e w := by
  intro hall
  have hfair := hall (startupReconciler "proc-A") (scanOf "bad") (worldWith "bad" "[1]")
    rfl (scanOf_smooth "bad")
  obtain ⟨w', hw'⟩ := hfair.reached [("bad", smoothEntry)] "a1" smoothEntry [] rfl
  have herr : (scanEntries (startupReconciler "proc-A") [("bad", smoothEntry)]
      (worldWith "bad" "[1]")).1.isOk = false := by decide +kernel
  rw [hw'] at herr
  cases herr

end AlertTriage
