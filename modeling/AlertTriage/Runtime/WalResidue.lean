import AlertTriage.Runtime.LeaseExclusion

/-!
# What `mark_published` leaves behind

The reconciler keeps four keys for an alert: the entry, its lease, its attempt count
and its next-retry time. `mark_published` removes the first three, `_move_to_dlq` the
entry, the count and the time. A next-retry time that is stored when an alert is
marked published therefore stays, and holds back the attempts on an entry that is
written later under the same id; where none is stored the alert starts afresh
(`no_residue_iff`).
-/

namespace AlertTriage

open Library

variable {ι : Type}

/-- No key of the reconciler for the alert is present. -/
structure NoResidue (alertId : String) (w : World) : Prop where
  pending : w.lookup (pendingKey alertId) = none
  lease : w.lookup (leaseKey alertId) = none
  attempts : w.lookup (attemptsKey alertId) = none
  nextAfter : w.lookup (nextAfterKey alertId) = none

/-- An entry written now is tried as one written for the first time: its lease is
free, it is due, and the attempt is the first. -/
def FirstTried (alertId : String) (w : World) : Prop :=
  ∀ (r : IngestReconciler) (payload : Json) (e : ProcessEnv),
    (w.afterWriteAhead r .returned alertId payload).lookup (leaseKey alertId) = none ∧
      Due alertId (w.afterWriteAhead r .returned alertId payload) ∧
      attemptNumber e alertId (w.afterWriteAhead r .returned alertId payload) = 1

/-- The alert whose `mark_published` is the next command. -/
def marks (s : Fleet ι) : FleetStep ι → Option String
  | .markPublished r alertId => if r.hasClient then some alertId else none
  | .go i _ _ _ =>
      match s.turns i with
      | some ⟨alertId, _, .marking⟩ => some alertId
      | _ => none
  | _ => none

variable [DecidableEq ι]

/-- The step leaves nothing behind of the alert that it marks published. -/
def LeavesNone (cfg : ι → IngestReconciler) (s : Fleet ι) (l : FleetStep ι) : Prop :=
  ∀ a ∈ marks s l, ∀ s', fleetStep cfg s l = some s' →
    NoResidue a s'.world ∧ FirstTried a s'.world

omit [DecidableEq ι] in
/-- No next-retry time is stored for the alert that the step marks published. -/
def NoRetryStored (s : Fleet ι) (l : FleetStep ι) : Prop :=
  ∀ a ∈ marks s l, s.world.lookup (nextAfterKey a) = none

omit [DecidableEq ι] in
instance (s : Fleet ι) (l : FleetStep ι) : Decidable (NoRetryStored s l) := by
  unfold NoRetryStored
  infer_instance

/-! ## §1  One `mark_published` -/

theorem lookup_afterWriteAhead_ne {r : IngestReconciler} {alertId key : String}
    {payload : Json} {w : World} (h : key ≠ pendingKey alertId) :
    (w.afterWriteAhead r .returned alertId payload).lookup key = w.lookup key := by
  unfold World.afterWriteAhead
  split
  · exact World.lookup_setEx_ne h
  · rfl

theorem NoResidue.firstTried {alertId : String} {w : World}
    (h : NoResidue alertId w) : FirstTried alertId w := by
  intro r payload e
  refine ⟨?_, ?_, ?_⟩
  · rw [lookup_afterWriteAhead_ne (pendingKey_ne_leaseKey alertId alertId).symm]
    exact h.lease
  · intro value hvalue
    rw [lookup_afterWriteAhead_ne (pendingKey_ne_nextAfterKey alertId alertId).symm,
      h.nextAfter] at hvalue
    cases hvalue
  · unfold attemptNumber
    rw [lookup_afterWriteAhead_ne (pendingKey_ne_attemptsKey alertId alertId).symm,
      h.attempts]
    split <;> rfl

/-- The time of the next retry is in none of the keys that are removed. -/
theorem nextAfterKey_notMem_marked (a : String) :
    nextAfterKey a ∉ [pendingKey a, leaseKey a, attemptsKey a] := by
  simp [(pendingKey_ne_nextAfterKey a a).symm, (leaseKey_ne_nextAfterKey a a).symm,
    nextAfterKey_ne_attemptsKey a]

theorem noResidue_afterMarkPublished {r : IngestReconciler} {alertId : String}
    {w : World} (hr : r.hasClient = true) :
    NoResidue alertId (w.afterMarkPublished r .returned alertId) ↔
      w.lookup (nextAfterKey alertId) = none := by
  have hw : w.afterMarkPublished r .returned alertId =
      w.delete [pendingKey alertId, leaseKey alertId, attemptsKey alertId] := by
    simp [World.afterMarkPublished, hr, Outcome.applied]
  have hkept := World.lookup_delete_of_notMem (w := w) (nextAfterKey_notMem_marked alertId)
  rw [hw]
  constructor
  · intro h
    rw [← hkept]
    exact h.nextAfter
  · intro h
    constructor
    · exact World.lookup_delete_of_mem (by simp)
    · exact World.lookup_delete_of_mem (by simp)
    · exact World.lookup_delete_of_mem (by simp)
    · rw [hkept]
      exact h

/-! ## §2  Runs -/

/-- Only a reconciler with a Redis client takes a turn. -/
def Connected (cfg : ι → IngestReconciler) (s : Fleet ι) : Prop :=
  ∀ i t, s.turns i = some t → (cfg i).hasClient = true

theorem Connected.step {cfg : ι → IngestReconciler} {s s' : Fleet ι}
    (h : Connected cfg s) {l : FleetStep ι} (hstep : fleetStep cfg s l = some s') :
    Connected cfg s' := by
  intro j u hu
  cases l with
  | lease i id =>
      simp only [fleetStep] at hstep
      split at hstep
      swap
      · cases hstep
      rename_i hcan
      obtain rfl := Option.some.inj hstep
      simp only at hu
      split at hu
      · exact h j u hu
      · rcases turn_update hu with ⟨rfl, -⟩ | ⟨-, hu⟩
        · exact hcan.1
        · exact h j u hu
  | go i c publish dlq =>
      cases ht : s.turns i with
      | none => simp [fleetStep, ht] at hstep
      | some t =>
          rw [fleetStep_go ht] at hstep
          obtain rfl := Option.some.inj hstep
          rcases turn_update hu with ⟨rfl, -⟩ | ⟨-, hu⟩
          · exact h j t ht
          · exact h j u hu
  | _ =>
      obtain rfl := Option.some.inj hstep
      exact h j u hu

theorem starts_afresh_iff {r : IngestReconciler} {alertId : String} {w : World}
    (hr : r.hasClient = true) :
    NoResidue alertId (w.afterMarkPublished r .returned alertId) ∧
        FirstTried alertId (w.afterMarkPublished r .returned alertId) ↔
      w.lookup (nextAfterKey alertId) = none := by
  rw [← noResidue_afterMarkPublished hr]
  exact ⟨fun h => h.1, fun h => ⟨h, h.firstTried⟩⟩

/-- What a step does if it is the `mark_published` of an alert. -/
theorem marks_cases {cfg : ι → IngestReconciler} {s : Fleet ι} {l : FleetStep ι}
    {a : String} (h : Connected cfg s) (ha : a ∈ marks s l) :
    ∃ r c s', r.hasClient = true ∧ fleetStep cfg s l = some s' ∧
      s'.world = (s.world.setConn c).afterMarkPublished r .returned a := by
  cases l with
  | markPublished r id =>
      simp only [marks] at ha
      split at ha
      · rename_i hr
        obtain rfl := Option.some.inj ha
        exact ⟨r, s.world.conn, _, hr, rfl, rfl⟩
      · cases ha
  | go i c publish dlq =>
      simp only [marks] at ha
      split at ha
      · rename_i since ht
        obtain rfl := Option.some.inj ha
        exact ⟨cfg i, c, _, h i _ ht, fleetStep_go ht c publish dlq, rfl⟩
      · cases ha
  | _ => cases ha

theorem leavesNone_iff {cfg : ι → IngestReconciler} {s : Fleet ι} {l : FleetStep ι}
    (h : Connected cfg s) : LeavesNone cfg s l ↔ NoRetryStored s l := by
  refine forall₂_congr fun a ha => ?_
  obtain ⟨r, c, s', hr, hstep, hworld⟩ := marks_cases h ha
  rw [← show (s.world.setConn c).lookup (nextAfterKey a) = s.world.lookup (nextAfterKey a)
    from rfl, ← starts_afresh_iff hr, ← hworld]
  constructor
  · intro hall
    exact hall s' hstep
  · intro hres s'' hstep'
    obtain rfl := Option.some.inj (hstep.symm.trans hstep')
    exact hres

theorem meets_leavesNone {cfg : ι → IngestReconciler} {s : Fleet ι}
    (h : Connected cfg s) (steps : List (FleetStep ι)) :
    (fleetSystem cfg).Meets (LeavesNone cfg) s steps ↔
      (fleetSystem cfg).Meets NoRetryStored s steps := by
  apply System.meets_congr (I := Connected cfg) _ _ h
  · intro s l s' hstep h
    exact h.step hstep
  · intro s l h
    exact leavesNone_iff h

theorem connected_of_start {cfg : ι → IngestReconciler} {s : Fleet ι}
    (hs : (fleetSystem cfg).start s) : Connected cfg s := by
  intro i t ht
  rw [hs.2.2 i] at ht
  cases ht

/-- **`mark_published` leaves no residue exactly where no next-retry time is stored**:
in a run of any number of ingest calls and reconcilers, every alert that is marked
published starts afresh if and only if no step marks one published while a next-retry
time of it is stored. -/
theorem no_residue_iff {cfg : ι → IngestReconciler} {s : Fleet ι}
    (hs : (fleetSystem cfg).start s) (steps : List (FleetStep ι)) :
    (fleetSystem cfg).Meets (LeavesNone cfg) s steps ↔
      (fleetSystem cfg).Meets NoRetryStored s steps :=
  meets_leavesNone (connected_of_start hs) steps

theorem no_residue_overlapping :
    (fleetSystem twoReconcilers).Meets (LeavesNone twoReconcilers) (Fleet.fresh (Fin 2))
      overlapping :=
  (no_residue_iff ⟨rfl, rfl, fun _ => rfl⟩ overlapping).mpr (by decide +kernel)

/-- A reconciler goes on, and NATS refuses. -/
def refusedGo : FleetStep (Fin 2) := .go procA ⟨true, true⟩ ⟨.returned, .raised false⟩ .returned

/-- The reconciler's publish fails, the inline publish of the same alert does not. -/
def failedThenMarked : List (FleetStep (Fin 2)) :=
  [.writeAhead (twoReconcilers procA) "a1" walEntry, .lease procA "a1", refusedGo, refusedGo,
    refusedGo, refusedGo, refusedGo, refusedGo, refusedGo,
    .markPublished (twoReconcilers procA) "a1"]

/-- The retry time of the failed publish outlives the entry. -/
theorem marked_leaves_residue :
    ¬ ∀ steps, (fleetSystem twoReconcilers).Meets (LeavesNone twoReconcilers)
      (Fleet.fresh (Fin 2)) steps := by
  intro hall
  have hmeets := (meets_leavesNone (connected_of_start ⟨rfl, rfl, fun _ => rfl⟩)
    failedThenMarked).mp (hall failedThenMarked)
  revert hmeets
  decide +kernel

end AlertTriage
