import AlertTriage.Runtime.LeaseExclusion

/-!
# The backoff schedule of an entry

`_process_one` counts an attempt before it looks whether the entry is due. A visit that
finds it not due has raised the count all the same, and both the delay after the next
failed publish and the decision to give the entry up are read off the count. So the
schedule of `_BACKOFF_SECONDS` is kept where every visit that counts finds the entry
due (`schedule_kept`), and a few scans between two attempts bring the dead-letter step
forward (`scans_bury_early`).

What one entry goes through is `EntryInv`, about the keys of the entry, its history and
the point at which it is worked on; by the exclusion of `LeaseExclusion.lean` there is
at most one such point.
-/

namespace AlertTriage

open Library

/-! ## §1  The schedule -/

section

variable (a : String)

/-- The publishes of the entry that have failed since it was written. -/
def failures : List EntryEvent → ℕ
  | [] => 0
  | .written id :: h => if id = a then 0 else failures h
  | .failed id _ :: h => if id = a then failures h + 1 else failures h
  | _ :: h => failures h

/-- When the last of them failed. -/
def lastFailed : List EntryEvent → ℕ
  | [] => 0
  | .failed id t :: h => if id = a then t else lastFailed h
  | _ :: h => lastFailed h

/-- The entry has been given up since it was written. -/
def buriedSince : List EntryEvent → Bool
  | [] => false
  | .written id :: h => id != a && buriedSince h
  | .buried id :: h => id == a || buriedSince h
  | _ :: h => buriedSince h

/-- What the schedule asks of an event: a publish starts only after the delay that
belongs to the number of failed ones, and not after the last; the entry is given up
when all have failed. -/
def InSchedule (h : List EntryEvent) : EntryEvent → Prop
  | .started id t => id = a → failures a h < backoffSeconds.length ∧
      (0 < failures a h → lastFailed a h + backoffDelay (failures a h) * second ≤ t)
  | .buried id => id = a → failures a h = backoffSeconds.length
  | _ => True

def OnSchedule : List EntryEvent → Prop
  | [] => True
  | x :: h => InSchedule a h x ∧ OnSchedule h

instance (h : List EntryEvent) : DecidablePred (InSchedule a h)
  | .started _ _ => inferInstanceAs (Decidable (_ → _))
  | .buried _ => inferInstanceAs (Decidable (_ → _))
  | .written _ => isTrue trivial
  | .failed _ _ => isTrue trivial

instance decidableOnSchedule : DecidablePred (OnSchedule a)
  | [] => isTrue trivial
  | x :: h =>
      have := decidableOnSchedule h
      inferInstanceAs (Decidable (InSchedule a h x ∧ OnSchedule a h))

end

/-- The events are about another entry. -/
def EntryEvent.Of (a : String) : EntryEvent → Prop
  | .written id => id = a
  | .started id _ => id = a
  | .failed id _ => id = a
  | .buried id => id = a

variable {a : String} {evs h : List EntryEvent}

/-- The history of an entry is not that of the others. -/
theorem history_frame (hev : ∀ x ∈ evs, ¬ x.Of a) :
    failures a (evs ++ h) = failures a h ∧ lastFailed a (evs ++ h) = lastFailed a h ∧
      buriedSince a (evs ++ h) = buriedSince a h ∧
      (OnSchedule a (evs ++ h) ↔ OnSchedule a h) := by
  induction evs with
  | nil => exact ⟨rfl, rfl, rfl, Iff.rfl⟩
  | cons x evs ih =>
      obtain ⟨h1, h2, h3, h4⟩ := ih fun y hy => hev y (List.mem_cons_of_mem _ hy)
      have hx := hev x List.mem_cons_self
      cases x <;>
        simp_all [EntryEvent.Of, failures, lastFailed, buriedSince, OnSchedule, InSchedule]

/-! ## §2  One entry -/

variable {ι : Type}

/-- What the attempt count holds after so many attempts. -/
def countOf : ℕ → Option RedisValue
  | 0 => none
  | n + 1 => some (.count (n + 1))

/-- The turn has counted its attempt and not yet learned that it failed. -/
def Point.counted : Point → ℕ
  | .renewing _ _ => 1
  | .checking _ _ => 1
  | .publishing _ _ _ => 1
  | _ => 0

/-- The last attempt has failed. -/
def Point.Last : Point → Prop
  | .scheduling _ _ => True
  | .offering => True
  | .cleaning => True
  | _ => False

/-- The entry is present at a time. -/
def Alive (a : String) (w : World) (τ : ℕ) : Prop :=
  w.redis.get τ (pendingKey a) ≠ none

/-- When the next attempt is due. -/
def retryTime (a : String) (h : List EntryEvent) : ℕ :=
  lastFailed a h + backoffDelay (failures a h) * second

/-- What a turn knows at its point. -/
def PointOk (r : IngestReconciler) (a : String) (w : World) (h : List EntryEvent) :
    Point → Prop
  | .counting _ => Alive a w w.now
  | .renewing payload n => Alive a w w.now ∧ n = failures a h + 1 ∧ Due a w ∧
      ∃ subject, r.publishSubjectFor payload = .ok subject
  | .checking payload n => Alive a w w.now ∧ n = failures a h + 1 ∧ Due a w ∧
      ∃ subject, r.publishSubjectFor payload = .ok subject
  | .publishing _ n _ => Alive a w w.now ∧ n = failures a h + 1
  | .marking => False
  | .scheduling n t => Alive a w w.now ∧ n = failures a h ∧ 0 < n ∧
      t = retryTime a h ∧ lastFailed a h ≤ w.now
  | .offering => Alive a w w.now ∧ failures a h = backoffSeconds.length
  | .cleaning => Alive a w w.now ∧ failures a h = backoffSeconds.length
  | _ => True

def countedAt : Option (ι × Point) → ℕ
  | some (_, p) => p.counted
  | none => 0

/-- The keys of an entry agree with its history, while a reconciler is at a point of
it or none is. -/
structure EntryInv (cfg : ι → IngestReconciler) (a : String) (w : World)
    (h : List EntryEvent) (p : Option (ι × Point)) : Prop where
  kept : OnSchedule a h
  life : ∀ i τ, w.now ≤ τ → Alive a w τ → τ < w.now + (cfg i).maxAge * second
  bound : failures a h ≤ backoffSeconds.length
  spent : failures a h = backoffSeconds.length →
    ¬ Alive a w w.now ∨ ∃ i q, p = some (i, q) ∧ q.Last
  ended : failures a h = backoffSeconds.length →
    buriedSince a h = true ∨ ∃ i n t, p = some (i, .scheduling n t)
  tally : ∀ τ, w.now ≤ τ → Alive a w τ →
    w.redis.get τ (attemptsKey a) = countOf (failures a h + countedAt p)
  retry : 0 < failures a h → (∀ i n t, p ≠ some (i, .scheduling n t)) →
    Alive a w w.now → ∀ τ, w.now ≤ τ → τ < retryTime a h →
      w.redis.get τ (nextAfterKey a) = some (.time (retryTime a h))
  point : ∀ i q, p = some (i, q) → PointOk (cfg i) a w h q

variable {cfg : ι → IngestReconciler} {w w' : World} {h' : List EntryEvent}
  {p p' : Option (ι × Point)}

/-- Present later, present now. -/
theorem Alive.of_le {τ τ' : ℕ} (hle : τ ≤ τ') (hal : Alive a w τ') : Alive a w τ := by
  intro hnone
  exact hal (TtlStore.get_none_of_le hle hnone)

/-- An entry that is gone. -/
theorem EntryInv.of_dead (hk : OnSchedule a h)
    (hb : failures a h ≤ backoffSeconds.length)
    (he : failures a h = backoffSeconds.length → buriedSince a h = true)
    (hdead : ∀ τ, w.now ≤ τ → ¬ Alive a w τ) : EntryInv cfg a w h none where
  kept := hk
  life _ τ hτ hal := absurd hal (hdead τ hτ)
  bound := hb
  spent _ := .inl (hdead _ le_rfl)
  ended hf := .inl (he hf)
  tally τ hτ hal := absurd hal (hdead τ hτ)
  retry _ _ hal := absurd hal (hdead _ le_rfl)
  point _ _ hp := by cases hp

/-- What an entry sees of a world: the clock and its three keys. -/
structure SameKeys (a : String) (w w' : World) : Prop where
  now : w'.now = w.now
  pending : ∀ τ, w'.redis.get τ (pendingKey a) = w.redis.get τ (pendingKey a)
  attempts : ∀ τ, w'.redis.get τ (attemptsKey a) = w.redis.get τ (attemptsKey a)
  nextAfter : ∀ τ, w'.redis.get τ (nextAfterKey a) = w.redis.get τ (nextAfterKey a)

/-- What it sees of a history. -/
structure SameHistory (a : String) (h h' : List EntryEvent) : Prop where
  kept : OnSchedule a h' ↔ OnSchedule a h
  failures : failures a h' = failures a h
  lastFailed : lastFailed a h' = lastFailed a h
  buried : buriedSince a h' = buriedSince a h

theorem SameKeys.alive (hw : SameKeys a w w') (τ : ℕ) :
    Alive a w' τ ↔ Alive a w τ := by
  unfold Alive
  rw [hw.pending]

theorem SameKeys.due (hw : SameKeys a w w') : Due a w' ↔ Due a w := by
  unfold Due World.lookup
  rw [hw.now, hw.nextAfter]

theorem SameHistory.retryTime (hh : SameHistory a h h') :
    retryTime a h' = retryTime a h := by
  unfold AlertTriage.retryTime
  rw [hh.failures, hh.lastFailed]

theorem PointOk.frame {r : IngestReconciler} (hw : SameKeys a w w')
    (hh : SameHistory a h h') {q : Point} (hq : PointOk r a w h q) :
    PointOk r a w' h' q := by
  cases q <;>
    simp only [PointOk, hw.alive, hw.due, hw.now, hh.failures, hh.retryTime,
      hh.lastFailed] at hq ⊢ <;>
    exact hq

/-- **Frame**: what others do to other keys does not concern the entry. -/
theorem EntryInv.frame (hinv : EntryInv cfg a w h p) (hw : SameKeys a w w')
    (hh : SameHistory a h h') : EntryInv cfg a w' h' p := by
  constructor
  · rw [hh.kept]
    exact hinv.kept
  · simp only [hw.alive, hw.now]
    exact hinv.life
  · rw [hh.failures]
    exact hinv.bound
  · simp only [hw.alive, hw.now, hh.failures]
    exact hinv.spent
  · rw [hh.failures, hh.buried]
    exact hinv.ended
  · simp only [hw.alive, hw.now, hw.attempts, hh.failures]
    exact hinv.tally
  · simp only [hw.alive, hw.now, hw.nextAfter, hh.failures, hh.retryTime]
    exact hinv.retry
  · intro i q hq
    exact (hinv.point i q hq).frame hw hh

theorem Due.later (hdue : Due a w) (d : ℕ) : Due a (w.advance d) := by
  intro value hvalue
  obtain ⟨t, ht, hle⟩ := hdue value (TtlStore.get_of_later (Nat.le_add_right _ d) hvalue)
  exact ⟨t, ht, hle.trans (Nat.le_add_right _ d)⟩

theorem PointOk.later {r : IngestReconciler} {q : Point} {d : ℕ}
    (hq : PointOk r a w h q)
    (hstay : w.redis.get (w.now + d) (pendingKey a) = w.lookup (pendingKey a)) :
    PointOk r a (w.advance d) h q := by
  have halive (hal : Alive a w w.now) : Alive a (w.advance d) (w.advance d).now := by
    unfold Alive
    rw [show (w.advance d).redis.get (w.advance d).now (pendingKey a) =
      w.redis.get (w.now + d) (pendingKey a) from rfl, hstay]
    exact hal
  cases q with
  | counting payload => exact halive hq
  | renewing payload n =>
      obtain ⟨hal, hn, hdue, hsub⟩ := hq
      exact ⟨halive hal, hn, hdue.later d, hsub⟩
  | checking payload n =>
      obtain ⟨hal, hn, hdue, hsub⟩ := hq
      exact ⟨halive hal, hn, hdue.later d, hsub⟩
  | publishing payload n subject => exact ⟨halive hq.1, hq.2⟩
  | scheduling n t =>
      obtain ⟨hal, hn, hpos, ht, hle⟩ := hq
      exact ⟨halive hal, hn, hpos, ht, hle.trans (Nat.le_add_right _ d)⟩
  | offering => exact ⟨halive hq.1, hq.2⟩
  | cleaning => exact ⟨halive hq.1, hq.2⟩
  | _ => exact hq

/-- Time passes while the entry stays, or nobody works on it. -/
theorem EntryInv.tick (hinv : EntryInv cfg a w h p) {d : ℕ}
    (hstay : p ≠ none →
      w.redis.get (w.now + d) (pendingKey a) = w.lookup (pendingKey a)) :
    EntryInv cfg a (w.advance d) h p := by
  have hle : w.now ≤ w.now + d := Nat.le_add_right _ d
  constructor
  · exact hinv.kept
  · intro i τ hτ hal
    exact (hinv.life i τ (hle.trans hτ) hal).trans_le (by
      show w.now + _ ≤ w.now + d + _
      omega)
  · exact hinv.bound
  · intro hf
    exact (hinv.spent hf).imp_left fun hdead hal => hdead (hal.of_le hle)
  · exact hinv.ended
  · intro τ hτ hal
    exact hinv.tally τ (hle.trans hτ) hal
  · intro hpos hp hal τ hτ hlt
    exact hinv.retry hpos hp (hal.of_le hle) τ (hle.trans hτ) hlt
  · intro i q hq
    exact (hinv.point i q hq).later (hstay (by rw [hq]; simp))

/-- A turn goes on over the same world. -/
theorem EntryInv.move (hinv : EntryInv cfg a w h p)
    (hcount : countedAt p' = countedAt p)
    (hlast : ∀ i q, p = some (i, q) → ¬ q.Last)
    (hpoint : ∀ i q, p' = some (i, q) → PointOk (cfg i) a w h q) :
    EntryInv cfg a w h p' := by
  have hnot : ∀ i n t, p ≠ some (i, .scheduling n t) := fun i n t heq =>
    hlast i _ heq trivial
  constructor
  · exact hinv.kept
  · exact hinv.life
  · exact hinv.bound
  · intro hf
    rcases hinv.spent hf with hdead | ⟨i, q, hq, hl⟩
    · exact .inl hdead
    · exact absurd hl (hlast i q hq)
  · intro hf
    rcases hinv.ended hf with hb | ⟨i, n, t, heq⟩
    · exact .inl hb
    · exact absurd heq (hnot i n t)
  · rw [hcount]
    exact hinv.tally
  · exact fun hpos _ => hinv.retry hpos hnot
  · exact hpoint

/-- While an entry is worked on before its last attempt has failed, fewer have failed
than the schedule has delays. -/
theorem EntryInv.not_spent (hinv : EntryInv cfg a w h p)
    (hlast : ∀ i q, p = some (i, q) → ¬ q.Last) (hal : Alive a w w.now) :
    failures a h < backoffSeconds.length := by
  rcases hinv.bound.lt_or_eq with hlt | heq
  · exact hlt
  · rcases hinv.spent heq with hdead | ⟨i, q, hq, hl⟩
    · exact absurd hal hdead
    · exact absurd hl (hlast i q hq)

/-! ## §3  The commands of a turn -/

/-- The condition on a command: a visit that counts finds the entry due and its subject
known, the publish is neither acknowledged nor the end of the process, and the retry
time is kept for as long as the delay. -/
def CommandOk (r : IngestReconciler) (a : String) (c : Connection)
    (publish : PublishEnv) (dlq : Outcome) (w : World) : Point → Prop
  | .counting payload => Due a w ∧ ∃ subject, r.publishSubjectFor payload = .ok subject
  | .publishing _ _ subject =>
      publish.confirmsJson subject c = false ∧ publish.diesJson subject c = false
  | .scheduling n _ => backoffDelay n ≤ r.maxAge
  | .offering => dlq.kills = false
  | _ => True

instance decidableDue : Decidable (Due a w) :=
  decidable_of_iff (∀ value ∈ w.lookup (nextAfterKey a),
      ((nextAfterTime value).toOption.any fun t => decide (t ≤ w.now)) = true) <| by
    refine forall₂_congr fun value _ => ?_
    cases nextAfterTime value <;> simp [Except.toOption]

instance (r : IngestReconciler) (c : Connection) (publish : PublishEnv) (dlq : Outcome) :
    DecidablePred (CommandOk r a c publish dlq w)
  | .counting payload =>
      decidable_of_iff
        (Due a w ∧ (r.publishSubjectFor payload).toOption.isSome = true) <| by
          apply and_congr Iff.rfl
          cases r.publishSubjectFor payload <;> simp [Except.toOption]
  | .publishing _ _ _ => inferInstanceAs (Decidable (_ ∧ _))
  | .scheduling _ _ => inferInstanceAs (Decidable (_ ≤ _))
  | .offering => inferInstanceAs (Decidable (_ = _))
  | .reading => isTrue trivial
  | .dropping => isTrue trivial
  | .renewing _ _ => isTrue trivial
  | .checking _ _ => isTrue trivial
  | .marking => isTrue trivial
  | .cleaning => isTrue trivial
  | .releasing _ => isTrue trivial

/-- The point at which an entry is worked on; the release is none. -/
def workedAt (i : ι) : Point → Option (ι × Point)
  | .releasing _ => none
  | q => some (i, q)

variable {i : ι} {payload : Json} {n : ℕ} {publish : PublishEnv} {dlq : Outcome}

theorem nextAfterKey_injective {b c : String} (hk : nextAfterKey b = nextAfterKey c) :
    b = c := by
  have h' := congrArg String.toList hk
  simp only [nextAfterKey, String.toList_append] at h'
  exact String.toList_inj.mp (List.append_cancel_left (List.append_cancel_right h'))

theorem attemptsKey_injective {b c : String} (hk : attemptsKey b = attemptsKey c) :
    b = c := by
  have h' := congrArg String.toList hk
  simp only [attemptsKey, String.toList_append] at h'
  exact String.toList_inj.mp (List.append_cancel_left h')

/-- `INCR` answers the next number. -/
theorem redisIncr_countOf {key : String} {k : ℕ} (hl : w.lookup key = countOf k) :
    redisIncr .returned key w = (.ok (k + 1), w.overwrite key (.count (k + 1))) := by
  unfold redisIncr
  cases k with
  | zero => rw [hl]; rfl
  | succ k => rw [hl]; rfl

/-- A command that touches the counter alone, before the last attempt has failed. -/
theorem EntryInv.counter (hinv : EntryInv cfg a w h p) (hnow : w'.now = w.now)
    (hpend : ∀ τ, w'.redis.get τ (pendingKey a) = w.redis.get τ (pendingKey a))
    (hnext : ∀ τ, w'.redis.get τ (nextAfterKey a) = w.redis.get τ (nextAfterKey a))
    (hlast : ∀ i q, p = some (i, q) → ¬ q.Last) (hal : Alive a w w.now)
    (htally : ∀ τ, w.now ≤ τ → Alive a w τ →
      w'.redis.get τ (attemptsKey a) = countOf (failures a h + countedAt p'))
    (hpoint : Alive a w' w'.now → (Due a w → Due a w') →
      ∀ i q, p' = some (i, q) → PointOk (cfg i) a w' h q) :
    EntryInv cfg a w' h p' := by
  have hlt := hinv.not_spent hlast hal
  have halive (τ : ℕ) : Alive a w' τ ↔ Alive a w τ := by rw [Alive, Alive, hpend]
  constructor
  · exact hinv.kept
  · intro j τ hτ hal'
    rw [hnow] at hτ ⊢
    exact hinv.life j τ hτ ((halive τ).mp hal')
  · exact hinv.bound
  · exact fun hf => absurd hf hlt.ne
  · exact fun hf => absurd hf hlt.ne
  · intro τ hτ hal'
    exact htally τ (hnow ▸ hτ) ((halive τ).mp hal')
  · intro hpos _ _ τ hτ hlt'
    rw [hnext]
    exact hinv.retry hpos (fun i n t heq => hlast i _ heq trivial) hal τ (hnow ▸ hτ) hlt'
  · apply hpoint
    · rw [hnow, halive]
      exact hal
    · intro hdue value hvalue
      rw [World.lookup, hnow, hnext] at hvalue
      rw [hnow]
      exact hdue value hvalue

theorem EntryInv.counting (hinv : EntryInv cfg a w h (some (i, .counting payload)))
    (hdue : Due a w) (hsub : ∃ subject, (cfg i).publishSubjectFor payload = .ok subject) :
    EntryInv cfg a (w.overwrite (attemptsKey a) (.count (failures a h + 1))) h
      (some (i, .renewing payload (failures a h + 1))) := by
  have hal : Alive a w w.now := hinv.point i _ rfl
  refine hinv.counter rfl ?_ ?_ ?_ hal ?_ ?_
  · intro τ
    exact TtlStore.get_overwrite_ne (pendingKey_ne_attemptsKey a a)
  · intro τ
    exact TtlStore.get_overwrite_ne (nextAfterKey_ne_attemptsKey a)
  · intro j q hq
    obtain ⟨-, rfl⟩ := Prod.mk.inj (Option.some.inj hq)
    exact id
  · intro τ hτ hal'
    have hnow := hinv.tally w.now le_rfl hal
    have hthen := hinv.tally τ hτ hal'
    apply TtlStore.get_overwrite_of_present
    rcases Nat.eq_zero_or_pos (failures a h) with h0 | hpos
    · rw [h0] at hnow
      exact .inl hnow
    · right
      rw [hthen]
      obtain ⟨m, hm⟩ := Nat.exists_eq_succ_of_ne_zero hpos.ne'
      simp [hm, countedAt, Point.counted, countOf]
  · intro halive hkeeps j q hq
    obtain ⟨rfl, rfl⟩ := Prod.mk.inj (Option.some.inj hq)
    exact ⟨halive, rfl, hkeeps hdue, hsub⟩

theorem EntryInv.renewing (hinv : EntryInv cfg a w h (some (i, .renewing payload n))) :
    EntryInv cfg a (w.expire (attemptsKey a) ((cfg i).maxAge * second)) h
      (some (i, .checking payload n)) := by
  obtain ⟨hal, hn, hdue, hsub⟩ := hinv.point i _ rfl
  refine hinv.counter rfl ?_ ?_ ?_ hal ?_ ?_
  · intro τ
    exact TtlStore.get_expire_ne (pendingKey_ne_attemptsKey a a)
  · intro τ
    exact TtlStore.get_expire_ne (nextAfterKey_ne_attemptsKey a)
  · intro j q hq
    obtain ⟨-, rfl⟩ := Prod.mk.inj (Option.some.inj hq)
    exact id
  · intro τ hτ hal'
    exact TtlStore.get_expire_of_lt (hinv.tally w.now le_rfl hal) (hinv.life i τ hτ hal')
  · intro halive hkeeps j q hq
    obtain ⟨rfl, rfl⟩ := Prod.mk.inj (Option.some.inj hq)
    exact ⟨halive, hn, hkeeps hdue, hsub⟩

theorem EntryInv.checking {subject : Json}
    (hinv : EntryInv cfg a w h (some (i, .checking payload n))) :
    EntryInv cfg a w (.started a w.now :: h)
      (some (i, .publishing payload n subject)) := by
  obtain ⟨hal, hn, hdue, hsub⟩ := hinv.point i _ rfl
  have hlast : ∀ j q, some (i, Point.checking payload n) = some (j, q) → ¬ q.Last := by
    intro j q hq
    obtain ⟨-, rfl⟩ := Prod.mk.inj (Option.some.inj hq)
    exact id
  have hlt := hinv.not_spent hlast hal
  have hmove : EntryInv cfg a w h (some (i, .publishing payload n subject)) := by
    refine hinv.move rfl hlast ?_
    intro j q hq
    obtain ⟨rfl, rfl⟩ := Prod.mk.inj (Option.some.inj hq)
    exact ⟨hal, hn⟩
  have hstart : InSchedule a h (.started a w.now) := by
    intro _
    refine ⟨hlt, fun hpos => ?_⟩
    by_contra hearly
    rw [Nat.not_le] at hearly
    -- the retry time is stored, and the entry would not be due
    obtain ⟨t, ht, hle⟩ := hdue _
      (hinv.retry hpos (by simp) hal w.now le_rfl hearly)
    obtain rfl := Except.ok.inj ht
    exact absurd hearly (Nat.not_lt.mpr hle)
  refine ⟨⟨hstart, hinv.kept⟩, hmove.life, hmove.bound, hmove.spent, hmove.ended,
    hmove.tally, hmove.retry, ?_⟩
  intro j q hq
  obtain ⟨rfl, rfl⟩ := Prod.mk.inj (Option.some.inj hq)
  exact ⟨hal, hn⟩

theorem EntryInv.publishing {subject : Json} (hsame : SameKeys a w w')
    (hinv : EntryInv cfg a w h (some (i, .publishing payload n subject))) :
    EntryInv cfg a w' (.failed a w.now :: h)
      (some (i, .scheduling n (w'.now + backoffDelay n * second))) := by
  obtain ⟨hal, hn⟩ := hinv.point i _ rfl
  have hlast : ∀ j q, some (i, Point.publishing payload n subject) = some (j, q) →
      ¬ q.Last := by
    intro j q hq
    obtain ⟨-, rfl⟩ := Prod.mk.inj (Option.some.inj hq)
    exact id
  have hlt := hinv.not_spent hlast hal
  -- the failure goes on record with the command that meets it
  have hfail : failures a (.failed a w.now :: h) = failures a h + 1 := by simp [failures]
  have hinv' := hinv.frame hsame ⟨Iff.rfl, rfl, rfl, rfl⟩
  constructor
  · exact ⟨trivial, hinv.kept⟩
  · exact hinv'.life
  · rw [hfail]
    exact hlt
  · intro _
    exact .inr ⟨i, _, rfl, trivial⟩
  · intro _
    exact .inr ⟨i, _, _, rfl⟩
  · rw [hfail]
    exact hinv'.tally
  · intro _ hp
    exact absurd rfl (hp i _ _)
  · intro j q hq
    obtain ⟨rfl, rfl⟩ := Prod.mk.inj (Option.some.inj hq)
    refine ⟨?_, ?_, ?_, ?_, ?_⟩
    · rw [hsame.alive, hsame.now]
      exact hal
    · rw [hfail, hn]
    · rw [hn]
      exact Nat.succ_pos _
    · simp [retryTime, lastFailed, hfail, hn, hsame.now]
    · simp [lastFailed, hsame.now]

/-- The world after the retry time has been stored. -/
theorem sameKeys_setEx (w : World) (t ttl : ℕ) :
    (∀ τ, (w.setEx (nextAfterKey a) (.time t) ttl).redis.get τ (pendingKey a) =
      w.redis.get τ (pendingKey a)) ∧
    ∀ τ, (w.setEx (nextAfterKey a) (.time t) ttl).redis.get τ (attemptsKey a) =
      w.redis.get τ (attemptsKey a) :=
  ⟨fun _ => TtlStore.get_setEx_ne (pendingKey_ne_nextAfterKey a a),
    fun _ => TtlStore.get_setEx_ne (nextAfterKey_ne_attemptsKey a).symm⟩

/-- The stored time lasts until the retry is due. -/
theorem retry_stored {r : IngestReconciler} {t : ℕ}
    (hpoint : PointOk r a w h (.scheduling n t)) (hdelay : backoffDelay n ≤ r.maxAge)
    {τ : ℕ} (hlt : τ < retryTime a h) :
    (w.setEx (nextAfterKey a) (.time t) (r.maxAge * second)).redis.get τ (nextAfterKey a) =
      some (.time (retryTime a h)) := by
  obtain ⟨-, hn, -, ht, hle⟩ := hpoint
  rw [← ht]
  apply TtlStore.get_setEx_of_lt
  -- the time is stored for at least the delay, and the failure is in the past
  have hd : backoffDelay n * second ≤ r.maxAge * second := Nat.mul_le_mul_right _ hdelay
  rw [retryTime, ← hn] at hlt
  omega

/-- There are attempts left. -/
theorem EntryInv.waits {t : ℕ} (hinv : EntryInv cfg a w h (some (i, .scheduling n t)))
    (hdelay : backoffDelay n ≤ (cfg i).maxAge) (hleft : n < backoffSeconds.length) :
    EntryInv cfg a (w.setEx (nextAfterKey a) (.time t) ((cfg i).maxAge * second)) h
      none := by
  have hpoint := hinv.point i _ rfl
  obtain ⟨hpend, hatt⟩ := sameKeys_setEx (a := a) w t ((cfg i).maxAge * second)
  have hlt : failures a h < backoffSeconds.length := hpoint.2.1 ▸ hleft
  constructor
  · exact hinv.kept
  · intro j τ hτ hal
    exact hinv.life j τ hτ (by rwa [Alive, hpend] at hal)
  · exact hinv.bound
  · exact fun hfull => absurd hfull hlt.ne
  · exact fun hfull => absurd hfull hlt.ne
  · intro τ hτ hal
    rw [Alive, hpend] at hal
    rw [hatt]
    exact hinv.tally τ hτ hal
  · exact fun _ _ _ τ _ hτ => retry_stored hpoint hdelay hτ
  · intro j q hq
    cases hq

/-- It was the last attempt. -/
theorem EntryInv.buries {t : ℕ} {q : Point}
    (hinv : EntryInv cfg a w h (some (i, .scheduling n t)))
    (hdelay : backoffDelay n ≤ (cfg i).maxAge) (hfull : failures a h = backoffSeconds.length)
    (hq : q = .offering ∨ q = .cleaning) :
    EntryInv cfg a (w.setEx (nextAfterKey a) (.time t) ((cfg i).maxAge * second))
      (.buried a :: h) (some (i, q)) := by
  have hpoint := hinv.point i _ rfl
  obtain ⟨hpend, hatt⟩ := sameKeys_setEx (a := a) w t ((cfg i).maxAge * second)
  constructor
  · exact ⟨fun _ => hfull, hinv.kept⟩
  · intro j τ hτ hal
    exact hinv.life j τ hτ (by rwa [Alive, hpend] at hal)
  · exact hinv.bound
  · intro _
    right
    refine ⟨i, q, rfl, ?_⟩
    rcases hq with rfl | rfl <;> trivial
  · intro _
    simp [buriedSince]
  · intro τ hτ hal
    rw [Alive, hpend] at hal
    rw [hatt, hinv.tally τ hτ hal]
    rcases hq with rfl | rfl <;> rfl
  · exact fun _ _ _ τ _ hτ => retry_stored hpoint hdelay hτ
  · intro j q' heq
    obtain ⟨rfl, rfl⟩ := Prod.mk.inj (Option.some.inj heq)
    have hal : Alive a (w.setEx (nextAfterKey a) (.time t) ((cfg i).maxAge * second))
        w.now := by
      rw [Alive, hpend]
      exact hpoint.1
    rcases hq with rfl | rfl <;> exact ⟨hal, hfull⟩

/-- The dead-letter publisher has had its turn. -/
theorem EntryInv.offered (hsame : SameKeys a w w')
    (hinv : EntryInv cfg a w h (some (i, .offering))) :
    EntryInv cfg a w' h (some (i, .cleaning)) := by
  have hinv' := hinv.frame hsame ⟨Iff.rfl, rfl, rfl, rfl⟩
  constructor
  · exact hinv'.kept
  · exact hinv'.life
  · exact hinv'.bound
  · intro _
    exact .inr ⟨i, _, rfl, trivial⟩
  · intro hf
    rcases hinv'.ended hf with hb | ⟨j, n, t, heq⟩
    · exact .inl hb
    · cases heq
  · exact hinv'.tally
  · exact fun hpos _ => hinv'.retry hpos (by simp)
  · intro j q heq
    obtain ⟨rfl, rfl⟩ := Prod.mk.inj (Option.some.inj heq)
    exact hinv'.point i .offering rfl

/-- **One command of a turn** keeps what the entry goes through in schedule. -/
theorem EntryInv.next {q : Point} (hinv : EntryInv cfg a w h (some (i, q)))
    (hq : q.Holds) (hok : CommandOk (cfg i) a w.conn publish dlq w q) :
    ∃ q', (q.next (cfg i) publish dlq a w).1 = some q' ∧
      EntryInv cfg a (q.next (cfg i) publish dlq a w).2 (q.shows a w.now q' ++ h)
        (workedAt i q') := by
  have hnever (hl : ¬ q.Last) : ∀ j q', some (i, q) = some (j, q') → ¬ q'.Last := by
    intro j q' heq
    obtain ⟨-, rfl⟩ := Prod.mk.inj (Option.some.inj heq)
    exact hl
  cases q with
  | reading =>
      simp only [Point.next]
      split
      · refine ⟨_, rfl, hinv.move rfl (hnever id) ?_⟩
        intro j q' heq
        cases heq
      rename_i value hvalue
      split
      · refine ⟨_, rfl, hinv.move rfl (hnever id) ?_⟩
        intro j q' heq
        cases heq
      split
      · refine ⟨_, rfl, hinv.move rfl (hnever id) ?_⟩
        intro j q' heq
        obtain ⟨rfl, rfl⟩ := Prod.mk.inj (Option.some.inj heq)
        trivial
      · refine ⟨_, rfl, hinv.move rfl (hnever id) ?_⟩
        intro j q' heq
        obtain ⟨rfl, rfl⟩ := Prod.mk.inj (Option.some.inj heq)
        show w.lookup (pendingKey a) ≠ none
        simp [hvalue]
  | dropping =>
      -- the entry goes without a visit: only a spent history would owe a burial
      refine ⟨_, rfl, .of_dead hinv.kept hinv.bound ?_ ?_⟩
      · intro hfull
        rcases hinv.ended hfull with hb | ⟨j, n, t, heq⟩
        · exact hb
        · cases heq
      · intro τ _ hal
        exact hal (TtlStore.get_removeAll_of_mem List.mem_cons_self)
  | counting payload =>
      have hal : Alive a w w.now := hinv.point i _ rfl
      have hincr := redisIncr_countOf (hinv.tally w.now le_rfl hal)
      simp only [Point.next]
      rw [show failures a h + countedAt (some (i, Point.counting payload)) =
        failures a h from rfl] at hincr
      rw [hincr]
      exact ⟨_, rfl, hinv.counting hok.1 hok.2⟩
  | renewing payload n => exact ⟨_, rfl, hinv.renewing⟩
  | checking payload n =>
      obtain ⟨-, -, hdue, subject, hsub⟩ := hinv.point i _ rfl
      simp only [Point.next, afterCheck_of_due hdue, startPublish_ok hsub]
      exact ⟨_, rfl, hinv.checking⟩
  | publishing payload n subject =>
      obtain ⟨hredis, hnow⟩ := afterPublishJson_redis (w := w) publish subject
        (.utf8 (Json.dumps pythonStyle payload)) (some a)
      simp only [Point.next, publishJson_spec, hok.1, hok.2, Bool.false_eq_true, if_false]
      refine ⟨_, rfl, hinv.publishing ⟨hnow, ?_, ?_, ?_⟩⟩
      all_goals
        intro τ
        rw [hredis]
  | marking => exact (hinv.point i _ rfl).elim
  | scheduling n t =>
      -- the failure just counted may be the last of the schedule
      obtain ⟨-, hn, -⟩ := hinv.point i _ rfl
      simp only [Point.next]
      by_cases hfull : backoffSeconds.length ≤ n
      · have heq : failures a h = backoffSeconds.length :=
          le_antisymm hinv.bound (hn ▸ hfull)
        rw [if_pos hfull]
        unfold Point.burial
        split
        · exact ⟨_, rfl, hinv.buries hok heq (.inl rfl)⟩
        · exact ⟨_, rfl, hinv.buries hok heq (.inr rfl)⟩
      · rw [if_neg hfull]
        exact ⟨_, rfl, hinv.waits hok (Nat.not_le.mp hfull)⟩
  | offering =>
      have halive : dlq.kills = false := hok
      simp only [Point.next, halive, Bool.false_eq_true, if_false]
      refine ⟨_, rfl, hinv.offered ⟨?_, ?_, ?_, ?_⟩⟩
      all_goals split <;> simp
  | cleaning =>
      refine ⟨_, rfl, .of_dead hinv.kept hinv.bound ?_ ?_⟩
      · intro hfull
        rcases hinv.ended hfull with hb | ⟨j, n, t, heq⟩
        · exact hb
        · cases heq
      · intro τ _ hal
        exact hal (TtlStore.get_removeAll_of_mem List.mem_cons_self)
  | releasing raised => exact hq.elim

/-! ## §4  The reconcilers together -/

/-- The keys of another alert are no keys of the entry; only an id that ends in
`:next` could make them so. -/
structure Apart (a id : String) : Prop where
  ne : id ≠ a
  attempts : attemptsKey id ≠ nextAfterKey a
  nextAfter : nextAfterKey id ≠ attemptsKey a

/-- The condition on a step. Whoever holds the lease is done before it runs out and
before the entry does; an entry is written where nothing is left of an earlier one;
and the commands of a turn meet theirs: a visit that counts finds the entry due. -/
def OnTime (cfg : ι → IngestReconciler) (a : String) (s : Fleet ι) : FleetStep ι → Prop
  | .tick d => ∀ i t, s.turns i = some t → t.alertId = a → t.point.Holds →
      s.world.now + d < t.since + (cfg i).lease * second ∧
        s.world.redis.get (s.world.now + d) (pendingKey a) = s.world.lookup (pendingKey a)
  | .writeAhead r id _ => id = a → s.world.lookup (pendingKey a) = none ∧
      s.world.lookup (attemptsKey a) = none ∧ s.world.lookup (nextAfterKey a) = none ∧
        ∀ i, r.maxAge ≤ (cfg i).maxAge
  | .markPublished _ id => Apart a id
  | .lease _ id => id = a ∨ Apart a id
  | .go i c publish dlq => ∀ t, s.turns i = some t → t.alertId = a →
      CommandOk (cfg i) a c publish dlq s.world t.point

instance : DecidablePred Point.Holds
  | .releasing _ => isFalse id
  | .reading => isTrue trivial
  | .dropping => isTrue trivial
  | .counting _ => isTrue trivial
  | .renewing _ _ => isTrue trivial
  | .checking _ _ => isTrue trivial
  | .publishing _ _ _ => isTrue trivial
  | .marking => isTrue trivial
  | .scheduling _ _ => isTrue trivial
  | .offering => isTrue trivial
  | .cleaning => isTrue trivial

instance (id : String) : Decidable (Apart a id) :=
  decidable_of_iff (id ≠ a ∧ attemptsKey id ≠ nextAfterKey a ∧
      nextAfterKey id ≠ attemptsKey a)
    ⟨fun h => ⟨h.1, h.2.1, h.2.2⟩, fun h => ⟨h.ne, h.attempts, h.nextAfter⟩⟩

instance [Fintype ι] (s : Fleet ι) : DecidablePred (OnTime cfg a s)
  | .tick d => inferInstanceAs (Decidable (∀ i, ∀ t ∈ s.turns i, t.alertId = a →
      t.point.Holds → s.world.now + d < t.since + (cfg i).lease * second ∧
        s.world.redis.get (s.world.now + d) (pendingKey a) =
          s.world.lookup (pendingKey a)))
  | .writeAhead _ _ _ => inferInstanceAs (Decidable (_ → _))
  | .markPublished _ id => inferInstanceAs (Decidable (Apart a id))
  | .lease _ _ => inferInstanceAs (Decidable (_ ∨ _))
  | .go i c publish dlq => inferInstanceAs (Decidable (∀ t ∈ s.turns i, t.alertId = a →
      CommandOk (cfg i) a c publish dlq s.world t.point))

theorem OnTime.inTime {s : Fleet ι} {l : FleetStep ι} (hl : OnTime cfg a s l) :
    InTime cfg a s l := by
  cases l with
  | tick d => exact fun i t ht hid hp => (hl i t ht hid hp).1
  | markPublished r id => exact hl.ne
  | _ => trivial

/-- The point at which the entry is worked on. -/
def Worker (a : String) (s : Fleet ι) : Option (ι × Point) → Prop
  | none => ∀ i t, s.turns i = some t → t.alertId = a → ¬ t.point.Holds
  | some (i, q) => q.Holds ∧ ∃ t, s.turns i = some t ∧ t.alertId = a ∧ t.point = q

structure FleetInv (cfg : ι → IngestReconciler) (a : String) (s : Fleet ι) : Prop where
  lease : LeaseInv cfg a s
  apart : ∀ i t, s.turns i = some t → t.alertId ≠ a → Apart a t.alertId
  entry : ∃ p, Worker a s p ∧ EntryInv cfg a s.world s.history p

theorem SameHistory.of_others (hev : ∀ x ∈ evs, ¬ x.Of a) :
    SameHistory a h (evs ++ h) := by
  obtain ⟨h1, h2, h3, h4⟩ := history_frame (h := h) hev
  exact ⟨h4, h1, h2, h3⟩

theorem Apart.notMem_writes {id : String} (hid : Apart a id) (q : Point) :
    pendingKey a ∉ q.writes id ∧ attemptsKey a ∉ q.writes id ∧
      nextAfterKey a ∉ q.writes id := by
  have h1 : pendingKey a ≠ pendingKey id := fun heq => hid.ne (pendingKey_injective heq).symm
  have h2 : attemptsKey a ≠ attemptsKey id := fun heq =>
    hid.ne (attemptsKey_injective heq).symm
  have h3 : nextAfterKey a ≠ nextAfterKey id := fun heq =>
    hid.ne (nextAfterKey_injective heq).symm
  cases q <;>
    simp [Point.writes, h1, h2, h3, hid.attempts.symm, hid.nextAfter.symm,
      pendingKey_ne_attemptsKey, pendingKey_ne_leaseKey, pendingKey_ne_nextAfterKey,
      (pendingKey_ne_attemptsKey id a).symm, (pendingKey_ne_nextAfterKey id a).symm,
      (leaseKey_ne_attemptsKey id a).symm, (leaseKey_ne_nextAfterKey id a).symm]

theorem Apart.sameKeys {id : String} (hid : Apart a id) (r : IngestReconciler)
    (publish : PublishEnv) (dlq : Outcome) (q : Point) :
    SameKeys a w (q.next r publish dlq id w).2 := by
  obtain ⟨h1, h2, h3⟩ := hid.notMem_writes q
  exact ⟨Point.next_now, Point.next_get h1, Point.next_get h2, Point.next_get h3⟩

theorem shows_of_other {id : String} (hid : id ≠ a) (now : ℕ) (q q' : Point) :
    ∀ x ∈ q.shows id now q', ¬ x.Of a := by
  intro x hx
  unfold Point.shows at hx
  split at hx
  all_goals
    simp only [List.mem_singleton, List.not_mem_nil] at hx
    try (subst hx; exact hid)

theorem sameKeys_afterRelease (r : IngestReconciler) (id : String) :
    SameKeys a w (w.afterRelease r id) := by
  refine ⟨?_, ?_, ?_, ?_⟩
  · unfold World.afterRelease
    split <;> rfl
  · exact get_afterRelease_ne (pendingKey_ne_leaseKey a id)
  · exact get_afterRelease_ne (leaseKey_ne_attemptsKey id a).symm
  · exact get_afterRelease_ne (leaseKey_ne_nextAfterKey id a).symm

theorem sameKeys_setNxEx (id : String) (value : RedisValue) (ttl : ℕ) :
    SameKeys a w (w.setNxEx (leaseKey id) value ttl) := by
  unfold World.setNxEx
  split
  · exact ⟨rfl, fun _ => rfl, fun _ => rfl, fun _ => rfl⟩
  · exact ⟨rfl, fun _ => TtlStore.get_setEx_ne (pendingKey_ne_leaseKey a id),
      fun _ => TtlStore.get_setEx_ne (leaseKey_ne_attemptsKey id a).symm,
      fun _ => TtlStore.get_setEx_ne (leaseKey_ne_nextAfterKey id a).symm⟩

theorem SameHistory.rfl : SameHistory a h h := ⟨Iff.rfl, .refl _, .refl _, .refl _⟩

/-- A new entry, of which nothing is left from before. -/
theorem EntryInv.written {r : IngestReconciler} (hinv : EntryInv cfg a w h p)
    (hr : r.hasClient = true) (hpend : w.lookup (pendingKey a) = none)
    (hatt : w.lookup (attemptsKey a) = none) (hage : ∀ i, r.maxAge ≤ (cfg i).maxAge) :
    EntryInv cfg a (w.afterWriteAhead r .returned a payload) (.written a :: h) p := by
  have hw : w.afterWriteAhead r .returned a payload =
      w.setEx (pendingKey a) (.text (Json.dumps pythonStyle payload))
        (r.maxAge * second) := by
    simp [World.afterWriteAhead, hr, Outcome.applied]
  have hzero : failures a (.written a :: h) = 0 := by simp [failures]
  -- nobody is further than reading: the entry was not there
  have hquiet : ∀ i q, p = some (i, q) → q = .reading ∨ q = .dropping ∨
      ∃ x, q = .releasing x := by
    intro i q hq
    have hok := hinv.point i q hq
    cases q with
    | counting payload => exact absurd hpend hok
    | renewing payload n => exact absurd hpend hok.1
    | checking payload n => exact absurd hpend hok.1
    | publishing payload n subject => exact absurd hpend hok.1
    | scheduling n t => exact absurd hpend hok.1
    | offering => exact absurd hpend hok.1
    | cleaning => exact absurd hpend hok.1
    | marking => exact hok.elim
    | _ => simp
  have hcount : countedAt p = 0 := by
    rcases p with _ | ⟨i, q⟩
    · rfl
    · rcases hquiet i q rfl with rfl | rfl | ⟨x, rfl⟩ <;> rfl
  rw [hw]
  constructor
  · exact ⟨trivial, hinv.kept⟩
  · intro i τ _ hal
    have hlt := TtlStore.lt_of_get_setEx hal
    have hmul : r.maxAge * second ≤ (cfg i).maxAge * second :=
      Nat.mul_le_mul_right _ (hage i)
    show τ < w.now + _
    omega
  · rw [hzero]
    exact Nat.zero_le _
  · rw [hzero]
    exact fun hfull => absurd hfull (by decide)
  · rw [hzero]
    exact fun hfull => absurd hfull (by decide)
  · intro τ hτ _
    rw [hzero, hcount]
    show (w.setEx (pendingKey a) _ _).redis.get τ (attemptsKey a) = none
    exact (TtlStore.get_setEx_ne (attemptsKey_ne_pendingKey a a)).trans
      (TtlStore.get_none_of_le hτ hatt)
  · rw [hzero]
    exact fun hpos => absurd hpos (lt_irrefl 0)
  · intro i q hq
    rcases hquiet i q hq with rfl | rfl | ⟨x, rfl⟩ <;> trivial

variable [DecidableEq ι] {s s' : Fleet ι}

theorem FleetInv.tick (hinv : FleetInv cfg a s) {d : ℕ}
    (hl : OnTime cfg a s (.tick d)) (hlease : LeaseInv cfg a s')
    (hstep : fleetStep cfg s (.tick d) = some s') : FleetInv cfg a s' := by
  obtain rfl := Option.some.inj hstep
  obtain ⟨p, hworker, hentry⟩ := hinv.entry
  refine ⟨hlease, hinv.apart, p, hworker, hentry.tick ?_⟩
  intro hp
  rcases p with _ | ⟨i, q⟩
  · exact absurd rfl hp
  · obtain ⟨hq, t, ht, hid, rfl⟩ := hworker
    exact (hl i t ht hid hq).2

/-- A turn that works on the entry neither before nor after leaves it to its worker. -/
theorem Worker.update {i : ι} {x : Option Turn} (hworker : Worker a s p)
    (hturns : s'.turns = Function.update s.turns i x)
    (hbefore : ∀ t, s.turns i = some t → t.alertId = a → ¬ t.point.Holds)
    (hafter : ∀ t, x = some t → t.alertId = a → ¬ t.point.Holds) : Worker a s' p := by
  rcases p with _ | ⟨j, q⟩
  · intro j u hu huid
    rw [hturns] at hu
    rcases turn_update hu with ⟨-, hx⟩ | ⟨-, hu⟩
    · exact hafter u hx huid
    · exact hworker j u hu huid
  · obtain ⟨hq, u, hu, huid, rfl⟩ := hworker
    have hj : j ≠ i := by
      rintro rfl
      exact hbefore u hu huid hq
    refine ⟨hq, u, ?_, huid, rfl⟩
    rw [hturns, Function.update_of_ne hj]
    exact hu

theorem FleetInv.lease_step (hinv : FleetInv cfg a s) {i : ι} {id : String}
    (hl : OnTime cfg a s (.lease i id)) (hlease : LeaseInv cfg a s')
    (hstep : fleetStep cfg s (.lease i id) = some s') : FleetInv cfg a s' := by
  simp only [fleetStep] at hstep
  split at hstep
  swap
  · cases hstep
  rename_i hcan
  obtain rfl := Option.some.inj hstep
  obtain ⟨p, hworker, hentry⟩ := hinv.entry
  have hentry' := hentry.frame (sameKeys_setNxEx id (.text (cfg i).owner)
    ((cfg i).lease * second)) SameHistory.rfl
  by_cases hheld : (s.world.lookup (leaseKey id)).isSome = true
  · refine ⟨hlease, ?_, p, ?_, hentry'⟩
    · simpa only [if_pos hheld] using hinv.apart
    · simpa only [Worker, if_pos hheld] using hworker
  simp only [if_neg hheld] at hlease ⊢
  refine ⟨hlease, ?_, ?_⟩
  · intro j u hu huid
    rcases turn_update hu with ⟨-, hx⟩ | ⟨-, hu⟩
    · obtain rfl := Option.some.inj hx
      exact hl.resolve_left huid
    · exact hinv.apart j u hu huid
  by_cases hid : id = a
  · -- the lease was free, so nobody was at work
    subst hid
    rcases p with _ | ⟨j, q⟩
    · refine ⟨some (i, .reading), ⟨trivial, _, Function.update_self .., rfl, rfl⟩, ?_⟩
      refine hentry'.move rfl (by simp) ?_
      intro j q hq
      obtain ⟨rfl, rfl⟩ := Prod.mk.inj (Option.some.inj hq)
      trivial
    · obtain ⟨hq, t, ht, htid, rfl⟩ := hworker
      rw [hinv.lease.lookup ht htid hq] at hheld
      exact absurd rfl hheld
  · refine ⟨p, hworker.update (i := i) rfl ?_ ?_, hentry'⟩
    · intro t ht
      rw [ht] at hcan
      exact absurd hcan.2.2 (by simp)
    · rintro t hx htid
      obtain rfl := Option.some.inj hx
      exact absurd htid hid

omit [DecidableEq ι] in
theorem workedAt_holds {i : ι} {q : Point} (hq : q.Holds) :
    workedAt i q = some (i, q) := by
  cases q with
  | releasing raised => exact hq.elim
  | _ => rfl

theorem FleetInv.go (hinv : FleetInv cfg a s)
    (howner : ∀ i j, (cfg i).owner = (cfg j).owner → i = j) {i : ι} {c : Connection}
    {publish : PublishEnv} {dlq : Outcome} (hl : OnTime cfg a s (.go i c publish dlq))
    (hlease : LeaseInv cfg a s')
    (hstep : fleetStep cfg s (.go i c publish dlq) = some s') : FleetInv cfg a s' := by
  cases ht : s.turns i with
  | none => simp [fleetStep, ht] at hstep
  | some t =>
      rw [fleetStep_go ht] at hstep
      obtain rfl := Option.some.inj hstep
      obtain ⟨p, hworker, hentry⟩ := hinv.entry
      have hc : EntryInv cfg a (s.world.setConn c) s.history p :=
        hentry.frame ⟨rfl, fun _ => rfl, fun _ => rfl, fun _ => rfl⟩ SameHistory.rfl
      have hapart : ∀ j u, Function.update s.turns i
          (t.go (cfg i) c publish dlq s.world).1 j = some u → u.alertId ≠ a →
          Apart a u.alertId := by
        intro j u hu huid
        rcases turn_update hu with ⟨-, hx⟩ | ⟨-, hu⟩
        · rw [Turn.go_alertId hx] at huid ⊢
          exact hinv.apart i t ht huid
        · exact hinv.apart j u hu huid
      refine ⟨hlease, hapart, ?_⟩
      by_cases hid : t.alertId = a
      · by_cases hp : t.point.Holds
        · -- the turn is the one that works on the entry
          have hwork : p = some (i, t.point) := by
            rcases p with _ | ⟨j, q⟩
            · exact absurd hp (hworker i t ht hid)
            · obtain ⟨hq, u, hu, huid, rfl⟩ := hworker
              obtain rfl := hinv.lease.exclusive howner hu ht huid hid hq hp
              obtain rfl := Option.some.inj (ht.symm.trans hu)
              rfl
          subst hwork
          obtain ⟨q', hnext, hentry'⟩ := hc.next hp (hl t ht hid)
          rw [← hid] at hnext hentry'
          rcases Turn.go_cases (cfg i) publish dlq t c s.world with
              ⟨hno, -⟩ | ⟨-, q, hq, hgo⟩ | ⟨-, hq, -⟩
          · exact absurd hp hno
          · obtain rfl := Option.some.inj (hnext.symm.trans hq)
            rw [hgo]
            refine ⟨workedAt i q', ?_, hid ▸ hentry'⟩
            by_cases hq' : q'.Holds
            · rw [workedAt_holds hq']
              exact ⟨hq', _, Function.update_self .., hid, rfl⟩
            · have hnone : workedAt i q' = none := by
                cases q' with
                | releasing raised => rfl
                | _ => exact absurd trivial hq'
              rw [hnone]
              intro j u hu huid hup
              rcases turn_update hu with ⟨-, hx⟩ | ⟨hj, hu⟩
              · obtain rfl := Option.some.inj hx
                exact hq' hup
              · exact hj (hinv.lease.exclusive howner hu ht huid hid hup hp)
          · rw [hnext] at hq
            cases hq
        · -- a release
          rcases Turn.go_cases (cfg i) publish dlq t c s.world with
              ⟨-, hgo⟩ | ⟨hyes, -⟩ | ⟨hyes, -⟩
          · rw [hgo]
            refine ⟨p, hworker.update (i := i) rfl ?_ ?_,
              hentry.frame (sameKeys_afterRelease ..) SameHistory.rfl⟩
            · intro u hu _ hup
              obtain rfl := Option.some.inj (ht.symm.trans hu)
              exact hp hup
            · intro u hx
              cases hx
          · exact absurd hyes hp
          · exact absurd hyes hp
      · -- the turn is on another entry
        have hother := hinv.apart i t ht hid
        refine ⟨p, hworker.update (i := i) rfl ?_ ?_, ?_⟩
        · intro u hu huid
          obtain rfl := Option.some.inj (ht.symm.trans hu)
          exact absurd huid hid
        · intro u hx huid
          rw [Turn.go_alertId hx] at huid
          exact absurd huid hid
        · rcases Turn.go_cases (cfg i) publish dlq t c s.world with
              ⟨-, hgo⟩ | ⟨-, q, -, hgo⟩ | ⟨-, -, hgo⟩
          · rw [hgo]
            exact hentry.frame (sameKeys_afterRelease ..) SameHistory.rfl
          · rw [hgo]
            exact hc.frame (hother.sameKeys _ _ _ t.point)
              (.of_others (shows_of_other hid _ t.point q))
          · rw [hgo]
            exact hc.frame (hother.sameKeys _ _ _ t.point) SameHistory.rfl

theorem FleetInv.step (hinv : FleetInv cfg a s)
    (howner : ∀ i j, (cfg i).owner = (cfg j).owner → i = j) {l : FleetStep ι}
    (hl : OnTime cfg a s l) (hstep : fleetStep cfg s l = some s') : FleetInv cfg a s' := by
  have hlease := hinv.lease.step howner hl.inTime hstep
  cases l with
  | tick d => exact hinv.tick hl hlease hstep
  | writeAhead r id payload =>
      obtain rfl := Option.some.inj hstep
      obtain ⟨p, hworker, hentry⟩ := hinv.entry
      refine ⟨hlease, hinv.apart, p, hworker, ?_⟩
      cases hr : r.hasClient with
      | false =>
          refine hentry.frame ⟨?_, ?_, ?_, ?_⟩ SameHistory.rfl <;>
            simp [World.afterWriteAhead, hr]
      | true =>
          by_cases hid : id = a
          · subst hid
            obtain ⟨hpend, hatt, -, hage⟩ := hl rfl
            exact hentry.written hr hpend hatt hage
          · -- another entry's write touches none of the three keys
            have hother : ∀ x ∈ [EntryEvent.written id], ¬ x.Of a := by
              intro x hx
              obtain rfl := List.mem_singleton.mp hx
              exact hid
            refine hentry.frame ?_ (.of_others hother)
            have hne : pendingKey a ≠ pendingKey id := fun heq =>
              hid (pendingKey_injective heq).symm
            simp only [World.afterWriteAhead, hr, Outcome.applied, Bool.and_self, if_true]
            exact ⟨rfl, fun _ => TtlStore.get_setEx_ne hne,
              fun _ => TtlStore.get_setEx_ne (attemptsKey_ne_pendingKey a id),
              fun _ => TtlStore.get_setEx_ne (pendingKey_ne_nextAfterKey id a).symm⟩
  | markPublished r id =>
      obtain rfl := Option.some.inj hstep
      obtain ⟨p, hworker, hentry⟩ := hinv.entry
      refine ⟨hlease, hinv.apart, p, hworker, hentry.frame ?_ SameHistory.rfl⟩
      exact hl.sameKeys r ⟨.returned, .returned⟩ .returned .marking
  | lease i id => exact hinv.lease_step hl hlease hstep
  | go i c publish dlq => exact hinv.go howner hl hlease hstep

/-! ## §5  Whole runs -/

/-- Nobody is at work, and there is no key of the entry. -/
def entrySystem (cfg : ι → IngestReconciler) (a : String) :
    System (Fleet ι) (FleetStep ι) where
  start s := s.history = [] ∧ (∀ i, s.turns i = none) ∧
    s.world.lookup (pendingKey a) = none
  step := fleetStep cfg

/-- The schedule has been kept, and an entry whose last publish has failed has been
given up, or is given up by the next command of the reconciler that holds it. -/
structure ScheduleKept (a : String) (s : Fleet ι) : Prop where
  onSchedule : OnSchedule a s.history
  given_up : failures a s.history = backoffSeconds.length →
    buriedSince a s.history = true ∨ ∃ i t n τ, s.turns i = some t ∧ t.alertId = a ∧
      t.point = .scheduling n τ ∧ backoffSeconds.length ≤ n

omit [DecidableEq ι] in
theorem FleetInv.scheduleKept (hinv : FleetInv cfg a s) : ScheduleKept a s := by
  obtain ⟨p, hworker, hentry⟩ := hinv.entry
  refine ⟨hentry.kept, fun hfull => ?_⟩
  rcases hentry.ended hfull with hb | ⟨i, n, τ, rfl⟩
  · exact .inl hb
  · obtain ⟨-, hn, -⟩ := hentry.point i _ rfl
    obtain ⟨-, t, ht, hid, hp⟩ := hworker
    exact .inr ⟨i, t, n, τ, ht, hid, hp, by rw [hn, hfull]⟩

/-- **The schedule is kept** in every run whose visits count only entries that are
due: after the k-th failed publish the next one starts no earlier than the k-th delay
later, and the entry is given up when all its publishes have failed, not before. -/
theorem schedule_kept (howner : ∀ i j, (cfg i).owner = (cfg j).owner → i = j)
    (hs : (entrySystem cfg a).Reached (OnTime cfg a) s) : ScheduleKept a s := by
  have hinv : FleetInv cfg a s := by
    refine hs.invariant ?_ fun s l s' h hl hstep => h.step howner hl hstep
    rintro s ⟨hhist, hturns, hpend⟩
    refine ⟨⟨?_, ?_⟩, ?_, none, ?_, ?_⟩
    · simp [hturns]
    · simp [hturns]
    · simp [hturns]
    · simp [Worker, hturns]
    · rw [hhist]
      refine .of_dead trivial (Nat.zero_le _) (by simp [failures, backoffSeconds]) ?_
      intro τ hτ hal
      exact hal (TtlStore.get_none_of_le hτ hpend)
  exact hinv.scheduleKept

/-- No publish of the entry is acknowledged. -/
def PublishesFail (a : String) (s : Fleet ι) : FleetStep ι → Prop
  | .markPublished _ id => id ≠ a
  | .go i c publish _ => ∀ t payload n subject, s.turns i = some t → t.alertId = a →
      t.point = .publishing payload n subject → publish.confirmsJson subject c = false
  | _ => True

/-- The first process tries an entry, and NATS refuses whatever it publishes. -/
def refusedTurn (commands : ℕ) : List (FleetStep (Fin 2)) :=
  .lease procA "a1" ::
    List.replicate commands (.go procA ⟨true, true⟩ ⟨.returned, .raised false⟩ .returned)

/-- One attempt that fails, as far as the release. -/
def oneAttempt : List (FleetStep (Fin 2)) :=
  .writeAhead (twoReconcilers procA) "a1" walEntry :: refusedTurn 7

theorem schedule_kept_oneAttempt :
    ∃ s, (entrySystem twoReconcilers "a1").run (Fleet.fresh (Fin 2)) oneAttempt = some s ∧
      ScheduleKept "a1" s := by
  have hrun : ((entrySystem twoReconcilers "a1").run (Fleet.fresh (Fin 2))
      oneAttempt).isSome = true := by decide +kernel
  obtain ⟨s, hs⟩ := Option.isSome_iff_exists.mp hrun
  have hmeets : (entrySystem twoReconcilers "a1").Meets (OnTime twoReconcilers "a1")
      (Fleet.fresh (Fin 2)) oneAttempt := by decide +kernel
  exact ⟨s, hs, schedule_kept (by decide)
    (hmeets.reached (.start ⟨rfl, fun _ => rfl, rfl⟩) hs)⟩

/-- An attempt that fails, five scans that find the entry not due, and one that does:
the second publish is counted as the seventh. -/
def scannedEntry : List (FleetStep (Fin 2)) :=
  oneAttempt ++ ((List.replicate 5 (refusedTurn 5)).flatten ++
    .tick (5 * second) :: refusedTurn 6)

theorem refusedTurn_fails {commands : ℕ} {l : FleetStep (Fin 2)} {s : Fleet (Fin 2)}
    (hl : l ∈ refusedTurn commands) : PublishesFail a s l := by
  rcases List.mem_cons.mp hl with rfl | hl
  · trivial
  · obtain rfl := List.eq_of_mem_replicate hl
    intro t payload n subject _ _ _
    cases subject <;> rfl

/-- The entry is given up when two publishes have failed. -/
theorem scans_bury_early :
    ¬ ∀ s, (entrySystem twoReconcilers "a1").Reached (PublishesFail "a1") s →
      ScheduleKept "a1" s := by
  intro hall
  have hrun : ((entrySystem twoReconcilers "a1").run (Fleet.fresh (Fin 2))
      scannedEntry).any (fun s => !decide (OnSchedule "a1" s.history)) = true := by
    decide +kernel
  obtain ⟨s, hs, hno⟩ := (Option.any_eq_true _ _).mp hrun
  have hmeets : (entrySystem twoReconcilers "a1").Meets (PublishesFail "a1")
      (Fleet.fresh (Fin 2)) scannedEntry := by
    apply System.Meets.of_forall
    intro l hl s'
    rcases List.mem_append.mp hl with hl | hl
    · rcases List.mem_cons.mp hl with rfl | hl
      · trivial
      · exact refusedTurn_fails hl
    rcases List.mem_append.mp hl with hl | hl
    · obtain ⟨ls, hls, hl⟩ := List.mem_flatten.mp hl
      obtain rfl := List.eq_of_mem_replicate hls
      exact refusedTurn_fails hl
    · rcases List.mem_cons.mp hl with rfl | hl
      · trivial
      · exact refusedTurn_fails hl
  have hkept := hall s (hmeets.reached (.start ⟨rfl, fun _ => rfl, rfl⟩) hs)
  simp [hkept.onSchedule] at hno

end AlertTriage
