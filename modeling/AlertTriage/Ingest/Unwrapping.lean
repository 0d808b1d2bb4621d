import AlertTriage.Ingest.SourceDetection

/-!
# Unwrapping as rounds

`expand_auto_ingest_payload` takes a record off and then unwraps in rounds (`Peels`), at most six.
Where these come to rest on a payload without records, unwrapping again changes nothing, and so up
to six single-key envelopes are taken off (`unwrapping_settles`). A recognised vendor is kept in
every round exactly when no wrapper key holds a finding or another vendor's payload, and a sole
`result` or `event` holds more of the same vendor (`vendorKept_iff`).
-/

namespace AlertTriage

open Library Library.Json

/-! ## §1  Rounds -/

/-- So many rounds lead from one payload to another. -/
inductive Peels : ℕ → Params → Params → Prop where
  | rest (p : Params) : Peels 0 p p
  | round {n : ℕ} {p q v : Params} : unwrapOnce p = .ok (some q) → Peels n q v →
      Peels (n + 1) p v

/-- There is nothing to take off. -/
structure Rests (v : Params) : Prop where
  round : unwrapOnce v = .ok none
  record : firstRecord v = v

theorem Peels.trans {m n : ℕ} {p q v : Params} (h : Peels m p q) (h' : Peels n q v) :
    Peels (m + n) p v := by
  induction h with
  | rest p => rwa [Nat.zero_add]
  | round hround _ ih =>
      rw [Nat.add_right_comm]
      exact .round hround (ih h')

/-- Rounds that come to rest are all made. -/
theorem unwrapLoop_of_peels {k n : ℕ} {p v : Params} (h : Peels k p v)
    (hv : unwrapOnce v = .ok none) (hk : k ≤ n) : unwrapLoop n p = .ok v := by
  induction h generalizing n with
  | rest p =>
      cases n with
      | zero => rfl
      | succ n =>
          rw [unwrapLoop, hv]
          rfl
  | round hround _ ih =>
      cases n with
      | zero => exact absurd hk (Nat.not_succ_le_zero _)
      | succ n =>
          rw [unwrapLoop, hround]
          exact ih hv (Nat.le_of_succ_le_succ hk)

theorem expand_of_peels {k : ℕ} {p v : Params} (h : Peels k (firstRecord p) v)
    (hv : Rests v) (hk : k ≤ 6) : expandAutoIngestPayload p = .ok v :=
  unwrapLoop_of_peels h hv.round hk

theorem expand_rests {v : Params} (hv : Rests v) : expandAutoIngestPayload v = .ok v := by
  unfold expandAutoIngestPayload
  rw [hv.record]
  exact unwrapLoop_of_peels (.rest v) hv.round (Nat.zero_le 6)

theorem roundDetectable_of_ok {p : Params} {next : Option Params}
    (h : unwrapOnce p = .ok next) : RoundDetectable p ∧ nextPayload p = next := by
  have hp : RoundDetectable p := by
    by_contra hp
    obtain ⟨e, he⟩ := unwrapOnce_raises hp
    cases h.symm.trans he
  exact ⟨hp, Except.ok.inj ((unwrapOnce_ok hp).symm.trans h)⟩

theorem Peels.detectable {k : ℕ} {p v : Params} (h : Peels k p v)
    (hv : unwrapOnce v = .ok none) : Detectable p := by
  cases h with
  | rest => exact (roundDetectable_of_ok hv).1.1
  | round hround _ => exact (roundDetectable_of_ok hround).1.1

/-! ## §2  Envelopes -/

/-- The keys of the single-key wrappers. -/
def envelopeKeys : List String := ["data", "alert", "body", "payload"]

/-- The payload in single-key envelopes, the first key outermost. -/
def wrapped (keys : List String) (v : Params) : Params :=
  keys.foldr (fun key inner => [(key, .obj inner)]) v

theorem unwrapOnce_envelope {key : String} (hkey : key ∈ envelopeKeys) {v : Params}
    (hv : Detectable v) : unwrapOnce [(key, .obj v)] = .ok (some v) := by
  have hshape : isDetectionFindingPayload [(key, .obj v)] = false ∧
      Detectable [(key, .obj v)] ∧ objectsAt [(key, .obj v)] wrapperKeys = [v] ∧
      soleInner [(key, .obj v)] = some v := by
    simp only [envelopeKeys, List.mem_cons, List.not_mem_nil, or_false] at hkey
    rcases hkey with rfl | rfl | rfl | rfl
    · exact ⟨rfl, .inr ⟨rfl, .inr (.inr rfl)⟩, rfl, rfl⟩
    · exact ⟨rfl, .inr ⟨rfl, .inr (.inr rfl)⟩, rfl, rfl⟩
    · exact ⟨rfl, .inr ⟨rfl, .inr (.inr rfl)⟩, rfl, rfl⟩
    · exact ⟨rfl, .inr ⟨rfl, .inr (.inr rfl)⟩, rfl, rfl⟩
  obtain ⟨hf, hdetect, hobjects, hsole⟩ := hshape
  rw [unwrapOnce_ok]
  · congr 1
    unfold nextPayload
    rw [hf, hobjects, hsole]
    by_cases ht : takes (sourceOf [(key, .obj v)]) v = true
    · simp [List.find?_cons_of_pos ht]
    · simp [List.find?_cons_of_neg ht]
  · refine ⟨hdetect, fun _ inner hinner => ?_⟩
    rw [hobjects, lookedAt] at hinner
    have hnil : (if takes (sourceOf [(key, .obj v)]) v = true then []
        else lookedAt (sourceOf [(key, .obj v)]) []) = ([] : List Params) := by
      split
      · rfl
      · rfl
    rw [hnil, List.mem_singleton] at hinner
    exact hinner ▸ hv

theorem detectable_wrapped {keys : List String} (hkeys : ∀ key ∈ keys, key ∈ envelopeKeys)
    {v : Params} (hv : Detectable v) : Detectable (wrapped keys v) := by
  induction keys with
  | nil => exact hv
  | cons key keys ih =>
      have hround := unwrapOnce_envelope (hkeys key List.mem_cons_self)
        (ih fun k hk => hkeys k (List.mem_cons_of_mem _ hk))
      exact (roundDetectable_of_ok hround).1.1

/-- Each envelope takes a round. -/
theorem peels_wrapped {keys : List String} (hkeys : ∀ key ∈ keys, key ∈ envelopeKeys)
    {v : Params} (hv : Detectable v) : Peels keys.length (wrapped keys v) v := by
  induction keys with
  | nil => exact .rest v
  | cons key keys ih =>
      have hkeys' : ∀ k ∈ keys, k ∈ envelopeKeys := fun k hk =>
        hkeys k (List.mem_cons_of_mem _ hk)
      exact .round (unwrapOnce_envelope (hkeys key List.mem_cons_self)
        (detectable_wrapped hkeys' hv)) (ih hkeys')

/-- An envelope is no list of records. -/
theorem firstRecord_wrapped {keys : List String} (hkeys : ∀ key ∈ keys, key ∈ envelopeKeys)
    {v : Params} (hv : firstRecord v = v) : firstRecord (wrapped keys v) = wrapped keys v := by
  cases keys with
  | nil => exact hv
  | cons key keys =>
      have hkey := hkeys key List.mem_cons_self
      simp only [envelopeKeys, List.mem_cons, List.not_mem_nil, or_false] at hkey
      rcases hkey with rfl | rfl | rfl | rfl
      · rfl
      · rfl
      · rfl
      · rfl

/-- **Unwrapping settles**: where the rounds come to rest, at most six of them, on a payload
without records, that payload is returned, and unwrapping it again returns it. In single-key
envelopes, and a list of records around them, a payload is unwrapped to what it is without. -/
theorem unwrapping_settles :
    (∀ (p v : Params) (k : ℕ), Peels k (firstRecord p) v → Rests v → k ≤ 6 →
      expandAutoIngestPayload p = .ok v ∧ expandAutoIngestPayload v = .ok v) ∧
    ∀ (keys : List String) (v w : Params) (k : ℕ), (∀ key ∈ keys, key ∈ envelopeKeys) →
      firstRecord v = v → Peels k v w → Rests w → keys.length + k ≤ 6 →
      expandAutoIngestPayload (wrapped keys v) = .ok w ∧ ∀ records : List Json,
        expandAutoIngestPayload [("records", .arr (.obj (wrapped keys v) :: records))] =
          .ok w := by
  constructor
  · intro p v k hpeels hv hk
    exact ⟨expand_of_peels hpeels hv hk, expand_rests hv⟩
  · intro keys v w k hkeys hrecord hpeels hw hk
    have hall : Peels (keys.length + k) (wrapped keys v) w :=
      (peels_wrapped hkeys (hpeels.detectable hw.round)).trans hpeels
    constructor
    · apply expand_of_peels _ hw hk
      rwa [firstRecord_wrapped hkeys hrecord]
    · intro records
      exact expand_of_peels (p := [("records", .arr (.obj (wrapped keys v) :: records))])
        hall hw hk

/-- A saved search. -/
def searchPayload : Params := [("search_name", .str "Brute force"), ("sid", .str "s1")]

theorem search_unwrapped :
    expandAutoIngestPayload (wrapped ["data", "alert"] searchPayload) = .ok searchPayload ∧
      expandAutoIngestPayload searchPayload = .ok searchPayload := by
  have hv : Rests searchPayload := ⟨rfl, rfl⟩
  exact ⟨(unwrapping_settles.2 ["data", "alert"] searchPayload searchPayload 0 (by decide) rfl
    (.rest _) hv (by decide)).1, (unwrapping_settles.1 searchPayload searchPayload 0 (.rest _) hv
    (by decide)).1⟩

theorem seventh_envelope_left : ¬ ∀ p e : Params, expandAutoIngestPayload p = .ok e →
    expandAutoIngestPayload e = .ok e := by
  intro h
  have hsix : expandAutoIngestPayload (wrapped (List.replicate 7 "data") searchPayload) =
      .ok (wrapped ["data"] searchPayload) := rfl
  have hone : expandAutoIngestPayload (wrapped ["data"] searchPayload) = .ok searchPayload := rfl
  have hsame := Except.ok.inj ((h _ _ hsix).symm.trans hone)
  exact absurd (congrArg List.length hsame) (by decide)

/-! ## §3  A recognised vendor -/

/-- Unwrapping ends with the vendor that it began with, and no round is at another. -/
def VendorKept (source : AlertSource) (p : Params) : Prop :=
  (expandAutoIngestPayload p >>= detectSource) = .ok source ∧
    ∀ (k : ℕ) (q : Params), k ≤ 6 → Peels k p q → detectSource q = .ok source

/-- An object under a wrapper key that no round takes. -/
def LeftInside (source : AlertSource) (inner : Params) : Prop :=
  Detectable inner ∧ isDetectionFindingPayload inner = false ∧
    (sourceOf inner = .generic ∨ sourceOf inner = source)

/-- For so many rounds, no wrapper key holds a finding or another vendor's payload, and what a
sole key holds is of the vendor again. -/
def Stays (source : AlertSource) : ℕ → Params → Prop
  | 0, _ => True
  | n + 1, p => (∀ inner ∈ objectsAt p wrapperKeys, LeftInside source inner) ∧
      ∀ q, soleInner p = some q → Detectable q ∧ sourceOf q = source ∧ Stays source n q

theorem lookedAt_of_none {outer : AlertSource} {inners : List Params}
    (h : ∀ inner ∈ inners, takes outer inner = false) : lookedAt outer inners = inners := by
  induction inners with
  | nil => rfl
  | cons inner inners ih =>
      rw [lookedAt, h inner List.mem_cons_self, ih fun i hi => h i (List.mem_cons_of_mem _ hi)]
      rfl

theorem takes_eq_false_iff {outer : AlertSource} {inner : Params} :
    takes outer inner = false ↔ isDetectionFindingPayload inner = false ∧
      (sourceOf inner = .generic ∨ sourceOf inner = outer) := by
  unfold takes
  rw [Bool.or_eq_false_iff, Bool.and_eq_false_iff, bne_eq_false_iff_eq, bne_eq_false_iff_eq]

variable {source : AlertSource}

theorem sourceOf_finding {p : Params} (h : isDetectionFindingPayload p = true) :
    sourceOf p = .generic := if_pos h

/-- What answers is its source. -/
theorem detectSource_eq_ok_iff {p : Params} :
    detectSource p = .ok source ↔ Detectable p ∧ sourceOf p = source := by
  constructor
  · intro h
    have hp : Detectable p := by
      by_contra hp
      obtain ⟨e, he⟩ := detectSource_raises hp
      cases h.symm.trans he
    exact ⟨hp, Except.ok.inj ((detectSource_ok hp).symm.trans h)⟩
  · rintro ⟨hp, rfl⟩
    exact detectSource_ok hp

/-- The round of a payload that stays. -/
theorem round_of_left {p : Params} (hp : detectSource p = .ok source) (hs : source ≠ .generic)
    (hleft : ∀ inner ∈ objectsAt p wrapperKeys, LeftInside source inner) :
    unwrapOnce p = .ok (soleInner p) := by
  obtain ⟨hdetect, hsource⟩ := detectSource_eq_ok_iff.mp hp
  have hf : ¬ isDetectionFindingPayload p = true := by
    intro hf
    exact hs (hsource.symm.trans (sourceOf_finding hf))
  have hnone : ∀ inner ∈ objectsAt p wrapperKeys, takes (sourceOf p) inner = false := by
    intro inner hinner
    rw [hsource]
    exact takes_eq_false_iff.mpr (hleft inner hinner).2
  have hround : RoundDetectable p := by
    refine ⟨hdetect, fun _ inner hinner => ?_⟩
    rw [lookedAt_of_none hnone] at hinner
    exact (hleft inner hinner).1
  rw [unwrapOnce_ok hround]
  unfold nextPayload
  have hfind : (objectsAt p wrapperKeys).find? (takes (sourceOf p)) = none := by
    rw [List.find?_eq_none]
    intro inner hinner
    simp [hnone inner hinner]
  rw [if_neg hf, hfind]
  rfl

/-- A payload that stays is of its vendor in every round, and to the end. -/
theorem kept_of_stays {n : ℕ} {p : Params} (hs : source ≠ .generic)
    (hp : detectSource p = .ok source) (h : Stays source n p) :
    (unwrapLoop n p >>= detectSource) = .ok source ∧
      ∀ (k : ℕ) (q : Params), k ≤ n → Peels k p q → detectSource q = .ok source := by
  -- on the rounds that are left, each of which peels one wrapper at most
  induction n generalizing p with
  | zero =>
      refine ⟨hp, fun k q hk hpeels => ?_⟩
      obtain rfl := Nat.le_zero.mp hk
      cases hpeels
      exact hp
  | succ n ih =>
      obtain ⟨hleft, hsole⟩ := h
      have hround := round_of_left hp hs hleft
      cases hq : soleInner p with
      | none =>
          rw [hq] at hround
          constructor
          · rw [unwrapLoop, hround]
            exact hp
          · intro k q hk hpeels
            cases hpeels with
            | rest => exact hp
            | round hother _ => cases hround.symm.trans hother
      | some q =>
          rw [hq] at hround
          obtain ⟨hdetect, hsource, hstays⟩ := hsole q hq
          obtain ⟨hend, hall⟩ := ih (detectSource_eq_ok_iff.mpr ⟨hdetect, hsource⟩) hstays
          constructor
          · rw [unwrapLoop, hround]
            exact hend
          · intro k q' hk hpeels
            cases hpeels with
            | rest => exact hp
            | round hother hrest =>
                obtain rfl := Option.some.inj (Except.ok.inj (hround.symm.trans hother))
                exact hall _ _ (Nat.le_of_succ_le_succ hk) hrest

/-- If every round is at the vendor, the payload stays. -/
theorem stays_of_kept {n : ℕ} {p : Params} (hs : source ≠ .generic)
    (hreturns : ∃ e, unwrapLoop n p = .ok e)
    (h : ∀ (k : ℕ) (q : Params), k ≤ n → Peels k p q → detectSource q = .ok source) :
    Stays source n p := by
  induction n generalizing p with
  | zero => trivial
  | succ n ih =>
      obtain ⟨hdetect, hsource⟩ := detectSource_eq_ok_iff.mp (h 0 p (Nat.zero_le _) (.rest p))
      obtain ⟨hround, hrounds⟩ := (unwrapLoop_ok_iff (n + 1) p).mp hreturns
      have hf : isDetectionFindingPayload p = false := by
        apply Bool.eq_false_of_not_eq_true
        intro hf
        exact hs (hsource.symm.trans (sourceOf_finding hf))
      have hstep : unwrapOnce p = .ok (nextPayload p) := unwrapOnce_ok hround
      -- an object that is taken would be a round at another vendor
      have hfind : (objectsAt p wrapperKeys).find? (takes (sourceOf p)) = none := by
        cases hfind : (objectsAt p wrapperKeys).find? (takes (sourceOf p)) with
        | none => rfl
        | some inner =>
            have hnext : nextPayload p = some inner := by
              unfold nextPayload
              rw [hf, hfind]
              rfl
            rw [hnext] at hstep
            obtain ⟨-, hinner⟩ := detectSource_eq_ok_iff.mp
              (h 1 inner (Nat.le_add_left 1 n) (.round hstep (.rest inner)))
            have hleft : takes (sourceOf p) inner = false := by
              refine takes_eq_false_iff.mpr ⟨?_, .inr (hinner.trans hsource.symm)⟩
              apply Bool.eq_false_of_not_eq_true
              intro hfinding
              exact hs (hinner.symm.trans (sourceOf_finding hfinding))
            exact absurd (List.find?_some hfind) (by simp [hleft])
      have hnone : ∀ inner ∈ objectsAt p wrapperKeys, takes (sourceOf p) inner = false :=
        fun inner hinner => Bool.eq_false_of_not_eq_true (List.find?_eq_none.mp hfind inner hinner)
      constructor
      · intro inner hinner
        refine ⟨hround.2 hf inner ?_, ?_⟩
        · rw [lookedAt_of_none hnone]
          exact hinner
        · rw [← hsource]
          exact takes_eq_false_iff.mp (hnone inner hinner)
      · intro q hq
        have hnext : nextPayload p = some q := by
          unfold nextPayload
          rw [hf, hfind, hq]
          rfl
        rw [hnext] at hstep
        obtain ⟨hqdetect, hqsource⟩ := detectSource_eq_ok_iff.mp
          (h 1 q (Nat.le_add_left 1 n) (.round hstep (.rest q)))
        refine ⟨hqdetect, hqsource, ih ((unwrapLoop_ok_iff n q).mpr (hrounds q hnext)) ?_⟩
        intro k q' hk hpeels
        exact h (k + 1) q' (Nat.succ_le_succ hk) (.round hstep hpeels)

theorem firstRecord_of_noList {p : Params} (h : ∀ records, get p "records" ≠ .arr records) :
    firstRecord p = p := by
  unfold firstRecord
  split
  · rename_i record records hrecords
    exact absurd hrecords (h _)
  · rfl

/-- **A recognised vendor is kept** by every round exactly when the payload stays. -/
theorem vendorKept_iff (p : Params) (source : AlertSource) (hp : detectSource p = .ok source)
    (hs : source ≠ .generic) (hrecords : ∀ records, get p "records" ≠ .arr records) :
    VendorKept source p ↔ Stays source 6 p := by
  have hexpand : expandAutoIngestPayload p = unwrapLoop 6 p := by
    unfold expandAutoIngestPayload
    rw [firstRecord_of_noList hrecords]
  unfold VendorKept
  rw [hexpand]
  constructor
  · rintro ⟨hend, hall⟩
    refine stays_of_kept hs ?_ hall
    cases hloop : unwrapLoop 6 p with
    | ok e => exact ⟨e, rfl⟩
    | error e =>
        rw [hloop] at hend
        cases hend
  · exact kept_of_stays hs hp

theorem search_kept : VendorKept .splunk searchPayload := by
  refine (vendorKept_iff searchPayload .splunk rfl (by decide) fun records h => ?_).mpr ?_
  · cases h
  · refine ⟨fun inner hinner => ?_, fun q hq => ?_⟩
    · rw [show objectsAt searchPayload wrapperKeys = [] from rfl] at hinner
      exact absurd hinner List.not_mem_nil
    · cases hq

/-- The result of a Splunk search in its envelope is no Splunk payload without it. -/
theorem sole_result_lost : ¬ ∀ (p : Params) (source : AlertSource),
    detectSource p = .ok source → source ≠ .generic →
    (∀ records, get p "records" ≠ .arr records) →
    (expandAutoIngestPayload p >>= detectSource) = .ok source := by
  intro h
  have hlost := h [("result", .obj [("host", .str "web-01")])] .splunk rfl (by decide)
    (fun records hrecords => by cases hrecords)
  have hgeneric : (expandAutoIngestPayload [("result", .obj [("host", .str "web-01")])] >>=
      detectSource) = .ok .generic := rfl
  cases hlost.symm.trans hgeneric

end AlertTriage
