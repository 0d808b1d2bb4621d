import AlertTriage.Ingest.AutoIngest

/-!
# Source detection and its failures

`detect_source` asks whether a text is in the value of `event` and of `detail-type`, which raises
where that value is a number, a bool or null (`Detectable`). What it answers elsewhere is a total
function of the payload (`sourceOf`), and so is the round of the unwrapping loop (`nextPayload`).
Neither function ever fails exactly when no object that they look at is of the raising kind
(`never_fails_iff`).
-/

namespace AlertTriage

open Library Library.Json

/-! ## §1  The source -/

/-- `key in fields and target in fields[key]`. -/
def searchField (target key : String) (p : Params) : Except PyExn Bool :=
  match lookup key p with
  | some v => pyContains target v
  | none => .ok false

/-- The same, where it can be asked. -/
def fieldHolds (target key : String) (p : Params) : Bool :=
  (searchField target key p).toOption.getD false

/-- The source of a payload in which nothing is searched for. -/
def shapeSource (p : Params) : AlertSource :=
  if hasKey p "search_name" || hasKey p "result" then .splunk
  else if (get p "properties").asObj?.any fun fields => hasKey fields "incidentNumber" then
    .sentinel
  else .generic

/-- The answer of `detect_source`, if it answers. -/
def sourceOf (p : Params) : AlertSource :=
  if isDetectionFindingPayload p then .generic
  else if fieldHolds "DetectionId" "event" p then .crowdstrike
  else if hasKey p "DetectionId" then .crowdstrike
  else if fieldHolds "GuardDuty" "detail-type" p then .awsGuardduty
  else shapeSource p

/-- The field is absent, or `in` works on its value. -/
def fieldSearchable (key : String) (p : Params) : Bool := (lookup key p).all searchable

/-- The fields that are searched can be, up to the one that decides. -/
def Detectable (p : Params) : Prop :=
  isDetectionFindingPayload p = true ∨ fieldSearchable "event" p = true ∧
    (fieldHolds "DetectionId" "event" p = true ∨ hasKey p "DetectionId" = true ∨
      fieldSearchable "detail-type" p = true)

instance (p : Params) : Decidable (Detectable p) :=
  inferInstanceAs (Decidable (_ ∨ _ ∧ (_ ∨ _ ∨ _)))

theorem searchField_ok {key : String} {p : Params} (h : fieldSearchable key p = true)
    (target : String) : searchField target key p = .ok (fieldHolds target key p) := by
  unfold fieldSearchable at h
  unfold fieldHolds searchField
  cases hv : lookup key p with
  | none => rfl
  | some v =>
      rw [hv] at h
      obtain ⟨found, hfound⟩ := pyContains_ok (v := v) h target
      simp only [hfound]
      rfl

theorem searchField_raises {key : String} {p : Params} (h : ¬ fieldSearchable key p = true)
    (target : String) : ∃ e, searchField target key p = .error e := by
  unfold fieldSearchable at h
  unfold searchField
  cases hv : lookup key p with
  | none => simp [hv] at h
  | some v =>
      rw [hv] at h
      exact pyContains_raises (v := v) (Bool.eq_false_of_not_eq_true h) target

theorem searchField_eq (target key : String) (default : Json) (p : Params) :
    searchField target key p =
      if hasKey p key = true then pyContains target (getOr p key default) else .ok false := by
  unfold searchField hasKey getOr
  cases lookup key p with
  | none => rfl
  | some v => rfl

/-- `detect_source`, its searches one after the other. -/
theorem detectSource_eq (p : Params) : detectSource p =
    if isDetectionFindingPayload p then .ok .generic
    else searchField "DetectionId" "event" p >>= fun inEvent =>
      if inEvent then .ok .crowdstrike
      else if hasKey p "DetectionId" then .ok .crowdstrike
      else searchField "GuardDuty" "detail-type" p >>= fun inType =>
        if inType then .ok .awsGuardduty else .ok (shapeSource p) := by
  -- what comes after the searches is read off the definition below
  have hsearches : ∃ rest : Except PyExn AlertSource, rest = .ok (shapeSource p) ∧
      detectSource p =
        if isDetectionFindingPayload p then .ok .generic
        else searchField "DetectionId" "event" p >>= fun inEvent =>
          if inEvent then .ok .crowdstrike
          else if hasKey p "DetectionId" then .ok .crowdstrike
          else searchField "GuardDuty" "detail-type" p >>= fun inType =>
            if inType then .ok .awsGuardduty else rest := by
    apply Exists.intro
    apply And.intro
    case right =>
      rw [searchField_eq _ _ (.obj []), searchField_eq _ _ (.str "")]
      unfold detectSource
      by_cases hf : isDetectionFindingPayload p = true
      · rw [if_pos hf, if_pos hf]
        rfl
      · rw [if_neg hf, if_neg hf]
        by_cases he : hasKey p "event" = true
        · rw [if_pos he, if_pos he]
          by_cases hd : hasKey p "detail-type" = true
          · rw [if_pos hd, if_pos hd]
            rfl
          · rw [if_neg hd, if_neg hd]
            rfl
        · rw [if_neg he, if_neg he]
          by_cases hd : hasKey p "detail-type" = true
          · rw [if_pos hd, if_pos hd]
            rfl
          · rw [if_neg hd, if_neg hd]
            rfl
    case left =>
      unfold shapeSource
      split
      · rfl
      · cases get p "properties" with
        | obj properties =>
            by_cases hn : hasKey properties "incidentNumber" = true
            · simp only [asObj?, Option.any_some, hn, if_true]
              rfl
            · simp only [asObj?, Option.any_some, hn, if_false, Bool.false_eq_true]
              rfl
        | _ => rfl
  obtain ⟨rest, rfl, hrest⟩ := hsearches
  exact hrest

theorem detectSource_ok {p : Params} (h : Detectable p) :
    detectSource p = .ok (sourceOf p) := by
  rw [detectSource_eq]
  unfold sourceOf
  by_cases hf : isDetectionFindingPayload p = true
  · rw [if_pos hf, if_pos hf]
  rw [if_neg hf, if_neg hf]
  obtain ⟨hevent, hrest⟩ := h.resolve_left hf
  rw [searchField_ok hevent]
  show (if fieldHolds "DetectionId" "event" p = true then _ else _) = _
  by_cases he : fieldHolds "DetectionId" "event" p = true
  · rw [if_pos he, if_pos he]
  rw [if_neg he, if_neg he]
  by_cases hid : hasKey p "DetectionId" = true
  · rw [if_pos hid, if_pos hid]
  rw [if_neg hid, if_neg hid, searchField_ok ((hrest.resolve_left he).resolve_left hid)]
  show (if fieldHolds "GuardDuty" "detail-type" p = true then _ else _) = _
  by_cases hd : fieldHolds "GuardDuty" "detail-type" p = true
  · rw [if_pos hd, if_pos hd]
  · rw [if_neg hd, if_neg hd]

theorem detectSource_raises {p : Params} (h : ¬ Detectable p) :
    ∃ e, detectSource p = .error e := by
  rw [detectSource_eq, if_neg fun hf => h (.inl hf)]
  by_cases hevent : fieldSearchable "event" p = true
  · have he : ¬ fieldHolds "DetectionId" "event" p = true :=
      fun he => h (.inr ⟨hevent, .inl he⟩)
    have hid : ¬ hasKey p "DetectionId" = true := fun hid => h (.inr ⟨hevent, .inr (.inl hid)⟩)
    have htype : ¬ fieldSearchable "detail-type" p = true :=
      fun htype => h (.inr ⟨hevent, .inr (.inr htype)⟩)
    obtain ⟨e, hraise⟩ := searchField_raises htype "GuardDuty"
    rw [searchField_ok hevent]
    show ∃ e, (if fieldHolds "DetectionId" "event" p = true then _ else _) = _
    rw [if_neg he, if_neg hid, hraise]
    exact ⟨e, rfl⟩
  · obtain ⟨e, hraise⟩ := searchField_raises hevent "DetectionId"
    rw [hraise]
    exact ⟨e, rfl⟩

/-! ## §2  One round -/

/-- The objects under the keys, in order. -/
def objectsAt (p : Params) (keys : List String) : List Params :=
  keys.filterMap fun key => (get p key).asObj?

/-- The round goes on with the inner payload. -/
def takes (outer : AlertSource) (inner : Params) : Bool :=
  isDetectionFindingPayload inner || (sourceOf inner != .generic && sourceOf inner != outer)

/-- The objects up to the first that is taken, this one among them. -/
def lookedAt (outer : AlertSource) : List Params → List Params
  | [] => []
  | inner :: rest => inner :: if takes outer inner then [] else lookedAt outer rest

/-- What one round makes of a payload, if it does not fail. -/
def nextPayload (p : Params) : Option Params :=
  if isDetectionFindingPayload p then none
  else (objectsAt p wrapperKeys).find? (takes (sourceOf p)) <|> soleInner p

/-- The payload and what is looked at within it have sources. -/
def RoundDetectable (p : Params) : Prop :=
  Detectable p ∧ (isDetectionFindingPayload p = false →
    ∀ inner ∈ lookedAt (sourceOf p) (objectsAt p wrapperKeys), Detectable inner)

theorem objectsAt_none {p : Params} {key : String} (h : (get p key).asObj? = none)
    (keys : List String) : objectsAt p (key :: keys) = objectsAt p keys :=
  List.filterMap_cons_none h

theorem objectsAt_some {p inner : Params} {key : String}
    (h : (get p key).asObj? = some inner) (keys : List String) :
    objectsAt p (key :: keys) = inner :: objectsAt p keys :=
  List.filterMap_cons_some h

theorem takesInner_ok {inner : Params} (h : Detectable inner) (outer : AlertSource) :
    takesInner outer inner = .ok (takes outer inner) := by
  unfold takesInner takes
  by_cases hf : isDetectionFindingPayload inner = true
  · rw [if_pos hf, hf]
    rfl
  · rw [if_neg hf, detectSource_ok h, Bool.eq_false_of_not_eq_true hf]
    rfl

theorem takesInner_raises {inner : Params} (h : ¬ Detectable inner) (outer : AlertSource) :
    ∃ e, takesInner outer inner = .error e := by
  obtain ⟨e, he⟩ := detectSource_raises h
  refine ⟨e, ?_⟩
  unfold takesInner
  rw [if_neg fun hf => h (.inl hf), he]
  rfl

theorem firstInner_cons (p : Params) (outer : AlertSource) (key : String)
    (keys : List String) : firstInner p outer (key :: keys) =
      ((get p key).asObj?.elim (firstInner p outer keys) fun inner =>
        takesInner outer inner >>= fun taken =>
          if taken then .ok (some inner) else firstInner p outer keys) := by
  rw [firstInner]
  cases get p key with
  | obj inner => rfl
  | _ => rfl

theorem firstInner_ok {p : Params} {outer : AlertSource} {keys : List String}
    (h : ∀ inner ∈ lookedAt outer (objectsAt p keys), Detectable inner) :
    firstInner p outer keys = .ok ((objectsAt p keys).find? (takes outer)) := by
  induction keys with
  | nil => rfl
  | cons key keys ih =>
      rw [firstInner_cons]
      cases hv : (get p key).asObj? with
      | none =>
          rw [objectsAt_none hv] at h ⊢
          exact ih h
      | some inner =>
          rw [objectsAt_some hv] at h ⊢
          rw [lookedAt] at h
          rw [Option.elim_some, takesInner_ok (h inner List.mem_cons_self)]
          show (if takes outer inner = true then _ else _) = _
          by_cases ht : takes outer inner = true
          · rw [if_pos ht, List.find?_cons_of_pos ht]
          · rw [if_neg ht] at h ⊢
            rw [List.find?_cons_of_neg ht]
            exact ih fun other hother => h other (List.mem_cons_of_mem _ hother)

theorem firstInner_raises {p : Params} {outer : AlertSource} {keys : List String}
    (h : ¬ ∀ inner ∈ lookedAt outer (objectsAt p keys), Detectable inner) :
    ∃ e, firstInner p outer keys = .error e := by
  induction keys with
  | nil => exact absurd (fun _ hinner => absurd hinner List.not_mem_nil) h
  | cons key keys ih =>
      rw [firstInner_cons]
      cases hv : (get p key).asObj? with
      | none =>
          rw [objectsAt_none hv] at h
          exact ih h
      | some inner =>
          rw [objectsAt_some hv, lookedAt] at h
          rw [Option.elim_some]
          by_cases hinner : Detectable inner
          · rw [takesInner_ok hinner]
            show ∃ e, (if takes outer inner = true then _ else _) = _
            by_cases ht : takes outer inner = true
            · rw [if_pos ht] at h
              exact absurd (fun other hother => List.mem_singleton.mp hother ▸ hinner) h
            · rw [if_neg ht] at h ⊢
              refine ih fun hall => h fun other hother => ?_
              rcases List.mem_cons.mp hother with rfl | hother
              · exact hinner
              · exact hall other hother
          · obtain ⟨e, he⟩ := takesInner_raises hinner outer
            rw [he]
            exact ⟨e, rfl⟩

theorem unwrapOnce_ok {p : Params} (h : RoundDetectable p) :
    unwrapOnce p = .ok (nextPayload p) := by
  unfold unwrapOnce nextPayload
  by_cases hf : isDetectionFindingPayload p = true
  · rw [if_pos hf, if_pos hf]
    rfl
  · rw [if_neg hf, if_neg hf, detectSource_ok h.1]
    show (firstInner p (sourceOf p) wrapperKeys >>= _) = _
    rw [firstInner_ok (h.2 (Bool.eq_false_of_not_eq_true hf))]
    cases (objectsAt p wrapperKeys).find? (takes (sourceOf p)) with
    | none => rfl
    | some inner => rfl

theorem unwrapOnce_raises {p : Params} (h : ¬ RoundDetectable p) :
    ∃ e, unwrapOnce p = .error e := by
  have hf : ¬ isDetectionFindingPayload p = true :=
    fun hf => h ⟨.inl hf, fun hfalse => absurd (hf.symm.trans hfalse) (by decide)⟩
  unfold unwrapOnce
  rw [if_neg hf]
  by_cases hp : Detectable p
  · rw [detectSource_ok hp]
    have hinner : ¬ ∀ inner ∈ lookedAt (sourceOf p) (objectsAt p wrapperKeys),
        Detectable inner := fun hall => h ⟨hp, fun _ => hall⟩
    obtain ⟨e, he⟩ := firstInner_raises hinner
    show ∃ e, (firstInner p (sourceOf p) wrapperKeys >>= _) = _
    rw [he]
    exact ⟨e, rfl⟩
  · obtain ⟨e, he⟩ := detectSource_raises hp
    rw [he]
    exact ⟨e, rfl⟩

/-! ## §3  When nothing fails -/

/-- Every object that so many rounds look at has a source. -/
def RoundsDetectable : ℕ → Params → Prop
  | 0, _ => True
  | n + 1, p => RoundDetectable p ∧ ∀ q, nextPayload p = some q → RoundsDetectable n q

theorem unwrapLoop_ok_iff (n : ℕ) (p : Params) :
    (∃ e, unwrapLoop n p = .ok e) ↔ RoundsDetectable n p := by
  induction n generalizing p with
  | zero => exact iff_of_true ⟨p, rfl⟩ trivial
  | succ n ih =>
      rw [unwrapLoop, RoundsDetectable]
      by_cases h : RoundDetectable p
      · rw [unwrapOnce_ok h]
        cases hnext : nextPayload p with
        | none => exact iff_of_true ⟨p, rfl⟩ ⟨h, by simp⟩
        | some q =>
            show (∃ e, unwrapLoop n q = .ok e) ↔ _
            rw [ih q]
            constructor
            · intro hq
              exact ⟨h, fun q' hq' => Option.some.inj hq' ▸ hq⟩
            · intro hq
              exact hq.2 q rfl
      · obtain ⟨e, he⟩ := unwrapOnce_raises h
        rw [he]
        refine iff_of_false ?_ fun hp => h hp.1
        rintro ⟨e', he'⟩
        cases he'

/-- Neither function raises on the payload. -/
def NeverFails (p : Params) : Prop :=
  (∃ source, detectSource p = .ok source) ∧ ∃ e, expandAutoIngestPayload p = .ok e

/-- **Detection never fails** on a payload exactly when it has a source itself, and every object
that the six rounds look at has one. -/
theorem never_fails_iff (p : Params) :
    NeverFails p ↔ Detectable p ∧ RoundsDetectable 6 (firstRecord p) := by
  refine and_congr ⟨?_, fun h => ⟨_, detectSource_ok h⟩⟩ (unwrapLoop_ok_iff 6 (firstRecord p))
  rintro ⟨source, hsource⟩
  by_contra h
  obtain ⟨e, he⟩ := detectSource_raises h
  cases hsource.symm.trans he

/-- An `event` that is a number. -/
theorem numbered_event_fails : ¬ ∀ p : Params, NeverFails p := by
  intro h
  obtain ⟨⟨source, hsource⟩, -⟩ := h [("event", .int 4624)]
  have hraise : detectSource [("event", .int 4624)] =
      .error (.other "argument is not iterable") := rfl
  cases hraise.symm.trans hsource

end AlertTriage
