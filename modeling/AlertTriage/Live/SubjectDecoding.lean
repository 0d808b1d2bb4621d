import AlertTriage.Live.AlertFeed

/-!
# Subjects read back

Two constructors put a tenant and an alert between dots, `nats_broker.py` for events and the
cancel route of the BFF for cancels. `event-fanout.ts` reads both names back by their places
from the front, and the worker reads the alert of a cancel from the end. Whatever the route
admits, they read what was written exactly if neither name has a dot (`subjects_decode_iff`).
-/

namespace AlertTriage.Live

open Library Bff

/-! ## §1  The cancel route -/

/-- `CancelBody`. -/
structure CancelBody where
  doId : String
  tenantId : String
  userId : String
  alertId : String
deriving DecidableEq, Repr

/-- `CancelBody.parse`. -/
def CancelBody.parse (body : Json) : Option CancelBody := do
  let doId ← zString 128 "do_id" body
  let tenantId ← zString 128 "tenant_id" body
  let userId ← zString 128 "user_id" body
  let alertId ← zString 256 "alert_id" body
  return ⟨doId, tenantId, userId, alertId⟩

/-- `POST /api/internal/cancel`, once the token is verified: what is published for its tenant,
or the refusal. -/
def postCancel (tid : String) (body : Json) (requestedAt : String) : Except Response Message :=
  match CancelBody.parse body with
  | none => .error invalidRequest
  | some parsed =>
      if tid ≠ parsed.tenantId then .error ⟨403, some "tenant_mismatch"⟩
      else .ok (.cancel tid parsed.alertId parsed.userId requestedAt)

/-! ## §2  The decoders -/

/-- `triage.cancel.v1.{tenant}.{alert}`. -/
def subjTriageCancel (tenantId alertId : String) : String :=
  "triage.cancel." ++ schemaVersionTag ++ "." ++ tenantId ++ "." ++ alertId

/-- `_alert_id_from_subject`; `str.split` cuts as `split` of JavaScript does. -/
def alertIdFromSubject (subject : String) : Option String :=
  let parts := splitSubject subject
  if 5 ≤ parts.length ∧ parts[0]? = some "triage" ∧ parts[1]? = some "cancel" then
    parts.getLast?
  else none

/-- The route publishes under the subject of the two names that it has admitted. -/
theorem postCancel_subject {tid : String} {body : Json} {requestedAt : String} {m : Message}
    (h : postCancel tid body requestedAt = .ok m) :
    ∃ parsed, CancelBody.parse body = some parsed ∧ parsed.tenantId = tid ∧
      m.subject = subjTriageCancel tid parsed.alertId := by
  unfold postCancel at h
  split at h
  · cases h
  · rename_i parsed hparsed
    split at h
    · cases h
    · rename_i htid
      obtain rfl := Except.ok.inj h
      refine ⟨parsed, hparsed, (not_ne_iff.mp htid).symm, ?_⟩
      have hhead : "triage.cancel." ++ schemaVersionTag ++ "." = "triage.cancel.v1." := by
        decide +kernel
      exact congrArg (fun front => front ++ tid ++ "." ++ parsed.alertId) hhead.symm

/-- The names come back, from the cancel and from every event of the alert. -/
structure SubjectsDecode (tenantId alertId : String) : Prop where
  cancel : extractTenantAlertFromSubject (subjTriageCancel tenantId alertId) =
    some (tenantId, alertId)
  worker : alertIdFromSubject (subjTriageCancel tenantId alertId) = some alertId
  event : ∀ phase, extractTenantAlertFromSubject (subjTriageEvent tenantId alertId phase) =
    some (tenantId, alertId)

/-! ## §3  The parts of a subject -/

variable {tenantId alertId s : String}

/-- No part of a split has the separator. -/
theorem notMem_of_mem_splitOn {α : Type} [BEq α] [LawfulBEq α] {sep : α} {xs part : List α}
    (h : part ∈ xs.splitOn sep) : sep ∉ part := by
  induction xs generalizing part with
  | nil =>
      obtain rfl : part = [] := by simpa using h
      exact List.not_mem_nil
  | cons x xs ih =>
      rw [List.splitOn_cons_eq_if_modifyHead] at h
      split at h
      · rcases List.mem_cons.mp h with rfl | h
        · exact List.not_mem_nil
        · exact ih h
      · rename_i hx
        obtain ⟨first, rest, hsplit⟩ := List.exists_cons_of_ne_nil (List.splitOn_ne_nil sep xs)
        rw [hsplit, List.modifyHead_cons] at h
        rcases List.mem_cons.mp h with rfl | h
        · have hfirst : sep ∉ first := ih (hsplit ▸ List.mem_cons_self)
          have hne : sep ≠ x := fun heq => hx (by simp [heq])
          simp [hne, hfirst]
        · exact ih (hsplit ▸ List.mem_cons_of_mem _ h)

theorem dot_notMem_of_mem {part : String} (h : part ∈ splitSubject s) : '.' ∉ part.toList := by
  obtain ⟨l, hl, rfl⟩ := List.mem_map.mp h
  rw [String.toList_ofList]
  exact notMem_of_mem_splitOn hl

theorem splitSubject_plain (h : '.' ∉ s.toList) : splitSubject s = [s] := by
  rw [splitSubject, List.splitOn_eq_singleton h, List.map_singleton, String.ofList_toList]

/-- What stands before and after a dot is split on its own. -/
theorem splitSubject_dot (a b : String) :
    splitSubject (a ++ "." ++ b) = splitSubject a ++ splitSubject b := by
  have hdot : (".").toList = ['.'] := rfl
  rw [splitSubject, String.toList_append, String.toList_append, hdot, List.append_assoc,
    List.singleton_append, List.splitOn_append_cons_self, List.map_append]
  rfl

theorem splitSubject_ne_nil (s : String) : splitSubject s ≠ [] := by
  simp [splitSubject, List.splitOn_ne_nil]

theorem splitSubject_cancel (tenantId alertId : String) :
    splitSubject (subjTriageCancel tenantId alertId) =
      "triage" :: "cancel" :: "v1" :: (splitSubject tenantId ++ splitSubject alertId) := by
  have hhead : splitSubject ("triage.cancel." ++ schemaVersionTag) =
      ["triage", "cancel", "v1"] := by decide +kernel
  have htenant : splitSubject ("triage.cancel." ++ schemaVersionTag ++ "." ++ tenantId) =
      ["triage", "cancel", "v1"] ++ splitSubject tenantId := by
    rw [← hhead]
    exact splitSubject_dot _ _
  calc splitSubject (subjTriageCancel tenantId alertId)
      = splitSubject ("triage.cancel." ++ schemaVersionTag ++ "." ++ tenantId) ++
          splitSubject alertId := splitSubject_dot _ _
    _ = _ := by rw [htenant, List.append_assoc]; rfl

theorem splitSubject_event (tenantId alertId phase : String) :
    splitSubject (subjTriageEvent tenantId alertId phase) =
      "triage" :: "events" :: "v1" ::
        (splitSubject tenantId ++ (splitSubject alertId ++ splitSubject phase)) := by
  have hhead : splitSubject ("triage.events." ++ schemaVersionTag) =
      ["triage", "events", "v1"] := by decide +kernel
  have htenant : splitSubject ("triage.events." ++ schemaVersionTag ++ "." ++ tenantId) =
      ["triage", "events", "v1"] ++ splitSubject tenantId := by
    rw [← hhead]
    exact splitSubject_dot _ _
  calc splitSubject (subjTriageEvent tenantId alertId phase)
      = splitSubject ("triage.events." ++ schemaVersionTag ++ "." ++ tenantId ++ "." ++ alertId) ++
          splitSubject phase := splitSubject_dot _ _
    _ = splitSubject ("triage.events." ++ schemaVersionTag ++ "." ++ tenantId) ++
          splitSubject alertId ++ splitSubject phase := by
        rw [splitSubject_dot ("triage.events." ++ schemaVersionTag ++ "." ++ tenantId) alertId]
    _ = _ := by rw [htenant, List.append_assoc, List.append_assoc]; rfl

/-! ## §4  What is read back -/

/-- The fan-out reads parts of the subject. -/
theorem mem_of_extract {subject : String}
    (h : extractTenantAlertFromSubject subject = some (tenantId, alertId)) :
    tenantId ∈ splitSubject subject ∧ alertId ∈ splitSubject subject := by
  unfold extractTenantAlertFromSubject at h
  split at h
  · rename_i p₀ p₁ p₂ t a rest hparts
    rw [hparts]
    split at h
    · obtain ⟨rfl, rfl⟩ := Prod.mk.inj (Option.some.inj h)
      simp
    · split at h
      · obtain ⟨rfl, rfl⟩ := Prod.mk.inj (Option.some.inj h)
        simp
      · cases h
  · cases h

theorem extract_cancel (ht : '.' ∉ tenantId.toList) (ha : '.' ∉ alertId.toList) :
    extractTenantAlertFromSubject (subjTriageCancel tenantId alertId) =
      some (tenantId, alertId) := by
  rw [extractTenantAlertFromSubject, splitSubject_cancel, splitSubject_plain ht,
    splitSubject_plain ha]
  rfl

theorem extract_event (ht : '.' ∉ tenantId.toList) (ha : '.' ∉ alertId.toList) (phase : String) :
    extractTenantAlertFromSubject (subjTriageEvent tenantId alertId phase) =
      some (tenantId, alertId) := by
  rw [extractTenantAlertFromSubject, splitSubject_event, splitSubject_plain ht,
    splitSubject_plain ha]
  rfl

/-- The worker reads the last part of the alert. -/
theorem alertIdFromSubject_cancel (tenantId alertId : String) :
    alertIdFromSubject (subjTriageCancel tenantId alertId) = (splitSubject alertId).getLast? := by
  have htenant := List.length_pos_of_ne_nil (splitSubject_ne_nil tenantId)
  have halert := List.length_pos_of_ne_nil (splitSubject_ne_nil alertId)
  have hlong : 5 ≤ (splitSubject (subjTriageCancel tenantId alertId)).length := by
    rw [splitSubject_cancel]
    simp only [List.length_cons, List.length_append]
    omega
  have hkind : (splitSubject (subjTriageCancel tenantId alertId))[0]? = some "triage" ∧
      (splitSubject (subjTriageCancel tenantId alertId))[1]? = some "cancel" := by
    rw [splitSubject_cancel]
    exact ⟨rfl, rfl⟩
  have hlast : ("triage" :: "cancel" :: "v1" :: (splitSubject tenantId ++
      splitSubject alertId)).getLast? = (splitSubject alertId).getLast? := by
    have hne := splitSubject_ne_nil alertId
    rw [← List.cons_append, ← List.cons_append, ← List.cons_append,
      List.getLast?_append_of_ne_nil _ hne]
  unfold alertIdFromSubject
  rw [if_pos ⟨hlong, hkind⟩, splitSubject_cancel]
  exact hlast

theorem extract_cancel_iff :
    extractTenantAlertFromSubject (subjTriageCancel tenantId alertId) =
        some (tenantId, alertId) ↔
      '.' ∉ tenantId.toList ∧ '.' ∉ alertId.toList := by
  constructor
  · intro h
    obtain ⟨ht, ha⟩ := mem_of_extract h
    exact ⟨dot_notMem_of_mem ht, dot_notMem_of_mem ha⟩
  · rintro ⟨ht, ha⟩
    exact extract_cancel ht ha

/-- The worker needs the alert alone to be without a dot. -/
theorem alertIdFromSubject_cancel_iff :
    alertIdFromSubject (subjTriageCancel tenantId alertId) = some alertId ↔
      '.' ∉ alertId.toList := by
  rw [alertIdFromSubject_cancel]
  constructor
  · intro h
    exact dot_notMem_of_mem (List.mem_of_getLast? h)
  · intro ha
    rw [splitSubject_plain ha]
    rfl

/-- **Subjects decode to what was encoded** exactly if neither the tenant nor the alert has a
dot. -/
theorem subjects_decode_iff (tenantId alertId : String) :
    SubjectsDecode tenantId alertId ↔ '.' ∉ tenantId.toList ∧ '.' ∉ alertId.toList := by
  constructor
  · intro h
    exact extract_cancel_iff.mp h.cancel
  · rintro ⟨ht, ha⟩
    constructor
    · exact extract_cancel ht ha
    · exact alertIdFromSubject_cancel_iff.mpr ha
    · exact extract_event ht ha

/-- A cancel as the gateway sends it, for an alert that is named after a host. -/
def hostCancel : Json :=
  .obj [("do_id", .str "d1"), ("tenant_id", .str "acme"), ("user_id", .str "alice"),
    ("alert_id", .str "db-01.acme.lan")]

/-- The route admits the cancel; of its subject the two decoders answer different alerts, and
neither is the one that was meant. -/
theorem dotted_alert_misread :
    postCancel "acme" hostCancel "2026-06-08" =
      .ok (.cancel "acme" "db-01.acme.lan" "alice" "2026-06-08") ∧
    extractTenantAlertFromSubject (subjTriageCancel "acme" "db-01.acme.lan") =
      some ("acme", "db-01") ∧
    alertIdFromSubject (subjTriageCancel "acme" "db-01.acme.lan") = some "lan" ∧
    ¬ ∀ (tid : String) (body : Json) (parsed : CancelBody),
      CancelBody.parse body = some parsed → parsed.tenantId = tid →
      SubjectsDecode tid parsed.alertId := by
  have hworker : alertIdFromSubject (subjTriageCancel "acme" "db-01.acme.lan") = some "lan" := by
    decide +kernel
  refine ⟨by decide +kernel, by decide +kernel, hworker, ?_⟩
  intro h
  have hparsed : CancelBody.parse hostCancel = some ⟨"d1", "acme", "alice", "db-01.acme.lan"⟩ := by
    decide +kernel
  have hread := (h "acme" hostCancel _ hparsed rfl).worker
  rw [hworker] at hread
  exact absurd (Option.some.inj hread) (by decide)

end AlertTriage.Live
