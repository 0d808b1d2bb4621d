import AlertTriage.Ingest.AlertNormalizer

/-!
# `components/auto_ingest.py`

A payload of unknown origin: its envelopes are taken off, its source is
inferred from its shape, and what stays generic may be flattened by a model
before it is normalised.
-/

namespace AlertTriage

open Library

/-! ## §1  The source of a payload -/

/-- `key in fields`. -/
def hasKey (fields : Params) (key : String) : Bool :=
  (Json.lookup key fields).isSome

/-- `detect_source`. -/
def detectSource (payload : Params) : Except PyExn AlertSource := do
  if isDetectionFindingPayload payload then return .generic
  if hasKey payload "event" then
    if ← pyContains "DetectionId" (getOr payload "event" (.obj [])) then
      return .crowdstrike
  if hasKey payload "DetectionId" then return .crowdstrike
  if hasKey payload "detail-type" then
    if ← pyContains "GuardDuty" (getOr payload "detail-type" (.str "")) then
      return .awsGuardduty
  if hasKey payload "search_name" || hasKey payload "result" then
    return .splunk
  match get payload "properties" with
  | .obj properties =>
      if hasKey properties "incidentNumber" then return .sentinel
      else return .generic
  | _ => return .generic

/-! ## §2  Envelopes -/

/-- The keys that an inner payload is looked for under. -/
def wrapperKeys : List String :=
  ["data", "alert", "body", "payload", "properties", "resource"]

/-- The keys that are taken off when there is no other. -/
def soleKeys : List String :=
  ["alert", "data", "body", "payload", "event", "result", "resource"]

/-- The inner payload is taken: a finding, or of another source than the
outer one and not generic. -/
def takesInner (outer : AlertSource) (inner : Params) : Except PyExn Bool := do
  if isDetectionFindingPayload inner then return true
  let source ← detectSource inner
  return source != .generic && source != outer

/-- The first object under one of the keys that is taken. -/
def firstInner (p : Params) (outer : AlertSource) :
    List String → Except PyExn (Option Params)
  | [] => return none
  | key :: keys => do
      match get p key with
      | .obj inner =>
          if ← takesInner outer inner then return some inner
          firstInner p outer keys
      | _ => firstInner p outer keys

/-- The object of a single-key envelope. -/
def soleInner : Params → Option Params
  | [(key, .obj inner)] => if lowered key ∈ soleKeys then some inner else none
  | _ => none

/-- One round of the loop: the payload to go on with, if it changed. -/
def unwrapOnce (p : Params) : Except PyExn (Option Params) := do
  if isDetectionFindingPayload p then return none
  let outer ← detectSource p
  match ← firstInner p outer wrapperKeys with
  | some inner => return some inner
  | none => return soleInner p

/-- At most so many rounds, until nothing changes. -/
def unwrapLoop : ℕ → Params → Except PyExn Params
  | 0, p => return p
  | n + 1, p => do
      match ← unwrapOnce p with
      | some inner => unwrapLoop n inner
      | none => return p

/-- `p["records"][0]` where that is an object, else `p`. -/
def firstRecord (p : Params) : Params :=
  match get p "records" with
  | .arr (.obj record :: _) => record
  | _ => p

/-- `expand_auto_ingest_payload`. -/
def expandAutoIngestPayload (payload : Params) : Except PyExn Params :=
  unwrapLoop 6 (firstRecord payload)

/-! ## §3  Auto-ingest -/

/-- `AutoIngestFlatView`: the model's summary of an unknown payload. -/
structure AutoIngestFlatView where
  title : String
  description : String
  severity : String
  hostname : Option String
  mitreTechnique : Option String
  mitreTactic : Option String
  sourceAlertId : Option String
deriving DecidableEq, Repr

/-- A text of the summary, where there is one. -/
def flatField (key : String) (value : Option String) : Params :=
  match value with
  | some s => if s = "" then [] else [(key, .str s)]
  | none => []

/-- The generic payload of a summary. -/
def AutoIngestFlatView.genericPayload (flat : AutoIngestFlatView) : Params :=
  [("title", .str flat.title),
    ("description", .str
      (if flat.description = "" then flat.title else flat.description)),
    ("severity", .str flat.severity)] ++
    flatField "hostname" flat.hostname ++
    flatField "mitre_technique" flat.mitreTechnique ++
    flatField "mitre_tactic" flat.mitreTactic ++
    flatField "id" flat.sourceAlertId

/-- `resolve_alert_for_auto_ingest`; the summary is there if a model was asked
and answered. -/
def resolveAlertForAutoIngest (py : PyBuiltins) (uuid : String)
    (flat : Option AutoIngestFlatView) (payload : Params) :
    Except PyExn ParsedAlert := do
  let expanded ← expandAutoIngestPayload payload
  let src ← detectSource expanded
  let alert ←
    if src ≠ .generic then normalizeAlert py uuid src expanded
    else
      match flat with
      | some flat => normalizeAlert py uuid .generic flat.genericPayload
      | none => normalizeAlert py uuid .generic expanded
  return { alert with rawPayload := payload }

end AlertTriage
