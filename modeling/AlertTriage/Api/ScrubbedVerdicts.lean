import AlertTriage.Api.OutputFilter
import AlertTriage.Api.Verdicts

/-!
# What is returned of a verdict

`scrub_verdict_for_log` scrubs one string of a verdict, its summary. So what is returned is clean
when all other strings of the verdict are (`scrubbed_verdict_iff`).
-/

namespace AlertTriage

open Library Library.Json

/-! ## §1  Whole verdicts -/

def EscalationDecision.value : EscalationDecision → String
  | .escalateIr => "ESCALATE_IR"
  | .falsePositive => "FALSE_POSITIVE"
  | .monitor => "MONITOR"
  | .close => "CLOSE"

/-- The `type` of an `IOCEntity`. -/
inductive IocType where
  | ip | domain | hashMd5 | hashSha256 | url | email | filename
deriving DecidableEq, Repr

def IocType.value : IocType → String
  | .ip => "ip"
  | .domain => "domain"
  | .hashMd5 => "hash_md5"
  | .hashSha256 => "hash_sha256"
  | .url => "url"
  | .email => "email"
  | .filename => "filename"

/-- `IOCEntity`, with its context. -/
structure WholeIoc where
  type : IocType
  value : String
  context : Option String
deriving DecidableEq, Repr

/-- `TriageVerdict`, with all of its fields. -/
structure WholeVerdict where
  verdictId : String
  alertId : String
  tenantId : Option String
  generatedAt : String
  status : Option String
  severity : Severity
  severityJustification : String
  mitreAssessments : List MITREAssessment
  triageSummary : String
  confirmedIocs : List WholeIoc
  immediateActions : List ImmediateAction
  escalation : EscalationDecision
  escalationRationale : String
  totalToolCalls : ℕ
  toolsCalled : List String
  analystConfidence : ℚ
  falsePositiveProbability : ℚ
deriving DecidableEq, Repr

/-- What the pipeline knows of a verdict. -/
def WholeVerdict.verdict (v : WholeVerdict) : TriageVerdict where
  alertId := v.alertId
  tenantId := v.tenantId
  status := v.status
  severity := v.severity
  severityJustification := v.severityJustification
  mitreAssessments := v.mitreAssessments
  triageSummary := v.triageSummary
  confirmedIocs := v.confirmedIocs.map fun ioc => ⟨ioc.type.value, ioc.value⟩
  immediateActions := v.immediateActions
  escalation := v.escalation
  escalationRationale := v.escalationRationale
  totalToolCalls := v.totalToolCalls
  toolsCalled := v.toolsCalled
  analystConfidence := v.analystConfidence
  falsePositiveProbability := v.falsePositiveProbability

/-! ## §2  The dump -/

/-- How a fraction is written, as a decimal mantissa and its exponent. -/
abbrev Decimals := ℚ → ℤ × ℤ

def fraction (decimals : Decimals) (q : ℚ) : Json := .float (decimals q).1 (decimals q).2

def MITREAssessment.modelDump (decimals : Decimals) (t : MITREAssessment) : Json :=
  .obj [("technique_id", .str t.techniqueId), ("technique_name", .str t.techniqueName),
    ("tactic", .str t.tactic), ("confidence", fraction decimals t.confidence)]

def WholeIoc.modelDump (ioc : WholeIoc) : Json :=
  .obj [("type", .str ioc.type.value), ("value", .str ioc.value),
    ("context", optionalText ioc.context)]

def ImmediateAction.modelDump (a : ImmediateAction) : Json :=
  .obj [("priority", .int a.priority), ("action", .str a.action),
    ("target", optionalText a.target)]

/-- `verdict.model_dump(mode="json")`. Without the mode, enumerations and the datetime are written
so by the response. -/
def WholeVerdict.modelDump (decimals : Decimals) (v : WholeVerdict) : Params :=
  [("verdict_id", .str v.verdictId), ("alert_id", .str v.alertId),
    ("tenant_id", optionalText v.tenantId), ("generated_at", .str v.generatedAt),
    ("status", optionalText v.status), ("severity", .str v.severity.value),
    ("severity_justification", .str v.severityJustification),
    ("mitre_assessments", .arr (v.mitreAssessments.map (MITREAssessment.modelDump decimals))),
    ("triage_summary", .str v.triageSummary),
    ("confirmed_iocs", .arr (v.confirmedIocs.map WholeIoc.modelDump)),
    ("immediate_actions", .arr (v.immediateActions.map ImmediateAction.modelDump)),
    ("escalation", .str v.escalation.value),
    ("escalation_rationale", .str v.escalationRationale),
    ("total_tool_calls", .int v.totalToolCalls),
    ("tools_called", .arr (v.toolsCalled.map .str)),
    ("analyst_confidence", fraction decimals v.analystConfidence),
    ("false_positive_probability", fraction decimals v.falsePositiveProbability)]

/-- `scrub_verdict_for_log`. -/
def scrubVerdictForLog (classes : CharClasses) (verdictDict : Params) : Params :=
  let cleaned := remove "raw_tool_outputs" verdictDict
  match lookup "triage_summary" cleaned with
  | some summary =>
      upsert "triage_summary" (.str (scrubString classes (pyStr summary))) cleaned
  | none => cleaned

def WholeVerdict.scrubbed (classes : CharClasses) (v : WholeVerdict) : WholeVerdict :=
  { v with triageSummary := scrubString classes v.triageSummary }

/-- The dump is scrubbed in its summary. -/
theorem scrub_modelDump (classes : CharClasses) (decimals : Decimals) (v : WholeVerdict) :
    scrubVerdictForLog classes (v.modelDump decimals) =
      (v.scrubbed classes).modelDump decimals := rfl

/-- The endpoints' scrubbing of a verdict is that of its dump. -/
theorem verdict_scrubbed (classes : CharClasses) (v : WholeVerdict) :
    (v.scrubbed classes).verdict = scrubVerdict (scrubString classes) v.verdict := rfl

/-! ## §3  The strings of the dump -/

/-- The strings of a verdict other than its summary and its enumerations. -/
def WholeVerdict.otherTexts (v : WholeVerdict) : List String :=
  [v.verdictId, v.alertId, v.generatedAt, v.severityJustification, v.escalationRationale] ++
    v.tenantId.toList ++ v.status.toList ++
    v.mitreAssessments.flatMap (fun t => [t.techniqueId, t.techniqueName, t.tactic]) ++
    v.confirmedIocs.flatMap (fun ioc => ioc.value :: ioc.context.toList) ++
    v.immediateActions.flatMap (fun a => a.action :: a.target.toList) ++ v.toolsCalled

/-- The keys of the dump and of the records in it. -/
def dumpKeys : List String :=
  ["verdict_id", "alert_id", "tenant_id", "generated_at", "status", "severity",
    "severity_justification", "mitre_assessments", "triage_summary", "confirmed_iocs",
    "immediate_actions", "escalation", "escalation_rationale", "total_tool_calls", "tools_called",
    "analyst_confidence", "false_positive_probability", "technique_id", "technique_name", "tactic",
    "confidence", "type", "value", "context", "priority", "action", "target"]

variable {classes : CharClasses} {decimals : Decimals}

/-- A name in ASCII. -/
def isName (text : String) : Bool :=
  text.toList.all (fun a => decide (a.toNat < 128) && !isSeparator a) &&
    decide (text.toList.countP Char.isDigit < 13)

theorem clean_name {text : String} (h : isName text = true) : Clean classes text := by
  obtain ⟨hall, hdigits⟩ := Bool.and_eq_true_iff.mp h
  have hascii (a : Char) (ha : a ∈ text.toList) : a.toNat < 128 ∧ isSeparator a = false := by
    simpa using List.all_eq_true.mp hall a ha
  refine clean_of_plain (fun a ha => (hascii a ha).2) ?_
  have hsame : text.toList.countP classes.digit = text.toList.countP Char.isDigit := by
    refine List.countP_congr fun a ha => ?_
    have hlow := (hascii a ha).1
    unfold CharClasses.digit
    rw [decide_eq_false (by omega : ¬ 128 ≤ a.toNat), Bool.false_and, Bool.or_false]
  rw [hsame]
  exact of_decide_eq_true hdigits

theorem clean_key : ∀ k ∈ dumpKeys, Clean classes k := by
  have hall : ∀ k ∈ dumpKeys, isName k = true := by decide
  exact fun k hk => clean_name (hall k hk)

theorem clean_severity (severity : Severity) : Clean classes severity.value := by
  apply clean_name
  cases severity <;> rfl

theorem clean_escalation (decision : EscalationDecision) : Clean classes decision.value := by
  apply clean_name
  cases decision <;> rfl

theorem clean_iocType (type : IocType) : Clean classes type.value := by
  apply clean_name
  cases type <;> rfl

theorem forall_texts_optional {P : String → Prop} {o : Option String} :
    (∀ s ∈ texts (optionalText o), P s) ↔ ∀ s ∈ o.toList, P s := by
  cases o <;> rfl

theorem forall_texts_str {P : String → Prop} {text : String} :
    (∀ s ∈ texts (.str text), P s) ↔ P text := List.forall_mem_singleton

theorem forall_texts_fraction {P : String → Prop} {q : ℚ} :
    ∀ s ∈ texts (fraction decimals q), P s := List.forall_mem_nil _

theorem forall_texts_arr {P : String → Prop} {α : Type} {f : α → Json} {xs : List α} :
    (∀ s ∈ texts (.arr (xs.map f)), P s) ↔ ∀ x ∈ xs, ∀ s ∈ texts (f x), P s := by
  show (∀ s ∈ textsItems _, P s) ↔ _
  rw [forall_textsItems, List.forall_mem_map]

theorem forall_texts_obj {P : String → Prop} {fields : Params} :
    (∀ s ∈ texts (.obj fields), P s) ↔
      ∀ field ∈ fields, P field.1 ∧ ∀ s ∈ texts field.2, P s := forall_textsFields

theorem clean_assessment_iff (t : MITREAssessment) :
    (∀ s ∈ texts (t.modelDump decimals), Clean classes s) ↔
      ∀ s ∈ [t.techniqueId, t.techniqueName, t.tactic], Clean classes s := by
  unfold MITREAssessment.modelDump
  rw [forall_texts_obj]
  simp (disch := decide) only [List.forall_mem_cons, forall_texts_str, clean_key, true_and,
    iff_true_intro forall_texts_fraction, List.not_mem_nil, false_implies, implies_true, and_true]

theorem clean_ioc_iff (ioc : WholeIoc) :
    (∀ s ∈ texts ioc.modelDump, Clean classes s) ↔
      ∀ s ∈ ioc.value :: ioc.context.toList, Clean classes s := by
  unfold WholeIoc.modelDump
  rw [forall_texts_obj]
  simp (disch := decide) only [List.forall_mem_cons, forall_texts_str, forall_texts_optional,
    clean_key, clean_iocType, true_and, List.not_mem_nil, false_implies, implies_true, and_true]

theorem clean_action_iff (a : ImmediateAction) :
    (∀ s ∈ texts a.modelDump, Clean classes s) ↔
      ∀ s ∈ a.action :: a.target.toList, Clean classes s := by
  have hpriority : ∀ s ∈ texts (.int a.priority), Clean classes s := List.forall_mem_nil _
  unfold ImmediateAction.modelDump
  rw [forall_texts_obj]
  simp (disch := decide) only [List.forall_mem_cons, forall_texts_str, forall_texts_optional,
    clean_key, iff_true_intro hpriority, true_and, List.not_mem_nil, false_implies, implies_true,
    and_true]

/-- The dump is clean when its strings are, as its keys and enumerations always are. -/
theorem clean_modelDump_iff {v : WholeVerdict} :
    (∀ s ∈ textsFields (v.modelDump decimals), Clean classes s) ↔
      Clean classes v.triageSummary ∧ ∀ s ∈ v.otherTexts, Clean classes s := by
  have hcalls : ∀ s ∈ texts (.int v.totalToolCalls), Clean classes s := List.forall_mem_nil _
  unfold WholeVerdict.modelDump WholeVerdict.otherTexts
  rw [forall_textsFields]
  simp (disch := decide) only [List.forall_mem_cons, List.forall_mem_append,
    List.forall_mem_flatMap, forall_texts_str, forall_texts_optional, forall_texts_arr,
    clean_assessment_iff, clean_ioc_iff, clean_action_iff, clean_key, clean_severity,
    clean_escalation, iff_true_intro forall_texts_fraction, iff_true_intro hcalls, true_and,
    List.not_mem_nil, false_implies, implies_true, and_true]
  constructor
  · rintro ⟨hid, halert, htenant, hgenerated, hstatus, hseverity, htechniques, hsummary, hiocs,
      hactions, hescalation, htools⟩
    exact ⟨hsummary, ⟨⟨⟨⟨⟨⟨hid, halert, hgenerated, hseverity, hescalation⟩, htenant⟩, hstatus⟩,
      htechniques⟩, hiocs⟩, hactions⟩, htools⟩
  · rintro ⟨hsummary, ⟨⟨⟨⟨⟨⟨hid, halert, hgenerated, hseverity, hescalation⟩, htenant⟩, hstatus⟩,
      htechniques⟩, hiocs⟩, hactions⟩, htools⟩
    exact ⟨hid, halert, htenant, hgenerated, hstatus, hseverity, htechniques, hsummary, hiocs,
      hactions, hescalation, htools⟩

/-! ## §4  What is returned -/

/-- No string of what is returned of the verdict has anything to scrub, and scrubbing twice is
scrubbing once. -/
structure ReturnedClean (classes : CharClasses) (decimals : Decimals) (v : WholeVerdict) :
    Prop where
  strings : ∀ s ∈ texts (.obj (scrubVerdictForLog classes (v.modelDump decimals))),
    Clean classes s
  again : ∀ value, scrubString classes (scrubString classes value) = scrubString classes value

/-- **What is returned of a verdict is clean** exactly when its strings other than the summary
are. -/
theorem scrubbed_verdict_iff (classes : CharClasses) (decimals : Decimals) (v : WholeVerdict) :
    ReturnedClean classes decimals v ↔ ∀ s ∈ v.otherTexts, Clean classes s := by
  have hsummary : Clean classes (v.scrubbed classes).triageSummary :=
    clean_scrubString classes v.triageSummary
  have hdump : (∀ s ∈ texts (.obj (scrubVerdictForLog classes (v.modelDump decimals))),
      Clean classes s) ↔ ∀ s ∈ v.otherTexts, Clean classes s := by
    rw [scrub_modelDump]
    exact clean_modelDump_iff.trans (and_iff_right hsummary)
  exact ⟨fun h => hdump.mp h.strings, fun h => ⟨hdump.mpr h, scrubString_scrubString classes⟩⟩

/-- A verdict whose justification quotes a command line. -/
def leakyVerdict : WholeVerdict where
  verdictId := "v"
  alertId := "a"
  tenantId := none
  generatedAt := "2026-01-01T00:00:00"
  status := none
  severity := .high
  severityJustification := "net use with password=hunter2"
  mitreAssessments := []
  triageSummary := "net use with password=hunter2"
  confirmedIocs := []
  immediateActions := []
  escalation := .monitor
  escalationRationale := "r"
  totalToolCalls := 0
  toolsCalled := []
  analystConfidence := 1
  falsePositiveProbability := 0

theorem justification_leaks : ¬ ∀ (classes : CharClasses) (decimals : Decimals)
    (v : WholeVerdict), ReturnedClean classes decimals v := by
  intro h
  have hmem : leakyVerdict.severityJustification ∈ texts (.obj
      (scrubVerdictForLog asciiClasses (leakyVerdict.modelDump fun _ => (0, 0)))) := by
    rw [scrub_modelDump]
    simp [WholeVerdict.modelDump, WholeVerdict.scrubbed, texts, textsFields]
  have hclean := ((h _ _ leakyVerdict).strings _ hmem).credential
  revert hclean
  decide +kernel

end AlertTriage
