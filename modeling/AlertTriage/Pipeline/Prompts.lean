import AlertTriage.Library.Format
import AlertTriage.Schemas

/-!
# The prompts of `prompts/templates.py`

`build_triage_prompt` and `build_verdict_prompt` double the braces of what they put
into a template, as if `str.format` were to read it again. It does not, so that
the braces stay doubled: a prompt contains a text that was put into it exactly
when the text's braces are one repeated at its start and one at its end
(`carries_iff`).
-/

namespace AlertTriage

open Library

/-! ## §1  The templates -/

/-- `ANALYST_PERSONA`. -/
def analystPersona : String :=
  String.join
    ["You are a Tier 3+ SOC Analyst and Threat Intelligence specialist with 10+ years of ",
      "experience.\n",
      "Your outputs are used in live demos for senior analysts (L3 and above): they expect ",
      "investigation-grade precision,\n",
      "clear causal chains, and defensible conclusions — not minimal triage.\n",
      "You have deep expertise in MITRE ATT&CK, threat hunting, incident response, and ",
      "digital forensics.\n",
      "You are methodical, evidence-based, and never speculate beyond what the data ",
      "supports.\n",
      "You are familiar with adversary TTPs used by APT groups, financially motivated ",
      "threat actors, and insider threats."]

/-- `TRIAGE_SYSTEM_PROMPT`. -/
def triageSystemPrompt : List Piece :=
  [.field "persona",
    .text "\n\nYou are triaging a security alert. You have access to tools to query data ",
    .text "sources.\n\n",
    .text "ALERT SEVERITY: ",
    .field "severity",
    .text "\nREMAINING TOOL BUDGET: ",
    .field "budget",
    .text " calls\n\n",
    .text "TECHNIQUE / TACTIC FOCUS (use when relevant; may be empty):\n",
    .field "technique_context",
    .text "\n\nAVAILABLE TOOLS:\n",
    .field "tool_descriptions",
    .text "\n\nENRICHMENT DATA COLLECTED SO FAR:\n",
    .field "enrichment_summary",
    .text "\n\nYour task:\n",
    .text "1. Analyse the enrichment data collected so far.\n",
    .text "2. Set **tocontinue** (boolean): default **true** while **REMAINING TOOL BUDGET** ",
    .text "> 0 if any material investigative gap remains.\n",
    .text "   Set **false** only when additional calls would not meaningfully reduce ",
    .text "uncertainty (duplicate angle, no new parameters, or conclusive benign/malicious ",
    .text "picture already backed by multiple independent signals).\n",
    .text "3. When **tocontinue** is true, fill **planned_tools** with one or more tools (up ",
    .text "to the remaining budget). For each tool, set **arguments** to a **single JSON ",
    .text "object string** (the tool parameters as compact JSON, e.g. ",
    .text "`\x7b\"query\":\"...\"\x7d` — not a nested prose field). Prefer **batching** ",
    .text "distinct angles in one step rather than a single shallow call. When ",
    .text "**tocontinue** is false, **planned_tools** must be an empty list.\n",
    .text "4. Summarise your reasoning briefly in **reasoning**.\n\n",
    .text "Bias toward **more tool use** (reliable verdicts for L3+ review):\n",
    .text "- Treat burst enrichment as a first pass, not the final word. Cross-check hosts, ",
    .text "users, processes, IOCs, and cloud/endpoint narratives when tools allow.\n",
    .text "- CRITICAL/HIGH: keep **tocontinue** **true** until you have **strong ",
    .text "multi-source corroboration** (e.g. endpoint + SIEM + identity/cloud or threat ",
    .text "intel where applicable), or the budget is exhausted.\n",
    .text "- MEDIUM: use the budget to close **timeline**, **scope**, and **blast-radius** ",
    .text "questions; prefer **true** while budget remains if any of those are open or only ",
    .text "single-source.\n",
    .text "- LOW: still use tools when the alert is ambiguous, first-seen, or would change ",
    .text "handling; prefer **true** while budget remains if a false positive cannot be ",
    .text "confidently ruled in/out.\n\n",
    .text "Good follow-up angles (pick what fits the alert): adjacent time windows, related ",
    .text "user/host/process, second SIEM perspective, reputation on IOCs not yet queried, ",
    .text "asset/CMDB context, backup/VSS or netflow/DNS if relevant to the technique.\n\n",
    .text "Do NOT repeat the same tool with identical arguments.\n",
    .text "Do NOT fabricate enrichment data — only use what the tools return."]

/-- `VERDICT_SYSTEM_PROMPT`. -/
def verdictSystemPrompt : List Piece :=
  [.field "persona",
    .text "\n\nYou have completed the enrichment phase. Based on ALL collected data, generate ",
    .text "the final triage verdict.\n",
    .text "Assume the reader is an L3+ analyst judging precision: cite concrete facts from ",
    .text "enrichment; prefer conservative escalation when evidence conflicts or is thin.\n\n",
    .text "TECHNIQUE / TACTIC FOCUS (use when relevant; may be empty):\n",
    .field "technique_context",
    .text "\n\nYou MUST respond with a structured JSON matching the TriageVerdict schema ",
    .text "exactly.\n",
    .text "Fields to fill:\n",
    .text "  - severity: escalate from the original if enrichment confirms higher risk\n",
    .text "  - severity_justification: cite specific evidence from tool outputs\n",
    .text "  - mitre_assessments: list all confirmed techniques with tactic names\n",
    .text "  - triage_summary: 3-5 sentences — what happened, attack chain, objective\n",
    .text "  - confirmed_iocs: only IOCs confirmed by enrichment (not just alert claims)\n",
    .text "  - immediate_actions: exactly 3 actions, prioritised 1-3\n",
    .text "  - escalation: ESCALATE_IR / FALSE_POSITIVE / MONITOR / CLOSE\n",
    .text "  - escalation_rationale: 1-2 sentences explaining the decision\n",
    .text "  - analyst_confidence: 0.0-1.0 based on data quality\n",
    .text "  - false_positive_probability: 0.0-1.0\n\n",
    .text "ALERT TITLE: ",
    .field "alert_title",
    .text "\nORIGINAL SEVERITY: ",
    .field "original_severity",
    .text "\nENTITIES EXTRACTED: ",
    .field "entities_summary",
    .text "\nALL ENRICHMENT DATA:\n",
    .field "full_enrichment"]

/-! ## §2  The builders -/

/-- `s.replace(c, new)`, of one character. -/
def replaceChar (c : Char) (new s : String) : String :=
  String.ofList (s.toList.flatMap fun x => if x = c then new.toList else [x])

/-- `_escape_format_braces`. -/
def escapeFormatBraces (s : String) : String :=
  replaceChar '\x7d' "\x7d\x7d" (replaceChar '\x7b' "\x7b\x7b" s)

/-- `text or default`. -/
def textOr (text default : String) : String :=
  if text = "" then default else text

/-- A call of one of the builders. -/
inductive PromptCall where
  | triage (severity : Severity) (budget : ℤ)
      (toolDescriptions enrichmentSummary techniqueContext : String)
  | verdict (alertTitle originalSeverity entitiesSummary fullEnrichment
      techniqueContext : String)
deriving DecidableEq, Repr

/-- The arguments of `format` in `build_triage_prompt`. -/
def triageValues (severity : Severity) (budget : ℤ)
    (toolDescriptions enrichmentSummary techniqueContext : String) :
    List (String × String) :=
  [("persona", analystPersona), ("severity", severity.value),
    ("budget", toString budget),
    ("technique_context",
      escapeFormatBraces (textOr techniqueContext "None.")),
    ("tool_descriptions", escapeFormatBraces toolDescriptions),
    ("enrichment_summary",
      escapeFormatBraces (textOr enrichmentSummary "No enrichment data yet."))]

/-- The arguments of `format` in `build_verdict_prompt`. -/
def verdictValues (alertTitle originalSeverity entitiesSummary fullEnrichment
    techniqueContext : String) : List (String × String) :=
  [("persona", analystPersona),
    ("alert_title", escapeFormatBraces alertTitle),
    ("original_severity", escapeFormatBraces originalSeverity),
    ("entities_summary", escapeFormatBraces entitiesSummary),
    ("full_enrichment",
      escapeFormatBraces (textOr fullEnrichment "No enrichment data collected.")),
    ("technique_context",
      escapeFormatBraces (textOr techniqueContext "None."))]

def buildTriagePrompt (severity : Severity) (budget : ℤ)
    (toolDescriptions enrichmentSummary techniqueContext : String) :
    Except FormatError String :=
  strFormat (templateSource triageSystemPrompt)
    (triageValues severity budget toolDescriptions enrichmentSummary
      techniqueContext)

def buildVerdictPrompt (alertTitle originalSeverity entitiesSummary
    fullEnrichment techniqueContext : String) : Except FormatError String :=
  strFormat (templateSource verdictSystemPrompt)
    (verdictValues alertTitle originalSeverity entitiesSummary fullEnrichment
      techniqueContext)

namespace PromptCall

def build : PromptCall → Except FormatError String
  | .triage severity budget tools enrichment technique =>
      buildTriagePrompt severity budget tools enrichment technique
  | .verdict title severity entities enrichment technique =>
      buildVerdictPrompt title severity entities enrichment technique

def template : PromptCall → List Piece
  | .triage .. => triageSystemPrompt
  | .verdict .. => verdictSystemPrompt

def values : PromptCall → List (String × String)
  | .triage severity budget tools enrichment technique =>
      triageValues severity budget tools enrichment technique
  | .verdict title severity entities enrichment technique =>
      verdictValues title severity entities enrichment technique

theorem build_def (call : PromptCall) :
    call.build = strFormat (templateSource call.template) call.values := by
  cases call <;> rfl

end PromptCall

/-! ## §3  Evidence in a prompt -/

/-- What a prompt is to carry. -/
inductive Evidence where
  | enrichment | entities | title | tools | technique
deriving DecidableEq, Repr

/-- The field of the template for it, and the text that was given. -/
def PromptCall.given : PromptCall → Evidence → Option (String × String)
  | .triage _ _ _ enrichment _, .enrichment => some ("enrichment_summary", enrichment)
  | .triage _ _ tools _ _, .tools => some ("tool_descriptions", tools)
  | .triage _ _ _ _ technique, .technique => some ("technique_context", technique)
  | .verdict _ _ _ enrichment _, .enrichment => some ("full_enrichment", enrichment)
  | .verdict _ _ entities _ _, .entities => some ("entities_summary", entities)
  | .verdict title _ _ _ _, .title => some ("alert_title", title)
  | .verdict _ _ _ _ technique, .technique => some ("technique_context", technique)
  | _, _ => none

/-- The call returns a prompt that contains the text unchanged, in what stands
in its field. -/
def PromptCall.Carries (call : PromptCall) (evidence : Evidence) : Prop :=
  ∀ x, call.given evidence = some x → ∃ prompt, call.build = .ok prompt ∧
    ∃ l r, prompt.toList =
      (around call.values call.template x.1).1 ++ (l ++ x.2.toList ++ r) ++
        (around call.values call.template x.1).2

theorem toList_escapeFormatBraces (s : String) :
    (escapeFormatBraces s).toList = doubled brace s.toList := by
  unfold escapeFormatBraces replaceChar
  simp only [String.toList_ofList]
  induction s.toList with
  | nil => rfl
  | cons c cs ih =>
      rw [List.flatMap_cons, List.flatMap_append, ih]
      by_cases hopen : c = '\x7b'
      · subst hopen
        rw [doubled_cons_pos brace (by decide)]
        rfl
      by_cases hclose : c = '\x7d'
      · subst hclose
        rw [doubled_cons_pos brace (by decide)]
        rfl
      rw [doubled_cons_neg brace (by simp [brace, hopen, hclose]), if_neg hopen]
      simp [hclose]

/-- A name that can stand in a template. -/
def plainName (name : String) : Bool :=
  !name.toList.all Char.isDigit && name.toList.all fun c =>
    c ≠ '\x7b' && c ≠ '\x7d' && !(c = '!' || c = ':' || c = '.' || c = '[')

theorem given_field {kwargs : List (String × String)} {name : String}
    (hplain : plainName name = true)
    (hsome : (Json.lookup name kwargs).isSome = true) :
    Piece.Given kwargs (.field name) := by
  obtain ⟨hdigits, hall⟩ := Bool.and_eq_true_iff.mp hplain
  refine ⟨hsome, by simpa using hdigits, fun c hc => ?_⟩
  have hplainc := List.all_eq_true.mp hall c hc
  simp only [Bool.and_eq_true, Bool.not_eq_true', decide_eq_true_eq] at hplainc
  exact ⟨hplainc.1.1, hplainc.1.2, hplainc.2⟩

theorem given_text {kwargs : List (String × String)} {t : String} :
    Piece.Given kwargs (.text t) ↔ True := Iff.rfl

/-- Every field of the templates is an argument. -/
theorem PromptCall.given_all (call : PromptCall) :
    ∀ piece ∈ call.template, piece.Given call.values := by
  cases call with
  | triage severity budget tools enrichment technique =>
      unfold PromptCall.template triageSystemPrompt
      simp only [List.forall_mem_cons, given_text, true_and]
      refine ⟨given_field (by decide) rfl, given_field (by decide) rfl,
        given_field (by decide) rfl, given_field (by decide) rfl,
        given_field (by decide) rfl, given_field (by decide) rfl, by simp⟩
  | verdict title severity entities enrichment technique =>
      unfold PromptCall.template verdictSystemPrompt
      simp only [List.forall_mem_cons, given_text, true_and]
      refine ⟨given_field (by decide) rfl, given_field (by decide) rfl,
        given_field (by decide) rfl, given_field (by decide) rfl,
        given_field (by decide) rfl, given_field (by decide) rfl, by simp⟩

/-- **No prompt fails**: the template is filled. -/
theorem PromptCall.build_eq (call : PromptCall) : call.build =
    .ok (String.ofList (call.template.flatMap (Piece.filled call.values))) := by
  rw [PromptCall.build_def]
  exact strFormat_source call.given_all

/-! ## §4  What a prompt carries -/

section Carried

variable {call : PromptCall} {evidence : Evidence} {x : String × String}

/-- The field is in the template, and holds the text with its braces doubled, or
a text that stands for none. -/
theorem PromptCall.field_of_given (h : call.given evidence = some x) :
    .field x.1 ∈ call.template ∧ (x.2 ≠ "" →
      valueOf call.values x.1 = doubled brace x.2.toList) := by
  have hvalue {default : String} (hne : x.2 ≠ "") :
      (escapeFormatBraces (textOr x.2 default)).toList =
        doubled brace x.2.toList := by
    rw [textOr, if_neg hne]
    exact toList_escapeFormatBraces x.2
  have hplain : (escapeFormatBraces x.2).toList = doubled brace x.2.toList :=
    toList_escapeFormatBraces x.2
  cases call with
  | triage severity budget tools enrichment technique =>
      cases evidence with
      | enrichment =>
          obtain rfl := Option.some.inj h
          exact ⟨by simp [PromptCall.template, triageSystemPrompt], hvalue⟩
      | entities => exact absurd h (Option.some_ne_none _).symm
      | title => exact absurd h (Option.some_ne_none _).symm
      | tools =>
          obtain rfl := Option.some.inj h
          exact ⟨by simp [PromptCall.template, triageSystemPrompt],
            fun _ => hplain⟩
      | technique =>
          obtain rfl := Option.some.inj h
          exact ⟨by simp [PromptCall.template, triageSystemPrompt], hvalue⟩
  | verdict title severity entities enrichment technique =>
      cases evidence with
      | enrichment =>
          obtain rfl := Option.some.inj h
          exact ⟨by simp [PromptCall.template, verdictSystemPrompt], hvalue⟩
      | entities =>
          obtain rfl := Option.some.inj h
          exact ⟨by simp [PromptCall.template, verdictSystemPrompt],
            fun _ => hplain⟩
      | title =>
          obtain rfl := Option.some.inj h
          exact ⟨by simp [PromptCall.template, verdictSystemPrompt],
            fun _ => hplain⟩
      | tools => exact absurd h (Option.some_ne_none _).symm
      | technique =>
          obtain rfl := Option.some.inj h
          exact ⟨by simp [PromptCall.template, verdictSystemPrompt], hvalue⟩

/-- The prompt, around the field. -/
theorem PromptCall.build_around (h : call.given evidence = some x) :
    ∃ prompt, call.build = .ok prompt ∧ prompt.toList =
      (around call.values call.template x.1).1 ++ valueOf call.values x.1 ++
        (around call.values call.template x.1).2 := by
  refine ⟨_, call.build_eq, ?_⟩
  rw [String.toList_ofList]
  exact filled_eq_around call.values (PromptCall.field_of_given h).1

/-- A prompt carries a text if the text stands in what is put into the field. -/
theorem PromptCall.carries_iff_infix (h : call.given evidence = some x) :
    (∃ prompt, call.build = .ok prompt ∧ ∃ l r, prompt.toList =
      (around call.values call.template x.1).1 ++ (l ++ x.2.toList ++ r) ++
        (around call.values call.template x.1).2) ↔
      x.2.toList <:+: valueOf call.values x.1 := by
  obtain ⟨prompt, hprompt, htext⟩ := PromptCall.build_around h
  constructor
  · rintro ⟨prompt', hprompt', l, r, htext'⟩
    obtain rfl := Except.ok.inj (hprompt.symm.trans hprompt')
    have heq := htext'.symm.trans htext
    exact ⟨l, r, List.append_cancel_left (List.append_cancel_right heq)⟩
  · rintro ⟨l, r, hstands⟩
    exact ⟨prompt, hprompt, l, r, by rw [hstands]; exact htext⟩

/-- **When a prompt carries a text**: the text's braces are one repeated at its
start and one at its end, all else being without. -/
theorem carries_iff (call : PromptCall) (evidence : Evidence) :
    call.Carries evidence ↔
      ∀ x, call.given evidence = some x → AtEnds brace x.2.toList := by
  have hone (x : String × String) (h : call.given evidence = some x) :
      (∃ prompt, call.build = .ok prompt ∧ ∃ l r, prompt.toList =
        (around call.values call.template x.1).1 ++ (l ++ x.2.toList ++ r) ++
          (around call.values call.template x.1).2) ↔
        AtEnds brace x.2.toList := by
    rw [PromptCall.carries_iff_infix h]
    by_cases hempty : x.2 = ""
    · rw [hempty]
      constructor
      · exact fun _ => ⟨[], [], [], rfl, constant_nil, by simp, constant_nil⟩
      · exact fun _ => List.nil_infix
    · rw [(PromptCall.field_of_given h).2 hempty]
      exact infix_doubled_iff brace
  constructor
  · exact fun hcarries x h => (hone x h).mp (hcarries x h)
  · exact fun hends x h => (hone x h).mpr (hends x h)

/-- It stands in its field as it was given if it has no brace at all. -/
theorem verbatim_iff (h : call.given evidence = some x) (hne : x.2 ≠ "") :
    valueOf call.values x.1 = x.2.toList ↔ ∀ c ∈ x.2.toList, brace c = false := by
  rw [(PromptCall.field_of_given h).2 hne]
  exact doubled_eq_self_iff brace

end Carried

/-! ## §5  Nested JSON -/

/-- What begins with something that is not in a text stands behind it. -/
theorem infix_of_infix_append {α : Type} {a : α} {s before t : List α}
    (ha : a ∉ before) (h : a :: s <:+: before ++ t) : a :: s <:+: t := by
  induction before with
  | nil => exact h
  | cons b before ih =>
      have hne : b ≠ a := fun heq => ha (heq ▸ List.mem_cons_self)
      have hrest : a ∉ before := fun hmem => ha (List.mem_cons_of_mem b hmem)
      rcases List.infix_cons_iff.mp h with hprefix | hinfix
      · exact absurd (List.cons_prefix_cons.mp hprefix).1 hne.symm
      · exact ih hrest hinfix

/-- A result of a tool, as Splunk answers. -/
def nestedResult : String :=
  "\x7b\"host\": \x7b\"name\": \"ws-045\"\x7d\x7d"

def nestedVerdict : PromptCall :=
  .verdict "Suspicious login" "HIGH" "" nestedResult ""

theorem notMem_text {c : Char} {t : String} {l : List Char}
    (ht : t = String.ofList l) (hc : c ∉ l) : c ∉ t.toList := by
  rwa [ht, String.toList_ofList]

theorem notMem_join {c : Char} {ts : List String} (h : ∀ t ∈ ts, c ∉ t.toList) :
    c ∉ (String.join ts).toList := by
  rw [String.toList_join]
  intro hmem
  obtain ⟨t, ht, hc⟩ := List.mem_flatMap.mp hmem
  exact h t ht hc

theorem analystPersona_braceless : '\x7b' ∉ analystPersona.toList := by
  refine notMem_join fun t ht => ?_
  simp only [List.mem_cons, List.not_mem_nil, or_false] at ht
  rcases ht with rfl | rfl | rfl | rfl | rfl | rfl | rfl | rfl | rfl | rfl | rfl
  all_goals exact notMem_text rfl (by decide +kernel)

theorem verdictSystemPrompt_braceless {t : String} (h : .text t ∈ verdictSystemPrompt) :
    '\x7b' ∉ t.toList := by
  simp only [verdictSystemPrompt, List.mem_cons, Piece.text.injEq, reduceCtorEq, false_or,
    List.not_mem_nil, or_false] at h
  rcases h with rfl | rfl | rfl | rfl | rfl | rfl | rfl | rfl | rfl | rfl | rfl | rfl | rfl |
    rfl | rfl | rfl | rfl | rfl | rfl | rfl | rfl | rfl
  all_goals exact notMem_text rfl (by decide +kernel)

/-- The rest of that prompt has no brace. -/
theorem nestedVerdict_braceless : ∀ piece ∈ verdictSystemPrompt,
    piece ≠ .field "full_enrichment" →
      '\x7b' ∉ piece.filled nestedVerdict.values := by
  intro piece hpiece hne
  cases piece with
  | text t => exact verdictSystemPrompt_braceless hpiece
  | field name =>
      have hname : name = "persona" ∨ name = "technique_context" ∨ name = "alert_title" ∨
          name = "original_severity" ∨ name = "entities_summary" ∨
          name = "full_enrichment" := by
        simpa [verdictSystemPrompt] using hpiece
      rcases hname with rfl | rfl | rfl | rfl | rfl | rfl
      · exact analystPersona_braceless
      · decide
      · decide
      · decide
      · decide
      · exact absurd rfl hne

/-- A brace within is not as it was, wherever one looks in the prompt. -/
theorem nestedResult_altered :
    ¬ ∀ (call : PromptCall) (evidence : Evidence) (x : String × String),
      call.given evidence = some x → ∃ prompt, call.build = .ok prompt ∧
        x.2.toList <:+: prompt.toList := by
  intro h
  have hgiven : nestedVerdict.given .enrichment =
      some ("full_enrichment", nestedResult) := rfl
  obtain ⟨prompt, hprompt, hinfix⟩ :=
    h nestedVerdict .enrichment ("full_enrichment", nestedResult) hgiven
  obtain ⟨prompt', hprompt', htext⟩ := PromptCall.build_around hgiven
  have hsame : prompt = prompt' := Except.ok.inj (hprompt.symm.trans hprompt')
  have hafter : (around nestedVerdict.values nestedVerdict.template
      "full_enrichment").2 = [] := by
    simp [around, PromptCall.template, nestedVerdict, verdictSystemPrompt]
  have hvalue := (PromptCall.field_of_given hgiven).2 (by simp [nestedResult])
  have hbefore : '\x7b' ∉ (around nestedVerdict.values nestedVerdict.template
      "full_enrichment").1 := by
    intro hmem
    simp only [around, List.mem_flatMap] at hmem
    obtain ⟨piece, hpiece, hc⟩ := hmem
    have hne : piece ≠ .field "full_enrichment" := by
      simpa using List.all_eq_true.mp List.all_takeWhile piece hpiece
    exact nestedVerdict_braceless piece
      (List.takeWhile_subset _ hpiece) hne hc
  rw [hsame, htext, hafter, List.append_nil, hvalue] at hinfix
  have hown : nestedResult.toList <:+: doubled brace nestedResult.toList :=
    infix_of_infix_append hbefore hinfix
  exact absurd hown (by decide +kernel)

end AlertTriage
