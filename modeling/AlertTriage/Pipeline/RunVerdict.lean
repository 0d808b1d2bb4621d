import AlertTriage.Pipeline.RunTriage

/-!
# The verdict of a run

A run that returns a verdict has visited `generate_verdict_node`, and that one
visit decides the verdict: the cancelled one, a model's, or the fallback
(`verdict_of_run`). Which of them depends on the cancelled marker, and the
marker is there when the thread had it or a node of the run saw the cancel flag
(`marked_drive`).
-/

namespace AlertTriage

open Library

variable (deps : PipelineDeps) {alert : NormalizedAlert}

/-! ## §1  The cancelled marker -/

def Effect.isFlagSeen : Effect → Bool
  | .flagRead set => set
  | _ => false

/-- The node read the cancel flag as set. -/
def sawFlag (v : NodeVisit) : Bool := v.effects.any Effect.isFlagSeen

/-- The state has the cancelled marker. -/
def Marked (s : TriageState) : Prop := s.cancelled = some true

instance (s : TriageState) : Decidable (Marked s) :=
  inferInstanceAs (Decidable (_ = _))

theorem askModels_noFlag {α : Type} (ollama openai : ModelReply α) :
    (askModels deps ollama openai).1.any Effect.isFlagSeen = false := by
  unfold askModels
  cases deps.hasOllama <;> cases deps.hasOpenai <;> cases ollama <;> rfl

theorem extractEntities_noFlag (a : NodeAnswers) (alert : NormalizedAlert) :
    (extractEntities deps a alert).1.any Effect.isFlagSeen = false := by
  unfold extractEntities extractEntitiesLlm
  cases deps.hasOllama
  · rfl
  · cases deps.hasOpenai <;> cases a.extractOllama <;> rfl

theorem toolCalls_noFlag {α : Type} (f : α → String × Params) (xs : List α) :
    (xs.map fun x => Effect.toolCall (f x).1 (f x).2).any
      Effect.isFlagSeen = false := by
  induction xs with
  | nil => rfl
  | cons x xs ih =>
      rw [List.map_cons, List.any_cons, ih]
      rfl

/-- A node leaves the marker when it found it or saw the flag. -/
theorem marked_step {n : Node} {s : TriageState} (a : NodeAnswers)
    (h : Sound alert (.ready n s)) :
    Marked ((triageGraph deps).step (.ready n s) a).state ↔
      Marked s ∨ sawFlag ((triageGraph deps).visit n s a) = true := by
  rw [StateGraph.state_step]
  unfold StateGraph.visit sawFlag triageGraph Marked
  cases n with
  | normalise => simp [runNode, normaliseAlertNode]
  | extractEntities =>
      have hseen : (extractEntitiesNode deps a s).1.any Effect.isFlagSeen =
          false := extractEntities_noFlag deps a s.alert
      rcases extractEntitiesNode_cases deps a s with hn | ⟨entities, hn⟩
      · simp [runNode, hn, hseen]
      · simp [runNode, hn, hseen]
  | routeTools => simp [runNode, routeToolsNode]
  | burstEnrichment =>
      obtain ⟨compressed, hn⟩ := burstEnrichmentNode_spec deps a s
      have hseen := toolCalls_noFlag id (s.burstCalls deps)
      simp only [id] at hseen
      simp only [runNode, hn, hseen, afterBurst, Option.getD_some]
      simp
  | agentThink =>
      rcases agentThinkNode_cases h.1.validSeverity deps a with
        ⟨-, hn⟩ | ⟨-, hn⟩
      · simp [runNode, hn, Effect.isFlagSeen]
      · have hkeep : (afterThink a s
            (askModels deps a.thinkOllama a.thinkOpenai).2).cancelled =
            s.cancelled := by
          cases (askModels deps a.thinkOllama a.thinkOpenai).2 <;> rfl
        simp [runNode, hn, List.any_cons, askModels_noFlag, hkeep,
          Effect.isFlagSeen]
  | executeTool =>
      -- the flag is read once before the batch, not within it
      rcases executeToolNode_cases deps a s with
        ⟨-, hn⟩ | ⟨-, -, hn⟩ | ⟨-, -, data, records, hn⟩
      · simp [runNode, hn, Effect.isFlagSeen]
      · simp [runNode, hn, Effect.isFlagSeen]
      · have hseen := toolCalls_noFlag
          (fun call : ToolCall => (call.name, call.args)) (lastToolCalls s)
        simp only at hseen
        simp only [runNode, hn, List.any_cons, hseen, afterBatch,
          Option.getD_some]
        simp [Effect.isFlagSeen]
  | generateVerdict =>
      rcases generateVerdictNode_cases deps a s with
        ⟨-, hn⟩ | ⟨-, verdict, -, hn⟩ | ⟨-, -, hn⟩
      · simp [runNode, hn]
      · simp [runNode, hn, askModels_noFlag]
      · simp [runNode, hn, askModels_noFlag, fallbackVerdict,
          h.1.validSeverity]

/-- **The marker of a run.** It is there at the end when it was at the start,
or some node saw the flag. -/
theorem marked_drive {p : Position Node TriageState} (h : Sound alert p)
    (answers : List NodeAnswers) :
    Marked ((triageGraph deps).drive p answers).state ↔
      Marked p.state ∨
        ((triageGraph deps).visits p answers).any sawFlag = true := by
  induction answers generalizing p with
  | nil => simp
  | cons a answers ih =>
      cases p with
      | ready n s =>
          rw [StateGraph.drive_cons, ih (sound_step deps a h),
            marked_step deps a h, StateGraph.visits_ready, List.any_cons,
            Bool.or_eq_true, or_assoc]
          rfl
      | ended s => simp
      | raised n s => simp

/-- The thread holds the marker. -/
def ThreadMarked (thread : TriageThread) : Prop :=
  ∃ checkpoint ∈ thread, Marked checkpoint.position.state

theorem marked_start (alert : NormalizedAlert) (thread : TriageThread)
    (call : TriageCall) :
    Marked (call.start deps alert thread).2.state ↔
      ThreadMarked (call.visible thread) := by
  unfold TriageCall.start StateGraph.restart ThreadMarked
  cases call.visible thread with
  | none => simp [Marked, writeInput, initialState, Position.state]
  | some c => simp [Marked, writeInput, Position.state]

/-! ## §2  The visit that decides the verdict -/

/-- What the models answer for the verdict. -/
def askedVerdict (a : NodeAnswers) : Option TriageVerdict :=
  (askModels deps a.verdictOllama a.verdictOpenai).2

/-- The verdict that `generate_verdict_node` gives in a state. -/
def nodeVerdict (a : NodeAnswers) (s : TriageState) : Option TriageVerdict :=
  if Marked s then some (cancelledVerdict s)
  else
    match askedVerdict deps a with
    | some verdict => some (stampVerdict deps s verdict)
    | none => fallbackVerdict deps s s.alert "All LLM providers unavailable"

theorem generateVerdictNode_verdict (a : NodeAnswers) (s : TriageState) :
    (generateVerdictNode deps a s).2 = (nodeVerdict deps a s).map
      fun verdict => { s with verdict := some verdict, phase := .done } := by
  unfold nodeVerdict askedVerdict
  rcases generateVerdictNode_cases deps a s with
    ⟨hm, hn⟩ | ⟨hm, verdict, hv, hn⟩ | ⟨hm, hv, hn⟩
  · rw [hn, if_pos (show Marked s from hm)]
    rfl
  · rw [hn, if_neg (show ¬ Marked s from hm), hv]
    rfl
  · rw [hn, if_neg (show ¬ Marked s from hm), hv]

/-- Only `generate_verdict_node` ends a run. -/
theorem nextNode_eq_none {n : Node} {s : TriageState}
    (h : nextNode n s = none) : n = .generateVerdict := by
  cases n <;> first | rfl | exact absurd h (by simp [nextNode])

/-- **The verdict of a run** is the one that its visit of
`generate_verdict_node` gives. -/
theorem verdict_of_run {thread : TriageThread} {call : TriageCall}
    {verdict : TriageVerdict}
    (h : runTriage deps alert thread call = .verdict verdict) :
    ∃ s a, (triageGraph deps).visit .generateVerdict s a ∈
        call.trace deps alert thread ∧
      nodeVerdict deps a s = some verdict ∧
      call.finish deps alert thread =
        .ended { s with verdict := some verdict, phase := .done } := by
  unfold runTriage at h
  have hs := sound_finish deps alert thread call
  cases hp : call.finish deps alert thread with
  | ready n s => simp [hp, triageOutcome] at h
  | raised n s => simp [hp, triageOutcome] at h
  | ended s' =>
      rw [hp] at h hs
      obtain ⟨found, hfound⟩ := Option.isSome_iff_exists.mp hs.2.2
      obtain rfl : found = verdict := by simpa [triageOutcome, hfound] using h
      obtain ⟨n, s, a, hv, hexec, hroute⟩ :=
        StateGraph.exists_last_visit (G := triageGraph deps) hp
      obtain rfl := nextNode_eq_none hroute
      have hnode : (generateVerdictNode deps a s).2 = some s' := hexec
      rw [generateVerdictNode_verdict] at hnode
      obtain ⟨given, hgiven, rfl⟩ := Option.map_eq_some_iff.mp hnode
      obtain rfl : given = found := Option.some.inj hfound
      exact ⟨s, a, hv, hgiven, rfl⟩

/-- The node ends the run. -/
theorem verdict_visit_ends {p : Position Node TriageState}
    (hp : Sound alert p) {answers : List NodeAnswers} {v : NodeVisit}
    (hv : v ∈ (triageGraph deps).visits p answers)
    (hn : v.node = .generateVerdict) :
    ∃ s', v.after = some s' ∧
      (triageGraph deps).drive p answers = .ended s' := by
  induction answers generalizing p with
  | nil => simp at hv
  | cons a answers ih =>
      cases p with
      | ready n s =>
          rw [StateGraph.visits_ready] at hv
          rcases List.mem_cons.mp hv with rfl | hv
          · obtain rfl : n = .generateVerdict := hn
            have hstep := sound_step deps a hp
            rw [StateGraph.drive_cons]
            cases hx : ((triageGraph deps).exec .generateVerdict a s).2 with
            | none =>
                simp only [StateGraph.step, StateGraph.leave, hx] at hstep
                exact absurd hstep (by simp [Sound])
            | some s' =>
                refine ⟨s', hx, ?_⟩
                simp only [StateGraph.step, StateGraph.leave, hx]
                exact StateGraph.drive_ended s' answers
          · exact ih (sound_step deps a hp) hv
      | ended s => simp at hv
      | raised n s => simp at hv

/-- Where a run visits the node, it returns the verdict that the node gives,
and the node found the marker when the thread had it or the run saw the flag. -/
theorem run_of_verdict_visit {thread : TriageThread} {call : TriageCall}
    {v : NodeVisit} (hv : v ∈ call.trace deps alert thread)
    (hn : v.node = .generateVerdict) :
    OfAlert alert v.before ∧
      (∃ verdict, runTriage deps alert thread call = .verdict verdict ∧
        nodeVerdict deps v.answers v.before = some verdict) ∧
      (Marked v.before ↔ Marked (call.start deps alert thread).2.state ∨
        (call.trace deps alert thread).any sawFlag = true) := by
  have hsound : Sound alert (.ready v.node v.before) := by
    refine StateGraph.visits_invariant (G := triageGraph deps)
      (Q := fun v => Sound alert (.ready v.node v.before))
      (fun n s a hp => sound_step deps a hp) (fun n s a hp => hp)
      (sound_start deps alert thread call) call.answers v hv
  obtain ⟨s', hafter, hend⟩ :=
    verdict_visit_ends deps (sound_start deps alert thread call) hv hn
  have hfinish : call.finish deps alert thread = .ended s' := hend
  have hvisit := StateGraph.eq_visit_of_mem_visits hv
  rw [hvisit, hn] at hafter
  have hnode : (generateVerdictNode deps v.answers v.before).2 = some s' :=
    hafter
  rw [generateVerdictNode_verdict] at hnode
  obtain ⟨verdict, hgiven, rfl⟩ := Option.map_eq_some_iff.mp hnode
  refine ⟨hsound.1, ⟨verdict, ?_, hgiven⟩, ?_⟩
  · rw [runTriage, hfinish]
    rfl
  · have hmark := marked_drive deps (sound_start deps alert thread call)
      call.answers
    rw [hend] at hmark
    exact hmark

/-! ## §3  What each verdict says -/

/-- The verdict is that of a cancelled run, a model's or the fallback. -/
theorem nodeVerdict_cases {s : TriageState} {a : NodeAnswers} {verdict : TriageVerdict}
    (h : nodeVerdict deps a s = some verdict) :
    Marked s ∧ verdict = cancelledVerdict s ∨
      ¬ Marked s ∧ (∃ reply, askedVerdict deps a = some reply ∧
          verdict = stampVerdict deps s reply) ∨
      ¬ Marked s ∧ askedVerdict deps a = none ∧
        fallbackVerdict deps s s.alert "All LLM providers unavailable" = some verdict := by
  unfold nodeVerdict at h
  split at h
  · rename_i hm
    exact .inl ⟨hm, (Option.some.inj h).symm⟩
  · rename_i hm
    cases hasked : askedVerdict deps a with
    | some reply =>
        rw [hasked] at h
        exact .inr (.inl ⟨hm, reply, rfl, (Option.some.inj h).symm⟩)
    | none =>
        rw [hasked] at h
        exact .inr (.inr ⟨hm, rfl, h⟩)

/-- A field that the fallback leaves empty: the cancelled verdict's with the marker, else
the one that the model gave, if one answered. -/
theorem field_of_nodeVerdict {α : Type} {field : TriageVerdict → Option α}
    {s : TriageState} {a : NodeAnswers} {verdict : TriageVerdict}
    (hstamp : ∀ reply, field (stampVerdict deps s reply) = field reply)
    (hfallback : ∀ fallback, fallbackVerdict deps s s.alert "All LLM providers unavailable" =
      some fallback → field fallback = none)
    (h : nodeVerdict deps a s = some verdict) :
    field verdict =
      if Marked s then field (cancelledVerdict s)
      else (askedVerdict deps a).bind field := by
  rcases nodeVerdict_cases deps h with
    ⟨hm, rfl⟩ | ⟨hm, reply, hasked, rfl⟩ | ⟨hm, hasked, hlast⟩
  · rw [if_pos hm]
  · rw [if_neg hm, hasked, hstamp]
    rfl
  · rw [if_neg hm, hasked]
    exact hfallback verdict hlast

/-- The status: cancelled with the marker, else the one that the model gave, if
one answered. -/
theorem status_of_nodeVerdict {s : TriageState} {a : NodeAnswers}
    {verdict : TriageVerdict} (h : nodeVerdict deps a s = some verdict) :
    verdict.status =
      if Marked s then some "cancelled"
      else (askedVerdict deps a).bind TriageVerdict.status := by
  refine field_of_nodeVerdict deps (fun _ => rfl) ?_ h
  intro fallback hfallback
  obtain ⟨severity, -, rfl⟩ := Option.map_eq_some_iff.mp hfallback
  rfl

/-- The tenant: the alert's with the marker, else the one that the model named,
if one answered. -/
theorem tenant_of_nodeVerdict {s : TriageState} {a : NodeAnswers}
    {verdict : TriageVerdict} (h : nodeVerdict deps a s = some verdict) :
    verdict.tenantId =
      if Marked s then s.alert.tenantId
      else (askedVerdict deps a).bind TriageVerdict.tenantId := by
  refine field_of_nodeVerdict deps (fun _ => rfl) ?_ h
  intro fallback hfallback
  obtain ⟨severity, -, rfl⟩ := Option.map_eq_some_iff.mp hfallback
  rfl

end AlertTriage
