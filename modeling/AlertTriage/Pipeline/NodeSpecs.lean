import AlertTriage.Pipeline.TriageGraph

/-!
# What the nodes do

One lemma for each node that says how it can end, and from these the invariant
of every run of the graph (`Sound`): the run keeps its alert and the severity
of it, the budget is never negative, a requested batch is not empty and fits
the budget, and no node but the extraction can raise.
-/

namespace AlertTriage

open Library

variable {deps : PipelineDeps} {a : NodeAnswers} {s s' : TriageState}

/-! ## §1  Executed tools -/

theorem length_executeAll (summarise : String → Params → Option String)
    (answers : ℕ → ToolAnswer) (calls : List (String × Params)) :
    (executeAll summarise answers calls).length = calls.length := by
  simp [executeAll]

/-- A result that some execution gave can be compressed under its tool. -/
theorem compress_of_mem_executeAll
    {summarise : String → Params → Option String} {answers : ℕ → ToolAnswer}
    {calls : List (String × Params)} {raw : Json} {record : ToolCallRecord}
    (h : some (raw, record) ∈ executeAll summarise answers calls) :
    ∃ text, compressToolResult summarise record.toolName raw = some text := by
  obtain ⟨⟨call, i⟩, -, hx⟩ := List.mem_map.mp h
  rw [toolName_of_executed hx]
  exact compress_of_executed hx

/-- Every call of a batch stands with the result of its own execution. -/
theorem executeCalls_eq (deps : PipelineDeps) (a : NodeAnswers)
    (calls : List ToolCall) :
    executeCalls deps a calls = calls.zipIdx.map fun p =>
      (p.1, executeSingleTool deps.summarise p.1.name p.1.args
        (a.tools p.2)) := by
  have hfrom : ∀ (calls : List ToolCall) (k : ℕ),
      calls.zip (((calls.map fun call => (call.name, call.args)).zipIdx k).map
          fun p => executeSingleTool deps.summarise p.1.1 p.1.2 (a.tools p.2)) =
        (calls.zipIdx k).map fun p =>
          (p.1, executeSingleTool deps.summarise p.1.name p.1.args
            (a.tools p.2)) := by
    intro calls
    induction calls with
    | nil => exact fun _ => rfl
    | cons call calls ih =>
        intro k
        simp only [List.map_cons, List.zipIdx_cons, List.zip_cons_cons]
        rw [ih (k + 1)]
  exact hfrom calls 0

theorem executeCalls_fst (deps : PipelineDeps) (a : NodeAnswers)
    (calls : List ToolCall) :
    (executeCalls deps a calls).map Prod.fst = calls := by
  rw [executeCalls_eq, List.map_map]
  exact List.zipIdx_map_fst 0 calls

/-! ## §2  The loop over the results -/

/-- The result, if there is one, can be compressed under the call's tool. -/
def Compresses (summarise : String → Params → Option String)
    (r : ToolCall × Option (Json × ToolCallRecord)) : Prop :=
  ∀ raw record, r.2 = some (raw, record) →
    ∃ text, compressToolResult summarise r.1.name raw = some text

theorem compresses_executeCalls (deps : PipelineDeps) (a : NodeAnswers)
    (calls : List ToolCall) :
    ∀ r ∈ executeCalls deps a calls, Compresses deps.summarise r := by
  intro r hr raw record h
  rw [executeCalls_eq] at hr
  obtain ⟨⟨call, i⟩, -, rfl⟩ := List.mem_map.mp hr
  exact compress_of_executed h

/-- Observing a result answers the call; it never raises. -/
theorem observeCall_spec {summarise : String → Params → Option String}
    {call : ToolCall} {result : Option (Json × ToolCallRecord)}
    (h : Compresses summarise (call, result)) (s : TriageState) :
    ∃ data records, observeCall summarise s call result = some { s with
      messages := s.messages ++ [.tool call.id call.name]
      toolsCalled := s.toolsCalled ++ [call.name]
      enrichmentData := data
      toolRecords := records } := by
  cases result with
  | none => exact ⟨s.enrichmentData, s.toolRecords, rfl⟩
  | some r =>
      obtain ⟨raw, record⟩ := r
      obtain ⟨text, ht⟩ := h raw record rfl
      refine ⟨Json.upsert call.name text s.enrichmentData,
        s.toolRecords ++ [record], ?_⟩
      simp only at ht
      simp [observeCall, ht]

/-- Observing a batch answers its calls in order. -/
theorem observeCalls_spec {summarise : String → Params → Option String}
    {rs : List (ToolCall × Option (Json × ToolCallRecord))}
    (h : ∀ r ∈ rs, Compresses summarise r) (s : TriageState) :
    ∃ data records, observeCalls summarise s rs = some { s with
      messages := s.messages ++ rs.map fun r => .tool r.1.id r.1.name
      toolsCalled := s.toolsCalled ++ rs.map fun r => r.1.name
      enrichmentData := data
      toolRecords := records } := by
  induction rs generalizing s with
  | nil => exact ⟨s.enrichmentData, s.toolRecords, by simp [observeCalls]⟩
  | cons r rs ih =>
      obtain ⟨call, result⟩ := r
      obtain ⟨data, records, hone⟩ :=
        observeCall_spec (h (call, result) List.mem_cons_self) s
      obtain ⟨data', records', hrest⟩ :=
        ih (fun r hr => h r (List.mem_cons_of_mem _ hr)) { s with
          messages := s.messages ++ [.tool call.id call.name]
          toolsCalled := s.toolsCalled ++ [call.name]
          enrichmentData := data
          toolRecords := records }
      refine ⟨data', records', ?_⟩
      simp only [observeCalls, hone, hrest, List.map_cons, List.append_assoc,
        List.cons_append, List.nil_append]

/-! ## §3  How each node ends -/

/-- The state that `execute_tool_node` leaves after a batch. -/
def afterBatch (s : TriageState) (data : List (String × String))
    (records : List ToolCallRecord) : TriageState :=
  { s with
    messages := s.messages ++
      (lastToolCalls s).map fun call => .tool call.id call.name
    toolsCalled := s.toolsCalled ++ (lastToolCalls s).map ToolCall.name
    enrichmentData := data
    toolRecords := records
    toolBudget := s.toolBudget - (lastToolCalls s).length }

/-- **`execute_tool_node`** sees the cancel flag and executes nothing, has no
batch and executes nothing, or executes its whole batch. -/
theorem executeToolNode_cases (deps : PipelineDeps) (a : NodeAnswers)
    (s : TriageState) :
    (a.flagSet = true ∧ executeToolNode deps a s = ([.flagRead true],
        some { s with cancelled := some true, toolBudget := 0 })) ∨
      (a.flagSet = false ∧ lastToolCalls s = [] ∧
        executeToolNode deps a s = ([.flagRead false],
          some { s with toolBudget := 0 })) ∨
      (a.flagSet = false ∧ lastToolCalls s ≠ [] ∧ ∃ data records,
        executeToolNode deps a s =
          (.flagRead false :: (lastToolCalls s).map fun call =>
              .toolCall call.name call.args,
            some (afterBatch s data records))) := by
  unfold executeToolNode
  cases hflag : a.flagSet with
  | true => exact .inl ⟨rfl, rfl⟩
  | false =>
      refine .inr ?_
      obtain ⟨data, records, h⟩ :=
        observeCalls_spec (compresses_executeCalls deps a (lastToolCalls s)) s
      -- results come in the order of the calls, under their names and ids
      have hnames : (executeCalls deps a (lastToolCalls s)).map
          (fun r => r.1.name) = (lastToolCalls s).map ToolCall.name := by
        conv_rhs => rw [← executeCalls_fst deps a (lastToolCalls s)]
        rw [List.map_map]
        rfl
      have hmessages : (executeCalls deps a (lastToolCalls s)).map
          (fun r => Message.tool r.1.id r.1.name) =
            (lastToolCalls s).map fun call => .tool call.id call.name := by
        conv_rhs => rw [← executeCalls_fst deps a (lastToolCalls s)]
        rw [List.map_map]
        rfl
      rw [hnames, hmessages] at h
      cases hcalls : lastToolCalls s with
      | nil => exact .inl ⟨rfl, rfl, rfl⟩
      | cons call calls =>
          refine .inr ⟨rfl, by simp, data, records, ?_⟩
          rw [hcalls] at h
          simp [h, afterBatch, hcalls]

/-- **`agent_think_node`**, in a run whose severity is one. -/
theorem agentThinkNode_cases {severity : Severity}
    (h : Severity.ofValue? s.severity = some severity) (deps : PipelineDeps)
    (a : NodeAnswers) :
    (a.flagSet = true ∧ agentThinkNode deps a s = ([.flagRead true],
        some { s with
          cancelled := some true
          tocontinue := some false
          toolBudget := 0 })) ∨
      (a.flagSet = false ∧ agentThinkNode deps a s =
        (.flagRead false :: (askModels deps a.thinkOllama a.thinkOpenai).1,
          some (afterThink a s
            (askModels deps a.thinkOllama a.thinkOpenai).2))) := by
  unfold agentThinkNode
  cases a.flagSet with
  | true => exact .inl ⟨rfl, rfl⟩
  | false => exact .inr ⟨rfl, by simp [h]⟩

/-- Every enrichment entry is some execution's result, under its tool. -/
theorem mem_collectBurst {results : List (Option (Json × ToolCallRecord))}
    {name : String} {raw : Json} (h : (name, raw) ∈ (collectBurst results).1) :
    ∃ record : ToolCallRecord,
      record.toolName = name ∧ some (raw, record) ∈ results := by
  have hfold : ∀ (answered : List (Json × ToolCallRecord))
      (data : List (String × Json)),
      (name, raw) ∈ answered.foldl
        (fun data r => Json.upsert r.2.toolName r.1 data) data →
      (name, raw) ∈ data ∨
        ∃ record : ToolCallRecord,
          record.toolName = name ∧ (raw, record) ∈ answered := by
    intro answered
    induction answered with
    | nil => exact fun data h => .inl h
    | cons r answered ih =>
        intro data h
        rcases ih _ h with h | ⟨record, hname, hmem⟩
        · rcases Json.mem_upsert h with h | h
          · obtain ⟨rfl, rfl⟩ := Prod.mk.inj h
            exact .inr ⟨r.2, rfl, List.mem_cons_self⟩
          · exact .inl h
        · exact .inr ⟨record, hname, List.mem_cons_of_mem _ hmem⟩
  rcases hfold _ _ h with h | ⟨record, hname, hmem⟩
  · simp at h
  · obtain ⟨r, hr, hid⟩ := List.mem_filterMap.mp hmem
    obtain rfl : r = some (raw, record) := hid
    exact ⟨record, hname, hr⟩

theorem compressAll_some {summarise : String → Params → Option String}
    {data : List (String × Json)}
    (h : ∀ p ∈ data, ∃ text, compressToolResult summarise p.1 p.2 = some text) :
    ∃ compressed, compressAll summarise data = some compressed := by
  induction data with
  | nil => exact ⟨[], rfl⟩
  | cons p data ih =>
      obtain ⟨text, ht⟩ := h p List.mem_cons_self
      obtain ⟨rest, hrest⟩ := ih fun q hq => h q (List.mem_cons_of_mem _ hq)
      refine ⟨(p.1, text) :: rest, ?_⟩
      unfold compressAll at hrest ⊢
      rw [List.mapM_cons, hrest]
      simp [ht]

/-- The executions that the burst starts in a state. -/
def TriageState.burstCalls (deps : PipelineDeps) (s : TriageState) :
    List (String × Params) :=
  AlertTriage.burstCalls deps.isDecimalUnicode s.alert s.entities
    s.techniqueIds

/-- The records that its executions leave. -/
def burstRecords (deps : PipelineDeps) (a : NodeAnswers) (s : TriageState) :
    List ToolCallRecord :=
  (collectBurst (executeAll deps.summarise a.tools (s.burstCalls deps))).2

/-- The state that `burst_enrichment_node` leaves. -/
def afterBurst (deps : PipelineDeps) (a : NodeAnswers) (s : TriageState)
    (compressed : List (String × String)) : TriageState :=
  { s with
    enrichmentData := compressed
    toolRecords := s.toolRecords ++ burstRecords deps a s
    toolsCalled :=
      s.toolsCalled ++ (burstRecords deps a s).map ToolCallRecord.toolName
    toolBudget := max 0 (s.toolBudget - (burstRecords deps a s).length)
    messages := [.human]
    phase := .react }

/-- **`burst_enrichment_node`** never raises. -/
theorem burstEnrichmentNode_spec (deps : PipelineDeps) (a : NodeAnswers)
    (s : TriageState) :
    ∃ compressed, burstEnrichmentNode deps a s =
      ((s.burstCalls deps).map fun c => .toolCall c.1 c.2,
        some (afterBurst deps a s compressed)) := by
  have h : ∀ p ∈ (collectBurst (executeAll deps.summarise a.tools
      (s.burstCalls deps))).1,
      ∃ text, compressToolResult deps.summarise p.1 p.2 = some text := by
    intro p hp
    obtain ⟨record, hname, hmem⟩ := mem_collectBurst hp
    rw [← hname]
    exact compress_of_mem_executeAll hmem
  obtain ⟨compressed, hc⟩ := compressAll_some h
  refine ⟨compressed, ?_⟩
  unfold TriageState.burstCalls at hc
  simp [burstEnrichmentNode, hc, afterBurst, burstRecords,
    TriageState.burstCalls]

/-- **`extract_entities_node`** raises, or sets the entities, the techniques
and the phase. -/
theorem extractEntitiesNode_cases (deps : PipelineDeps) (a : NodeAnswers)
    (s : TriageState) :
    (extractEntitiesNode deps a s).2 = none ∨
      ∃ entities, (extractEntitiesNode deps a s).2 = some { s with
        entities := some entities
        techniqueIds := routedTechniques s.alert entities
        phase := .route } := by
  unfold extractEntitiesNode
  cases h : (extractEntities deps a s.alert).2 with
  | none => exact .inl (by simp [h])
  | some entities => exact .inr ⟨entities, by simp [h]⟩

/-- **`generate_verdict_node`** ends with the cancelled verdict and no call, a
model's verdict, stamped, or the fallback. -/
theorem generateVerdictNode_cases (deps : PipelineDeps) (a : NodeAnswers)
    (s : TriageState) :
    (s.cancelled = some true ∧ generateVerdictNode deps a s =
        ([], some { s with
          verdict := some (cancelledVerdict s), phase := .done })) ∨
      (s.cancelled ≠ some true ∧ ∃ verdict,
        (askModels deps a.verdictOllama a.verdictOpenai).2 = some verdict ∧
        generateVerdictNode deps a s =
          ((askModels deps a.verdictOllama a.verdictOpenai).1, some { s with
            verdict := some (stampVerdict deps s verdict), phase := .done })) ∨
      (s.cancelled ≠ some true ∧
        (askModels deps a.verdictOllama a.verdictOpenai).2 = none ∧
        generateVerdictNode deps a s =
          ((askModels deps a.verdictOllama a.verdictOpenai).1,
            (fallbackVerdict deps s s.alert
              "All LLM providers unavailable").map fun verdict =>
              { s with verdict := some verdict, phase := .done })) := by
  unfold generateVerdictNode
  by_cases hc : s.cancelled = some true
  · exact .inl ⟨hc, by simp [hc]⟩
  · refine .inr ?_
    cases h : (askModels deps a.verdictOllama a.verdictOpenai).2 with
    | none => exact .inr ⟨hc, rfl, by simp [hc, h]⟩
    | some verdict => exact .inl ⟨hc, verdict, rfl, by simp [hc, h]⟩

end AlertTriage
