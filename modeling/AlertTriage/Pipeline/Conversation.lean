import AlertTriage.Pipeline.Cancellation
import AlertTriage.Pipeline.GuardedTools

/-!
# The conversation with the model

The messages that `agent_think_node` hands to a model are the summary of the burst and then, for
every earlier turn, what the model said and one result for each tool it called, in the order of
the calls (`Conversation`). A turn that ends otherwise, because the cancel flag was seen, the
budget was spent or no model answered, is the last one (`conversation_wellFormed`).
-/

namespace AlertTriage

open Library

/-! ## §1  Conversations -/

/-- One human message, then the turns: a message of the model, and a result for each of its
calls. -/
inductive Conversation : List Message → Prop where
  | start : Conversation [.human]
  | turn {history : List Message} (calls : List ToolCall) : Conversation history →
      Conversation (history ++ .ai calls :: calls.map fun call => .tool call.id call.name)

def Message.callIds : Message → List String
  | .ai calls => calls.map ToolCall.id
  | _ => []

def Message.answeredId : Message → Option String
  | .tool id _ => some id
  | _ => none

/-- The ids of all calls, in order. -/
def callIds (messages : List Message) : List String := messages.flatMap Message.callIds

/-- The ids of all results, in order. -/
def answeredIds (messages : List Message) : List String := messages.filterMap Message.answeredId

/-- The node hands its messages to a model. -/
def AsksModel (v : NodeVisit) : Prop :=
  v.node = .agentThink ∧ callsModel v = true

instance (v : NodeVisit) : Decidable (AsksModel v) := inferInstanceAs (Decidable (_ ∧ _))

/-- No id is drawn twice, by one node or by two. -/
def DistinctIds (answers : List NodeAnswers) : Prop :=
  (∀ a ∈ answers, Function.Injective a.callIds) ∧
    answers.Pairwise fun a b => ∀ i j, a.callIds i ≠ b.callIds j

theorem callIds_results (calls : List ToolCall) :
    callIds (calls.map fun call => .tool call.id call.name) = [] := by
  unfold callIds
  rw [List.flatMap_map]
  exact List.flatMap_eq_nil_iff.mpr fun _ _ => rfl

theorem answeredIds_results (calls : List ToolCall) :
    answeredIds (calls.map fun call => .tool call.id call.name) = calls.map ToolCall.id := by
  unfold answeredIds
  rw [List.filterMap_map]
  induction calls with
  | nil => rfl
  | cons call calls ih => simp [Message.answeredId, Function.comp_def] at ih ⊢

/-- Every call has its result, and in the same order. -/
theorem Conversation.answered {messages : List Message} (h : Conversation messages) :
    answeredIds messages = callIds messages := by
  induction h with
  | start => rfl
  | turn calls h ih =>
      have hcalls : callIds (.ai calls :: calls.map fun call => .tool call.id call.name) =
          calls.map ToolCall.id := by
        show Message.callIds (.ai calls) ++
          callIds (calls.map fun call => .tool call.id call.name) = _
        rw [callIds_results, List.append_nil]
        rfl
      have hresults : answeredIds (.ai calls :: calls.map fun call =>
          .tool call.id call.name) = calls.map ToolCall.id := answeredIds_results calls
      rw [answeredIds, List.filterMap_append, callIds, List.flatMap_append]
      exact congrArg₂ (· ++ ·) ih (hresults.trans hcalls.symm)

/-- A call whose id no other call has is answered once. -/
theorem Conversation.answered_once {messages : List Message} (h : Conversation messages)
    (hids : (callIds messages).Nodup) {id : String} (hid : id ∈ callIds messages) :
    (answeredIds messages).count id = 1 := by
  rw [h.answered]
  exact List.count_eq_one_of_mem hids hid

/-! ## §2  One step -/

variable {deps : PipelineDeps} {alert : NormalizedAlert} {n : Node} {s : TriageState}
  {a : NodeAnswers}

/-- The messages where a run stands: a conversation, with the calls of the last turn still to be
answered when they are about to be executed. -/
def Conversing : Position Node TriageState → Prop
  | .ready .agentThink s => Conversation s.messages
  | .ready .executeTool s => ∃ history calls,
      Conversation history ∧ s.messages = history ++ [.ai calls]
  | _ => True

theorem conversing_verdict (hn : n = .generateVerdict) : Conversing (.ready n s) := by
  subst hn
  trivial

/-- A spent budget ends the loop. -/
theorem shouldContinue_spent (h : s.toolBudget = 0) :
    shouldContinueReact s = .generateVerdict := by
  rw [shouldContinueReact, if_pos h.le]

theorem afterExecute_spent (h : s.toolBudget = 0) : afterExecuteTool s = .generateVerdict := by
  rw [afterExecuteTool, if_pos h.le]

theorem conversing_step (h : Sound alert (.ready n s)) (hc : Conversing (.ready n s)) :
    Conversing ((triageGraph deps).step (.ready n s) a) := by
  unfold StateGraph.step triageGraph
  cases n with
  | normalise => trivial
  | extractEntities =>
      rcases extractEntitiesNode_cases deps a s with hn | ⟨entities, hn⟩
      · simp only [runNode, hn]
        trivial
      · simp only [runNode, hn]
        trivial
  | routeTools => trivial
  | burstEnrichment =>
      -- the history begins with the prompt of the burst
      obtain ⟨compressed, hn⟩ := burstEnrichmentNode_spec deps a s
      simp only [runNode, hn]
      exact Conversation.start
  | agentThink =>
      rcases agentThinkNode_cases h.1.validSeverity deps a with ⟨-, hn⟩ | ⟨-, hn⟩
      · simp only [runNode, hn]
        exact conversing_verdict (shouldContinue_spent rfl)
      · simp only [runNode, hn]
        cases (askModels deps a.thinkOllama a.thinkOpenai).2 with
        | none => exact conversing_verdict (shouldContinue_spent rfl)
        | some response =>
            show Conversing (.ready (shouldContinueReact (afterThink a s (some response)))
              (afterThink a s (some response)))
            unfold shouldContinueReact
            split
            · trivial
            · split
              · trivial
              · split
                · trivial
                · exact ⟨s.messages, _, hc, rfl⟩
  | executeTool =>
      obtain ⟨history, calls, hhistory, hmessages⟩ := hc
      rcases executeToolNode_cases deps a s with
        ⟨-, hn⟩ | ⟨-, -, hn⟩ | ⟨-, -, data, records, hn⟩
      · simp only [runNode, hn]
        exact conversing_verdict (afterExecute_spent rfl)
      · simp only [runNode, hn]
        exact conversing_verdict (afterExecute_spent rfl)
      · simp only [runNode, hn]
        show Conversing (.ready (afterExecuteTool (afterBatch s data records))
          (afterBatch s data records))
        unfold afterExecuteTool
        split
        · trivial
        · show Conversation (s.messages ++ _)
          -- the results follow the calls that the model's last message holds
          rw [lastToolCalls_append hmessages, hmessages, List.append_assoc]
          exact hhistory.turn calls
  | generateVerdict =>
      rcases generateVerdictNode_cases deps a s with
        ⟨-, hn⟩ | ⟨-, verdict, -, hn⟩ | ⟨-, -, hn⟩
      · simp only [runNode, hn]
        trivial
      · simp only [runNode, hn]
        trivial
      · simp only [runNode, hn, fallbackVerdict, h.1.validSeverity]
        trivial

/-! ## §3  The ids -/

/-- The calls of a turn take their ids one after the other. -/
theorem ids_thinkToolCalls (budget : ℤ) (ids : ℕ → String) (response : AgentThinkResponse) :
    ∃ k, (thinkToolCalls budget ids response).map ToolCall.id = (List.range k).map ids := by
  unfold thinkToolCalls
  split
  · refine ⟨(validPlans budget response).length, ?_⟩
    rw [List.map_map, List.range_eq_range', ← List.zipIdx_map_snd 0, List.map_map]
    rfl
  · exact ⟨0, rfl⟩

/-- A step adds ids that its node has drawn, or starts over. -/
theorem callIds_step (h : Sound alert (.ready n s)) :
    callIds ((triageGraph deps).step (.ready n s) a).state.messages = [] ∨
      ∃ k, callIds ((triageGraph deps).step (.ready n s) a).state.messages =
        callIds s.messages ++ (List.range k).map a.callIds := by
  have hkept {messages : List Message} (hm : messages = s.messages) :
      callIds messages = [] ∨
        ∃ k, callIds messages = callIds s.messages ++ (List.range k).map a.callIds :=
    .inr ⟨0, by rw [hm]; simp⟩
  rw [StateGraph.state_step]
  unfold triageGraph
  cases n with
  | normalise => exact hkept rfl
  | extractEntities =>
      rcases extractEntitiesNode_cases deps a s with hn | ⟨entities, hn⟩
      · simp only [runNode, hn]
        exact hkept rfl
      · simp only [runNode, hn]
        exact hkept rfl
  | routeTools => exact hkept rfl
  | burstEnrichment =>
      -- the conversation starts over
      obtain ⟨compressed, hn⟩ := burstEnrichmentNode_spec deps a s
      simp only [runNode, hn]
      exact .inl rfl
  | agentThink =>
      rcases agentThinkNode_cases h.1.validSeverity deps a with ⟨-, hn⟩ | ⟨-, hn⟩
      · simp only [runNode, hn]
        exact hkept rfl
      · simp only [runNode, hn]
        cases (askModels deps a.thinkOllama a.thinkOpenai).2 with
        | none =>
            refine .inr ⟨0, ?_⟩
            show callIds (s.messages ++ [.ai []]) = _
            simp [callIds, Message.callIds]
        | some response =>
            obtain ⟨k, hk⟩ := ids_thinkToolCalls s.toolBudget a.callIds response
            refine .inr ⟨k, ?_⟩
            show callIds (s.messages ++ [.ai _]) = _
            rw [← hk]
            simp [callIds, Message.callIds]
  | executeTool =>
      rcases executeToolNode_cases deps a s with
        ⟨-, hn⟩ | ⟨-, -, hn⟩ | ⟨-, -, data, records, hn⟩
      · simp only [runNode, hn]
        exact hkept rfl
      · simp only [runNode, hn]
        exact hkept rfl
      · simp only [runNode, hn]
        refine .inr ⟨0, ?_⟩
        show callIds (s.messages ++ _) = _
        rw [callIds, List.flatMap_append]
        exact congrArg (_ ++ ·) (callIds_results _)
  | generateVerdict =>
      rcases generateVerdictNode_cases deps a s with
        ⟨-, hn⟩ | ⟨-, verdict, -, hn⟩ | ⟨-, -, hn⟩
      · simp only [runNode, hn]
        exact hkept rfl
      · simp only [runNode, hn]
        exact hkept rfl
      · simp only [runNode, hn, fallbackVerdict, h.1.validSeverity]
        exact hkept rfl

/-- No id of the messages is drawn again. -/
structure Unrepeated (messages : List Message) (answers : List NodeAnswers) : Prop where
  nodup : (callIds messages).Nodup
  fresh : ∀ id ∈ callIds messages, ∀ a ∈ answers, ∀ i, a.callIds i ≠ id

/-- With distinct draws, the ids of every visit are distinct. -/
theorem visits_nodup {p : Position Node TriageState} (h : Sound alert p)
    {answers : List NodeAnswers} (hdraws : DistinctIds answers)
    (hp : Unrepeated p.state.messages answers) :
    ∀ v ∈ (triageGraph deps).visits p answers, (callIds v.before.messages).Nodup := by
  -- on the answers: ids drawn later are apart from all that the messages hold
  induction answers generalizing p with
  | nil => simp
  | cons a answers ih =>
      cases p with
      | ready n s =>
          intro v hv
          rw [StateGraph.visits_ready] at hv
          rcases List.mem_cons.mp hv with rfl | hv
          · exact hp.nodup
          obtain ⟨hinj, hpairs⟩ := hdraws
          obtain ⟨hapart, hpairs⟩ := List.pairwise_cons.mp hpairs
          refine ih (sound_step deps a h)
            ⟨fun b hb => hinj b (List.mem_cons_of_mem _ hb), hpairs⟩ ?_ v hv
          have hids : callIds ((triageGraph deps).step (.ready n s) a).state.messages = [] ∨
              ∃ k, callIds ((triageGraph deps).step (.ready n s) a).state.messages =
                callIds s.messages ++ (List.range k).map a.callIds := callIds_step h
          rcases hids with hnil | ⟨k, hk⟩
          · exact ⟨by rw [hnil]; exact .nil, by rw [hnil]; simp⟩
          · constructor
            · rw [hk]
              refine List.nodup_append.mpr ⟨hp.nodup, ?_, ?_⟩
              · exact List.nodup_range.map (hinj a List.mem_cons_self)
              · rintro id hid drawn hdrawn rfl
                obtain ⟨i, -, hi⟩ := List.mem_map.mp hdrawn
                exact hp.fresh id hid a List.mem_cons_self i hi
            · rw [hk]
              intro id hid b hb i
              rcases List.mem_append.mp hid with hid | hid
              · exact hp.fresh id hid b (List.mem_cons_of_mem _ hb) i
              · obtain ⟨j, -, rfl⟩ := List.mem_map.mp hid
                exact Ne.symm (hapart b hb j i)
      | ended s => simp
      | raised n s => simp

/-! ## §4  Every run -/

/-- **The history is well formed** at every call of a model in every run, and where no id is
drawn twice every call in it has been answered once. -/
theorem conversation_wellFormed (deps : PipelineDeps) (alert : NormalizedAlert)
    (thread : TriageThread) (call : TriageCall) (v : NodeVisit)
    (hv : v ∈ call.trace deps alert thread) (hask : AsksModel v) :
    Conversation v.before.messages ∧ (DistinctIds call.answers →
      ∀ id ∈ callIds v.before.messages, (answeredIds v.before.messages).count id = 1) := by
  have hstart := sound_start deps alert thread call
  have hconversation : Conversation v.before.messages := by
    refine StateGraph.visits_invariant (G := triageGraph deps)
      (I := fun p => Sound alert p ∧ Conversing p)
      (Q := fun v => v.node = .agentThink → Conversation v.before.messages) ?_ ?_
      ⟨hstart, trivial⟩ call.answers v hv hask.1
    · intro n s a hp
      exact ⟨sound_step deps a hp.1, conversing_step hp.1 hp.2⟩
    · rintro n s a ⟨-, hp⟩ hn
      obtain rfl : n = .agentThink := hn
      exact hp
  have hnone : (call.start deps alert thread).2.state.messages = [] := by
    unfold TriageCall.start StateGraph.restart
    cases call.visible thread with
    | none => rfl
    | some c => rfl
  refine ⟨hconversation, fun hdraws id hid => hconversation.answered_once ?_ hid⟩
  refine visits_nodup hstart hdraws ?_ v hv
  rw [hnone]
  exact ⟨.nil, fun id hid => absurd hid List.not_mem_nil⟩

/-- The node at place `k` of the run draws ids of its own. -/
def numbered (a : NodeAnswers) (k : ℕ) : NodeAnswers :=
  { a with
    callIds := fun i => String.ofList (List.replicate k 'n' ++ '-' :: List.replicate i 'i') }

theorem numbered_callIds_inj {a b : NodeAnswers} {k l i j : ℕ}
    (h : (numbered a k).callIds i = (numbered b l).callIds j) : k = l ∧ i = j := by
  have hlists : List.replicate k 'n' ++ '-' :: List.replicate i 'i' =
      List.replicate l 'n' ++ '-' :: List.replicate j 'i' :=
    String.ofList_injective h
  have hcount (c : Char) := congrArg (List.count c) hlists
  constructor
  · have hn := hcount 'n'
    simpa [List.count_replicate] using hn
  · have hi := hcount 'i'
    simpa [List.count_replicate] using hi

/-- Numbered nodes draw distinct ids. -/
theorem distinctIds_numbered (answers : List NodeAnswers) :
    DistinctIds (answers.mapIdx fun k a => numbered a k) := by
  constructor
  · intro a ha i j hij
    obtain ⟨k, hk, rfl⟩ := List.mem_mapIdx.mp ha
    exact (numbered_callIds_inj hij).2
  · rw [List.pairwise_iff_getElem]
    intro k l hk hl hkl i j hij
    rw [List.getElem_mapIdx, List.getElem_mapIdx] at hij
    exact hkl.ne (numbered_callIds_inj hij).1

/-- The model plans a query, and is asked again after it. -/
def askedAgain : TriageCall :=
  freshCall ((List.replicate 4 silentAnswers ++
    [plansQuery "\x7b\"hours_back\": 24\x7d", silentAnswers, plansQuery ""]).mapIdx
      fun k a => numbered a k)

theorem askedAgain_wellFormed :
    ∃ v ∈ askedAgain.trace plainPipeline sampleAlert none,
      AsksModel v ∧ v.before.messages.length = 3 ∧ Conversation v.before.messages ∧
        ∀ id ∈ callIds v.before.messages, (answeredIds v.before.messages).count id = 1 := by
  have hasked : ((askedAgain.trace plainPipeline sampleAlert none).any fun v =>
      decide (AsksModel v ∧ v.before.messages.length = 3)) = true := by decide +kernel
  obtain ⟨v, hv, hdec⟩ := List.any_eq_true.mp hasked
  obtain ⟨hask, hlength⟩ := of_decide_eq_true hdec
  have h := conversation_wellFormed plainPipeline sampleAlert none askedAgain v hv hask
  exact ⟨v, hv, hask, hlength, h.1, h.2 (distinctIds_numbered _)⟩

end AlertTriage
