import AlertTriage.AlertCodec
import AlertTriage.Library.Transition
import AlertTriage.Pipeline.Enrichment
import AlertTriage.Pipeline.ToolRouting

/-!
# When the tools of the burst run

`asyncio.gather` makes a task of every execution. The loop starts them one after another,
each until its first suspension, and a suspended task goes on only when all have been
started. Neither `priority_tool` nor `parallel_burst` is looked at, so the burst does what
they ask for in every run just where no routed entry asks for anything
(`constraints_honoured_iff`).
-/

namespace AlertTriage

open Library

/-! ## §1  The tasks of a burst -/

inductive BurstEvent where
  | started (toolName : String)
  | finished (toolName : String)
deriving DecidableEq, Repr

/-- The tasks that wait to be started, those that are suspended, and what has happened,
the last first. -/
structure Gather where
  waiting : List String
  running : List String
  log : List BurstEvent
deriving DecidableEq, Repr

/-- The next task starts, and ends at once unless something suspends it; a suspended one
ends. -/
inductive GatherStep where
  | start (suspends : Bool)
  | finish (toolName : String)
deriving DecidableEq, Repr

def Gather.step (g : Gather) : GatherStep → Option Gather
  | .start suspends =>
      match g.waiting with
      | [] => none
      | tool :: rest =>
          if suspends then some ⟨rest, tool :: g.running, .started tool :: g.log⟩
          else some ⟨rest, g.running, .finished tool :: .started tool :: g.log⟩
  | .finish tool =>
      if g.waiting = [] ∧ tool ∈ g.running then
        some ⟨[], g.running.erase tool, .finished tool :: g.log⟩
      else none

/-- The executions of `run_burst_enrichment`. -/
def gatherSystem (calls : List (String × Params)) : System Gather GatherStep where
  start g := g = ⟨calls.map Prod.fst, [], []⟩
  step := Gather.step

/-- Every other tool starts after this one has finished. -/
def FiresFirstAlone (tool : String) (log : List BurstEvent) : Prop :=
  ∀ after before other, log = after ++ .started other :: before → other ≠ tool →
    .finished tool ∈ before

/-- What the entry asks for has been done so far. -/
def Honours (entry : RoutingEntry) (g : Gather) : Prop :=
  (∀ tool, entry.priorityTool = some tool → FiresFirstAlone tool g.log) ∧
    (entry.parallelBurst = false → ∀ tool ∈ entry.tools, ∀ other ∈ entry.tools,
      tool ∈ g.running → other ∈ g.running → tool = other)

/-- In every run, the burst does what the routed entries ask for. -/
def BurstHonours (isDecimalUnicode : Char → Bool) (alert : NormalizedAlert)
    (entities : ExtractedEntities) (techniqueIds : List String) : Prop :=
  ∀ g, (gatherSystem
      (burstCalls isDecimalUnicode alert (some entities) techniqueIds)).Reachable g →
    ∀ tid ∈ techniqueIds, Honours (getRouting tid) g

/-! ## §2  All at once -/

/-- All tasks can be started before any of them ends. -/
theorem all_started (calls : List (String × Params)) :
    (gatherSystem calls).Reachable
      ⟨[], (calls.map Prod.fst).reverse, ((calls.map Prod.fst).map .started).reverse⟩ := by
  have hstart (tools running : List String) (log : List BurstEvent) :
      (gatherSystem calls).run ⟨tools, running, log⟩
          (List.replicate tools.length (.start true)) =
        some ⟨[], tools.reverse ++ running, (tools.map .started).reverse ++ log⟩ := by
    induction tools generalizing running log with
    | nil => rfl
    | cons tool tools ih =>
        rw [List.length_cons, List.replicate_succ]
        show (gatherSystem calls).run ⟨tools, tool :: running, .started tool :: log⟩ _ = _
        rw [ih]
        simp
  have hrun := System.reached_of_run (.start rfl) (hstart (calls.map Prod.fst) [] [])
  rwa [List.append_nil, List.append_nil] at hrun

/-- A Splunk query is made whenever Splunk is routed. -/
theorem splunk_called (isDecimalUnicode : Char → Bool) (alert : NormalizedAlert)
    (entities : ExtractedEntities) {techniqueIds : List String}
    (h : "query_splunk" ∈ getToolsForTechniques techniqueIds) :
    "query_splunk" ∈
      (burstCalls isDecimalUnicode alert (some entities) techniqueIds).map Prod.fst := by
  have hbuilds : ∃ params, buildSplunkParams alert entities (techniqueIds.headD "T1082") =
      some params := by
    unfold buildSplunkParams
    dsimp only
    split
    · exact ⟨_, rfl⟩
    split
    · exact ⟨_, rfl⟩
    split
    · exact ⟨_, rfl⟩
    split <;> exact ⟨_, rfl⟩
  obtain ⟨params, hparams⟩ := hbuilds
  apply List.mem_map.mpr
  refine ⟨("query_splunk", params), ?_, rfl⟩
  apply List.mem_filterMap.mpr
  refine ⟨"query_splunk", h, ?_⟩
  show (buildSplunkParams alert entities (techniqueIds.headD "T1082")).map _ = _
  rw [hparams]
  rfl

/-- An entry with a priority tool also has Splunk, and one that forbids to run its tools
side by side has a priority tool. -/
theorem routed_constraints (techniqueId : String) :
    ((getRouting techniqueId).parallelBurst = false →
        (getRouting techniqueId).priorityTool ≠ none) ∧
      ((getRouting techniqueId).priorityTool = none ∨
        (getRouting techniqueId).priorityTool = some "query_crowdstrike" ∧
          "query_splunk" ∈ (getRouting techniqueId).tools) := by
  apply routed_of_table (P := fun entry =>
    (entry.parallelBurst = false → entry.priorityTool ≠ none) ∧
      (entry.priorityTool = none ∨
        entry.priorityTool = some "query_crowdstrike" ∧ "query_splunk" ∈ entry.tools))
  · decide
  · decide

/-- **Where the constraints are honoured**: in every run of the burst every priority tool
finishes before any other tool starts and no two tools of an entry without
`parallel_burst` run at the same time, exactly if no routed entry has a priority tool. -/
theorem constraints_honoured_iff (isDecimalUnicode : Char → Bool) (alert : NormalizedAlert)
    (entities : ExtractedEntities) (techniqueIds : List String) :
    BurstHonours isDecimalUnicode alert entities techniqueIds ↔
      ∀ tid ∈ techniqueIds, (getRouting tid).priorityTool = none := by
  constructor
  · intro h tid htid
    obtain ⟨-, hnone | ⟨hfirst, hsplunk⟩⟩ := routed_constraints tid
    · exact hnone
    have hcalled := splunk_called isDecimalUnicode alert entities
      (mem_getToolsForTechniques.mpr ⟨tid, htid, .inr hsplunk⟩)
    have hhonours := (h _ (all_started _) tid htid).1 _ hfirst
    have hlogged := List.mem_reverse.mpr (List.mem_map_of_mem (f := BurstEvent.started) hcalled)
    obtain ⟨after, before, hlog⟩ := List.append_of_mem hlogged
    have hfinished := hhonours after before "query_splunk" hlog (by decide)
    have hmem : BurstEvent.finished "query_crowdstrike" ∈
        after ++ .started "query_splunk" :: before :=
      List.mem_append_right _ (List.mem_cons_of_mem _ hfinished)
    rw [← hlog, List.mem_reverse] at hmem
    obtain ⟨tool, -, hno⟩ := List.mem_map.mp hmem
    cases hno
  · intro hnone g _ tid htid
    constructor
    · intro tool htool
      rw [hnone tid htid] at htool
      cases htool
    · intro hserial
      exact absurd (hnone tid htid) ((routed_constraints tid).1 hserial)

/-- Ransomware on a host without further entities: CrowdStrike, Splunk and the backup
system are asked at the same time. -/
theorem priority_not_alone :
    ¬ ∀ (isDecimalUnicode : Char → Bool) (alert : NormalizedAlert)
      (entities : ExtractedEntities) (techniqueIds : List String),
      BurstHonours isDecimalUnicode alert entities techniqueIds := by
  intro hall
  have hhonours := hall (fun _ => false) sampleAlert ⟨[⟨"db-01"⟩], [], [], [], []⟩ ["T1486"]
    _ (all_started _) "T1486" (by simp)
  have hserial := hhonours.2 (by decide +kernel) "query_crowdstrike" (by decide +kernel)
    "query_splunk" (by decide +kernel) (by decide +kernel) (by decide +kernel)
  exact absurd hserial (by decide)

end AlertTriage
