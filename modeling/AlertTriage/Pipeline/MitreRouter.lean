import Mathlib.Data.Int.Notation
import Mathlib.Data.List.Nodup
import Mathlib.Tactic.Common

/-!
# `services/mitre_router.py`

The routing table from MITRE technique to tools and time window, the merge of
the routed entries into one list of tools, and the budget of a severity.
-/

namespace AlertTriage

/-! ## §1  Time windows and entries -/

structure TimeWindow where
  hours : ℕ
  label : String
deriving DecidableEq, Repr

def processExecutionWindow : TimeWindow := ⟨72, "72h"⟩
def authLoginWindow : TimeWindow := ⟨336, "14d"⟩
def lateralMovementWindow : TimeWindow := ⟨48, "48h"⟩
def c2BeaconingWindow : TimeWindow := ⟨720, "30d"⟩
def persistenceWindow : TimeWindow := ⟨2160, "90d"⟩
def threatIntelWindow : TimeWindow := ⟨8760, "12mo"⟩
def userBehaviorWindow : TimeWindow := ⟨2160, "90d"⟩

structure RoutingEntry where
  tools : List String
  timeWindow : TimeWindow
  parallelBurst : Bool
  priorityTool : Option String
deriving DecidableEq, Repr

/-- An entry whose tools may all fire at once. -/
def RoutingEntry.parallel (tools : List String) (timeWindow : TimeWindow)
    (priorityTool : Option String) : RoutingEntry :=
  ⟨tools, timeWindow, true, priorityTool⟩

/-! ## §2  The table -/

/-- `TECHNIQUE_TO_TOOLS`. -/
def techniqueToTools : List (String × RoutingEntry) := [
  ("T1003.001", .parallel ["query_crowdstrike", "query_splunk", "lookup_threat_intel"]
    processExecutionWindow (some "query_crowdstrike")),
  ("T1003.002", .parallel ["query_crowdstrike", "query_splunk"]
    processExecutionWindow none),
  ("T1003.003", .parallel ["query_crowdstrike", "query_splunk", "query_cmdb"]
    processExecutionWindow none),
  ("T1110.001", .parallel ["query_splunk", "query_cmdb"]
    authLoginWindow none),
  ("T1110.003", .parallel ["query_splunk", "query_cmdb", "lookup_threat_intel"]
    authLoginWindow none),
  ("T1555", .parallel ["query_crowdstrike", "query_splunk"]
    processExecutionWindow none),
  ("T1071.004", .parallel ["query_netflow", "query_dns_logs", "lookup_threat_intel"]
    c2BeaconingWindow none),
  ("T1071.001", .parallel ["query_netflow", "lookup_threat_intel", "query_splunk"]
    c2BeaconingWindow none),
  ("T1573", .parallel ["query_netflow", "lookup_threat_intel"]
    c2BeaconingWindow none),
  ("T1095", .parallel ["query_netflow", "lookup_threat_intel"]
    c2BeaconingWindow none),
  ("T1021.001", .parallel ["query_netflow", "query_splunk", "query_cmdb"]
    lateralMovementWindow none),
  ("T1021.002", .parallel ["query_netflow", "query_splunk", "query_crowdstrike"]
    lateralMovementWindow none),
  ("T1021.006", .parallel ["query_splunk", "query_crowdstrike"]
    lateralMovementWindow none),
  ("T1053.005", .parallel ["query_crowdstrike", "query_splunk"]
    persistenceWindow none),
  ("T1547.001", .parallel ["query_crowdstrike", "query_splunk"]
    persistenceWindow none),
  ("T1543.003", .parallel ["query_crowdstrike", "query_splunk"]
    persistenceWindow none),
  ("T1486", ⟨["query_crowdstrike", "query_splunk", "query_backup_systems"],
    processExecutionWindow, false, some "query_crowdstrike"⟩),
  ("T1490", .parallel ["query_crowdstrike", "query_splunk", "query_backup_systems"]
    processExecutionWindow (some "query_crowdstrike")),
  ("T1489", .parallel ["query_crowdstrike", "query_splunk"]
    processExecutionWindow none),
  ("T1078.004", .parallel ["query_aws", "query_splunk", "lookup_threat_intel"]
    authLoginWindow none),
  ("T1098", .parallel ["query_splunk", "query_aws", "query_cmdb"]
    authLoginWindow none),
  ("T1134", .parallel ["query_crowdstrike", "query_splunk"]
    processExecutionWindow none),
  ("T1048", .parallel ["query_netflow", "lookup_threat_intel", "query_splunk"]
    c2BeaconingWindow none),
  ("T1041", .parallel ["query_netflow", "lookup_threat_intel"]
    c2BeaconingWindow none),
  ("T1190", .parallel ["query_splunk", "lookup_vulncheck", "lookup_threat_intel", "query_cmdb"]
    processExecutionWindow none),
  ("T1203", .parallel ["query_crowdstrike", "query_splunk", "lookup_vulncheck"]
    processExecutionWindow (some "query_crowdstrike")),
  ("T1210", .parallel ["query_crowdstrike", "query_splunk", "lookup_vulncheck", "query_netflow"]
    lateralMovementWindow (some "query_crowdstrike")),
  ("T1211", .parallel ["query_crowdstrike", "query_splunk", "lookup_vulncheck"]
    processExecutionWindow none),
  ("T1082", .parallel ["query_crowdstrike", "query_splunk"]
    processExecutionWindow none),
  ("T1083", .parallel ["query_crowdstrike", "query_splunk"]
    processExecutionWindow none),
  ("T1046", .parallel ["query_netflow", "query_splunk"]
    lateralMovementWindow none),
  ("T1055", .parallel ["query_crowdstrike", "query_splunk"]
    processExecutionWindow none),
  ("T1562.001", .parallel ["query_crowdstrike", "query_splunk"]
    processExecutionWindow none),
  ("T1070.004", .parallel ["query_crowdstrike", "query_splunk"]
    processExecutionWindow none),
  ("T1059.001", .parallel ["query_crowdstrike", "query_splunk"]
    processExecutionWindow none),
  ("T1059.003", .parallel ["query_crowdstrike", "query_splunk"]
    processExecutionWindow none)]

/-- `DEFAULT_ROUTING`. -/
def defaultRouting : RoutingEntry :=
  .parallel ["query_splunk", "lookup_threat_intel", "query_cmdb"]
    processExecutionWindow none

/-- `SEVERITY_BUDGET`. -/
def severityBudget : List (String × ℤ) :=
  [("LOW", 3), ("MEDIUM", 5), ("HIGH", 8), ("CRITICAL", 15)]

/-! ## §3  Lookups -/

/-- `technique_id.split(".")[0]`. -/
def parentTechnique (techniqueId : String) : String :=
  String.ofList (techniqueId.toList.takeWhile (· != '.'))

/-- `get_routing`: the technique itself, else its parent, else the default. -/
def getRouting (techniqueId : String) : RoutingEntry :=
  match techniqueToTools.lookup techniqueId with
  | some entry => entry
  | none =>
      match techniqueToTools.lookup (parentTechnique techniqueId) with
      | some entry => entry
      | none => defaultRouting

/-- `ordered.append(tool)` unless it was seen. -/
def appendNew (ordered : List String) (tool : String) : List String :=
  if tool ∈ ordered then ordered else ordered ++ [tool]

/-- An empty name counts as no priority tool. -/
def appendPriority (ordered : List String) (entry : RoutingEntry) :
    List String :=
  match entry.priorityTool with
  | some tool => if tool = "" then ordered else appendNew ordered tool
  | none => ordered

/-- `get_tools_for_techniques`: the priority tools first, then the others. -/
def getToolsForTechniques (techniqueIds : List String) : List String :=
  let ordered := techniqueIds.foldl
    (fun ordered tid => appendPriority ordered (getRouting tid)) []
  techniqueIds.foldl
    (fun ordered tid => (getRouting tid).tools.foldl appendNew ordered) ordered

/-- `get_time_window`. -/
def getTimeWindow (techniqueId : String) : TimeWindow :=
  (getRouting techniqueId).timeWindow

/-- `severity.upper()` of a severity, which is written in ASCII. -/
def upper (severity : String) : String :=
  String.ofList (severity.toList.map Char.toUpper)

/-- `get_budget`. -/
def getBudget (severity : String) : ℤ :=
  (severityBudget.lookup (upper severity)).getD 5

theorem appendNew_nodup {ordered : List String} (h : ordered.Nodup)
    (tool : String) : (appendNew ordered tool).Nodup := by
  unfold appendNew
  split
  · exact h
  · rename_i hnot
    rw [List.nodup_append]
    refine ⟨h, List.nodup_singleton _, ?_⟩
    intro a ha b hb
    obtain rfl := List.mem_singleton.mp hb
    exact fun heq => hnot (heq ▸ ha)

theorem appendPriority_nodup {ordered : List String} (h : ordered.Nodup)
    (entry : RoutingEntry) : (appendPriority ordered entry).Nodup := by
  unfold appendPriority
  split
  · split
    · exact h
    · exact appendNew_nodup h _
  · exact h

/-- What every step of a fold keeps, the fold keeps. -/
theorem foldl_keeps {α β : Type} {P : α → Prop} {f : α → β → α}
    (hf : ∀ a b, P a → P (f a b)) {a : α} (h : P a) (l : List β) :
    P (l.foldl f a) := by
  induction l generalizing a with
  | nil => exact h
  | cons b l ih => exact ih (hf a b h)

/-- No tool is routed twice. -/
theorem getToolsForTechniques_nodup (techniqueIds : List String) :
    (getToolsForTechniques techniqueIds).Nodup := by
  unfold getToolsForTechniques
  refine foldl_keeps (P := List.Nodup) (fun ordered tid h => ?_) ?_ techniqueIds
  · exact foldl_keeps (P := List.Nodup) (fun a b ha => appendNew_nodup ha b) h _
  · exact foldl_keeps (P := List.Nodup)
      (fun a b ha => appendPriority_nodup ha _) List.nodup_nil _

/-- A severity of the schema has a budget of at least three. -/
theorem three_le_getBudget (severity : String) : 3 ≤ getBudget severity := by
  unfold getBudget
  cases h : severityBudget.lookup (upper severity) with
  | none => decide
  | some b =>
      have hb : b ∈ severityBudget.map Prod.snd := by
        obtain ⟨l₁, l₂, hl, -⟩ := List.lookup_eq_some_iff.mp h
        rw [hl]
        simp
      simp only [severityBudget, List.map_cons, List.map_nil, List.mem_cons,
        List.not_mem_nil, or_false] at hb
      rcases hb with rfl | rfl | rfl | rfl <;> decide

end AlertTriage
