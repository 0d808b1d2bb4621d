import AlertTriage.Pipeline.MitreRouter

/-!
# The merge of the routed entries

`get_tools_for_techniques` goes over the techniques twice with one set of seen names.
What it returns is the priority tools followed by all tools, each name where it occurs
first (`tools_merged`).
-/

namespace AlertTriage

/-! ## §1  The table -/

/-- Every routed entry is one of the table's or the default. -/
theorem getRouting_mem (techniqueId : String) :
    getRouting techniqueId ∈ defaultRouting :: techniqueToTools.map Prod.snd := by
  have hmem {key : String} {entry : RoutingEntry}
      (h : techniqueToTools.lookup key = some entry) :
      entry ∈ techniqueToTools.map Prod.snd := by
    obtain ⟨before, after, hsplit, -⟩ := List.lookup_eq_some_iff.mp h
    rw [hsplit]
    simp
  unfold getRouting
  split
  · rename_i entry hentry
    exact List.mem_cons_of_mem _ (hmem hentry)
  · split
    · rename_i entry hentry
      exact List.mem_cons_of_mem _ (hmem hentry)
    · exact List.mem_cons_self ..

/-- What the default and every entry of the table have, every routed entry has. -/
theorem routed_of_table {P : RoutingEntry → Prop} (hdefault : P defaultRouting)
    (htable : ∀ entry ∈ techniqueToTools.map Prod.snd, P entry) (techniqueId : String) :
    P (getRouting techniqueId) := by
  rcases List.mem_cons.mp (getRouting_mem techniqueId) with h | h
  · rw [h]
    exact hdefault
  · exact htable _ h

/-- No routed entry has an empty name for its priority tool. -/
theorem priorityTool_ne_empty (techniqueId : String) :
    (getRouting techniqueId).priorityTool ≠ some "" := by
  apply routed_of_table (P := fun entry => entry.priorityTool ≠ some "")
  · decide
  · decide

/-! ## §2  The merge -/

/-- The priority tools of the routed entries, in order. -/
def priorityTools (techniqueIds : List String) : List String :=
  techniqueIds.flatMap fun tid => (getRouting tid).priorityTool.toList

/-- The tools of the routed entries, in order. -/
def routedTools (techniqueIds : List String) : List String :=
  techniqueIds.flatMap fun tid => (getRouting tid).tools

/-- A name appended unless it was seen is the next name of the list without its
repetitions. -/
theorem appendNew_eraseDups (names : List String) (tool : String) :
    appendNew names.eraseDups tool = (names ++ [tool]).eraseDups := by
  rw [List.eraseDups_append]
  unfold appendNew
  split
  · rename_i hseen
    have hmem := List.mem_eraseDups.mp hseen
    simp [List.removeAll, hmem]
  · rename_i hnew
    have hmem : tool ∉ names := fun h => hnew (List.mem_eraseDups.mpr h)
    simp [List.removeAll, hmem, List.eraseDups_cons]

theorem foldl_appendNew (tools names : List String) :
    tools.foldl appendNew names.eraseDups = (names ++ tools).eraseDups := by
  induction tools generalizing names with
  | nil => rw [List.foldl_nil, List.append_nil]
  | cons tool tools ih =>
      rw [List.foldl_cons, appendNew_eraseDups, ih, List.append_assoc, List.singleton_append]

/-- An entry's priority tool is appended like any other name. -/
theorem appendPriority_eq (ordered : List String) (techniqueId : String) :
    appendPriority ordered (getRouting techniqueId) =
      (getRouting techniqueId).priorityTool.toList.foldl appendNew ordered := by
  unfold appendPriority
  cases hp : (getRouting techniqueId).priorityTool with
  | none => rfl
  | some tool =>
      have hne : tool ≠ "" := by
        rintro rfl
        exact priorityTool_ne_empty techniqueId hp
      exact if_neg hne

/-- One pass over the techniques: what each of them gives is appended. -/
theorem foldl_pass (gives : String → List String) (techniqueIds names : List String) :
    techniqueIds.foldl (fun ordered tid => (gives tid).foldl appendNew ordered)
        names.eraseDups =
      (names ++ techniqueIds.flatMap gives).eraseDups := by
  induction techniqueIds generalizing names with
  | nil => rw [List.foldl_nil, List.flatMap_nil, List.append_nil]
  | cons tid ids ih =>
      rw [List.foldl_cons, foldl_appendNew, ih, List.flatMap_cons, List.append_assoc]

theorem getToolsForTechniques_eq (techniqueIds : List String) :
    getToolsForTechniques techniqueIds =
      (priorityTools techniqueIds ++ routedTools techniqueIds).eraseDups := by
  have hfirst := foldl_pass (fun tid => (getRouting tid).priorityTool.toList) techniqueIds []
  rw [List.eraseDups_nil, List.nil_append] at hfirst
  unfold getToolsForTechniques
  simp only [appendPriority_eq]
  rw [hfirst, foldl_pass]
  rfl

theorem mem_getToolsForTechniques {techniqueIds : List String} {tool : String} :
    tool ∈ getToolsForTechniques techniqueIds ↔
      ∃ tid ∈ techniqueIds, (getRouting tid).priorityTool = some tool ∨
        tool ∈ (getRouting tid).tools := by
  rw [getToolsForTechniques_eq, List.mem_eraseDups, List.mem_append, priorityTools,
    routedTools, List.mem_flatMap, List.mem_flatMap]
  simp only [Option.mem_toList]
  constructor
  · rintro (⟨tid, hmem, hp⟩ | ⟨tid, hmem, ht⟩)
    · exact ⟨tid, hmem, .inl hp⟩
    · exact ⟨tid, hmem, .inr ht⟩
  · rintro ⟨tid, hmem, hp | ht⟩
    · exact .inl ⟨tid, hmem, hp⟩
    · exact .inr ⟨tid, hmem, ht⟩

/-- **The routed entries are merged without loss or repetition**: the tools are those of
the routed entries, each once, the priority tools first in the order of their techniques
and then the others in the order in which they occur. -/
theorem tools_merged (techniqueIds : List String) :
    getToolsForTechniques techniqueIds =
        (priorityTools techniqueIds ++ routedTools techniqueIds).eraseDups ∧
      (getToolsForTechniques techniqueIds).Nodup ∧
      (∀ tool, tool ∈ getToolsForTechniques techniqueIds ↔
        ∃ tid ∈ techniqueIds, (getRouting tid).priorityTool = some tool ∨
          tool ∈ (getRouting tid).tools) ∧
      getToolsForTechniques techniqueIds =
        (priorityTools techniqueIds).eraseDups ++
          ((routedTools techniqueIds).filter
            fun tool => tool ∉ priorityTools techniqueIds).eraseDups := by
  refine ⟨getToolsForTechniques_eq techniqueIds, getToolsForTechniques_nodup techniqueIds,
    fun tool => mem_getToolsForTechniques, ?_⟩
  rw [getToolsForTechniques_eq, List.eraseDups_append, List.removeAll]
  congr 2
  apply List.filter_congr
  intro tool _
  simp

example : getToolsForTechniques ["T1110.001", "T1486", "T9999"] =
    ["query_crowdstrike", "query_splunk", "query_cmdb", "query_backup_systems",
      "lookup_threat_intel"] := by
  decide +kernel

end AlertTriage
