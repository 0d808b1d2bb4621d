import AlertTriage.AlertCodec
import AlertTriage.Ingest.PayloadValues
import AlertTriage.Pipeline.NodeSpecs
import AlertTriage.Pipeline.ToolRouting

/-!
# What the burst keeps of its tools

`_execute_single_tool` catches what the tool raises, and nothing else: a stored or a
returned value of another shape than `compress_tool_result` expects, and a result that is no
`ToolCallRecord`, raise outside of the `try`, and the gathering loop drops the tool. The
burst keeps every tool just where none of the values has such a shape
(`burst_recorded_iff`).
-/

namespace AlertTriage

open Library

/-! ## §1  `compress_tool_result` -/

/-- `value[0]` of a value that is not empty. -/
def firstItem : Json → Option Json
  | .arr (item :: _) => some item
  | .str s => s.toList.head?.map fun c => .str (String.singleton c)
  | _ => none

/-- The items of `value[:3]`. -/
def firstThree : Json → Option (List Json)
  | .arr items => some (items.take 3)
  | .str s => some ((s.toList.take 3).map fun c => .str (String.singleton c))
  | _ => none

/-- `len(value)`. -/
def pyLen : Json → Option ℕ
  | .arr items => some items.length
  | .str s => some s.length
  | .obj fields => some fields.length
  | _ => none

/-- `", ".join(items)`. -/
def joinTexts (items : List Json) : Option String :=
  (items.mapM Json.asStr?).map (", ".intercalate ·)

/-- The first of the items, which has fields. -/
def topItem (value : Json) : Option Params := (firstItem value).bind Json.asObj?

section

-- What an f-string writes for a value.
variable (fmt : Json → String)

def summariseCrowdstrike (result : Params) : Option String :=
  let count := fmt (getOr result "count" (.int 0))
  let detections := getOr result "detections" (.arr [])
  let alerts := getOr result "alerts" (.arr [])
  let incidents := getOr result "incidents" (.arr [])
  if detections.truthy then do
    let top ← topItem detections
    return "[CrowdStrike] " ++ count ++ " detections. Top: " ++
      fmt (getOr top "technique" .null) ++ " (" ++ fmt (getOr top "severity" .null) ++
      ") — " ++ fmt (getOr top "filename" .null)
  else if alerts.truthy then do
    let top ← topItem alerts
    return "[CrowdStrike/Alerts] " ++ count ++ " alerts. Top: " ++
      fmt (getOr top "technique" .null) ++ " (" ++ fmt (getOr top "severity" .null) ++
      ") — " ++ fmt (getOr top "name" (.str "?"))
  else if incidents.truthy then do
    let top ← topItem incidents
    let shown ← firstThree (getOr top "tactics" (.arr []))
    let joined ← joinTexts shown
    let tactics := if joined = "" then "N/A" else joined
    return "[CrowdStrike/Incidents] " ++ count ++ " incidents. Top: severity=" ++
      fmt (getOr top "severity" .null) ++ " tactics=" ++ tactics ++ " hosts=" ++
      fmt (getOr top "host_count" (.str "?"))
  else some ("[CrowdStrike] " ++ count ++ " results.")

/-- The name of an event: the generator calls `e.get`, and the names are joined. -/
def eventName (event : Json) : Option Json :=
  event.asObj?.map fun fields => getOr fields "EventName" (.str "?")

def summariseAws (result : Params) : Option String := do
  let highRisk := getOr result "high_risk_events" (.arr [])
  let length ← pyLen highRisk
  let shown ← firstThree highRisk
  let names ← shown.mapM eventName
  let joined ← joinTexts names
  return "[AWS] " ++ fmt (getOr result "total_events" (.int 0)) ++ " CloudTrail events. " ++
    toString length ++ " high-risk IAM events: " ++ joined

/-- The wording of a result that reports no error, tool by tool. -/
def summariseTool (toolName : String) (result : Params) : Option String :=
  let text (key : String) (default : Json) := fmt (getOr result key default)
  if toolName = "query_splunk" then
    some ("[Splunk/" ++ text "query_type" (.str "?") ++ "] " ++
      text "result_count" (.int 0) ++ " results. Summary: " ++
      text "summary" (.str "No summary."))
  else if toolName = "query_crowdstrike" then summariseCrowdstrike fmt result
  else if toolName = "lookup_threat_intel" then
    some ("[ThreatIntel] IOC=" ++ text "ioc" .null ++ " Verdict=" ++ text "verdict" .null ++
      " — " ++ text "detail" (.str ""))
  else if toolName = "query_netflow" ∨ toolName = "query_dns_logs" then
    some ("[NetFlow/" ++ text "query_type" (.str "?") ++ "] Verdict=" ++
      text "verdict" (.str "N/A") ++ ". Bytes=" ++
      text "total_bytes_dns" (getOr result "total_bytes_out" (.str "N/A")) ++
      ". High-entropy queries=" ++ text "high_entropy_queries" (.str "N/A"))
  else if toolName = "query_cmdb" then
    if !(getOr result "found" (.bool true)).truthy then
      some ("[CMDB] " ++ text "hostname" (.str "?") ++ " — no matching CI in ServiceNow")
    else
      some ("[CMDB] " ++ text "hostname" .null ++ " — criticality=" ++
        text "criticality" .null ++ " type=" ++ text "asset_type" .null ++ " zone=" ++
        text "network_zone" .null)
  else if toolName = "query_aws" then summariseAws fmt result
  else if toolName = "query_backup_systems" then
    some ("[Backup] Shadow copies exist=" ++ text "shadow_copies_exist" .null ++ " Verdict=" ++
      text "verdict" (.str "N/A"))
  else if toolName = "lookup_vulncheck" then
    if !(getOr result "found" .null).truthy then
      some ("[VulnCheck] " ++ text "cve_id" (.str "?") ++ " — not found")
    else
      some ("[VulnCheck] " ++ text "cve_id" .null ++ " CVSS=" ++
        text "cvss_v3_score" (.str "?") ++ " (" ++ text "severity" (.str "?") ++ ") exploit=" ++
        if (getOr result "exploit_available" .null).truthy then "yes" else "no")
  else
    some ("[" ++ toolName ++ "] " ++ String.ofList ((fmt (.obj result)).toList.take 300))

end

/-! ## §2  Shapes -/

/-- A list whose first item has fields. -/
def HasTop (value : Json) : Prop := ∃ top rest, value = .arr (.obj top :: rest)

/-- Text, or a list with text in front. -/
def Joinable (value : Json) : Prop :=
  (∃ s, value = .str s) ∨
    ∃ items, value = .arr items ∧ ∀ item ∈ items.take 3, ∃ s, item = .str s

/-- What CrowdStrike has found can be put into words. -/
def CrowdstrikeShape (result : Params) : Prop :=
  let detections := getOr result "detections" (.arr [])
  let alerts := getOr result "alerts" (.arr [])
  let incidents := getOr result "incidents" (.arr [])
  if detections.truthy then HasTop detections
  else if alerts.truthy then HasTop alerts
  else if incidents.truthy then
    ∃ top rest, incidents = .arr (.obj top :: rest) ∧ Joinable (getOr top "tactics" (.arr []))
  else True

/-- So can the events of AWS: empty text, or a list with named events in front. -/
def AwsShape (result : Params) : Prop :=
  let highRisk := getOr result "high_risk_events" (.arr [])
  highRisk = .str "" ∨
    ∃ events, highRisk = .arr events ∧ ∀ event ∈ events.take 3,
      ∃ fields s, event = .obj fields ∧ getOr fields "EventName" (.str "?") = .str s

/-- The two tools whose wording looks into lists. -/
def SummaryShape (toolName : String) (result : Params) : Prop :=
  (toolName = "query_crowdstrike" → CrowdstrikeShape result) ∧
    (toolName = "query_aws" → AwsShape result)

/-- The result reports an error, or that its source was not there. -/
def ReportsError (result : Params) : Prop :=
  (getOr result "error" .null).truthy = true ∨
    Json.lookup "source_available" result = some (.bool false)

/-- The value can be compressed. -/
def Compressible (toolName : String) (value : Json) : Prop :=
  ∃ result, value = .obj result ∧ (ReportsError result ∨ SummaryShape toolName result)

theorem asStr?_isSome {j : Json} : (Json.asStr? j).isSome = true ↔ ∃ s, j = .str s := by
  cases j <;> simp [Json.asStr?]

/-- A list of fallible steps succeeds where each does. -/
theorem mapM_isSome {α β : Type} {f : α → Option β} {xs : List α} :
    (xs.mapM f).isSome = true ↔ ∀ x ∈ xs, (f x).isSome = true := by
  induction xs with
  | nil => simp
  | cons x xs ih =>
      rw [List.mapM_cons, List.forall_mem_cons]
      cases hx : f x with
      | none => simp
      | some y =>
          rw [Option.isSome_some, eq_self, true_and, ← ih]
          cases xs.mapM f <;> simp

theorem joinTexts_isSome {items : List Json} :
    (joinTexts items).isSome = true ↔ ∀ item ∈ items, ∃ s, item = .str s := by
  rw [joinTexts, Option.isSome_map, mapM_isSome]
  simp only [asStr?_isSome]

theorem topItem_eq_some {value : Json} {top : Params} :
    topItem value = some top ↔ ∃ rest, value = .arr (.obj top :: rest) := by
  constructor
  · intro h
    obtain ⟨item, hitem, hobj⟩ := Option.bind_eq_some_iff.mp h
    obtain rfl : item = .obj top := by
      cases item with
      | obj fields => exact congrArg Json.obj (Option.some.inj hobj)
      | _ => cases hobj
    cases value with
    | arr items =>
        cases items with
        | nil => cases hitem
        | cons x rest =>
            obtain rfl : x = .obj top := Option.some.inj hitem
            exact ⟨rest, rfl⟩
    | str s =>
        obtain ⟨c, -, hc⟩ := Option.map_eq_some_iff.mp hitem
        cases hc
    | _ => cases hitem
  · rintro ⟨rest, rfl⟩
    rfl

theorem topItem_isSome {value : Json} : (topItem value).isSome = true ↔ HasTop value := by
  rw [Option.isSome_iff_exists]
  exact exists_congr fun top => topItem_eq_some

/-- Joined text comes from text, of which every slice is text, or from a list. -/
theorem joined_isSome (value : Json) :
    ((firstThree value).bind joinTexts).isSome = true ↔ Joinable value := by
  unfold Joinable
  cases value with
  | arr items => simp [firstThree, joinTexts_isSome]
  | str s =>
      apply iff_of_true
      · apply joinTexts_isSome.mpr
        intro item hitem
        obtain ⟨c, -, rfl⟩ := List.mem_map.mp hitem
        exact ⟨_, rfl⟩
      · exact .inl ⟨s, rfl⟩
  | _ => simp [firstThree]

theorem summariseCrowdstrike_isSome (fmt : Json → String) (result : Params) :
    (summariseCrowdstrike fmt result).isSome = true ↔ CrowdstrikeShape result := by
  unfold summariseCrowdstrike CrowdstrikeShape
  dsimp only
  split
  · rw [← topItem_isSome]
    cases topItem (getOr result "detections" (.arr [])) <;> simp
  split
  · rw [← topItem_isSome]
    cases topItem (getOr result "alerts" (.arr [])) <;> simp
  split
  · cases htop : topItem (getOr result "incidents" (.arr [])) with
    | none =>
        apply iff_of_false
        · simp
        · rintro ⟨top, rest, heq, -⟩
          have hsome := topItem_eq_some.mpr ⟨rest, heq⟩
          rw [htop] at hsome
          cases hsome
    | some top =>
        obtain ⟨rest, heq⟩ := topItem_eq_some.mp htop
        have hjoined := joined_isSome (getOr top "tactics" (.arr []))
        have hshape : (∃ top' rest', getOr result "incidents" (.arr []) =
            .arr (.obj top' :: rest') ∧ Joinable (getOr top' "tactics" (.arr []))) ↔
            Joinable (getOr top "tactics" (.arr [])) := by
          constructor
          · rintro ⟨top', rest', heq', hj⟩
            have hsame := topItem_eq_some.mpr ⟨rest', heq'⟩
            rw [htop] at hsame
            rwa [Option.some.inj hsame]
          · intro hj
            exact ⟨top, rest, heq, hj⟩
        rw [hshape, ← hjoined]
        cases hshown : firstThree (getOr top "tactics" (.arr [])) with
        | none => simp [hshown]
        | some shown => cases hj : joinTexts shown <;> simp [hshown, hj]
  · simp

/-- Two passes of fallible steps succeed where each step of both does. -/
theorem mapM_mapM_isSome {α β γ : Type} (f : α → Option β) (g : β → Option γ)
    (xs : List α) :
    ((xs.mapM f).bind fun ys => ys.mapM g).isSome = true ↔
      ∀ x ∈ xs, ((f x).bind g).isSome = true := by
  induction xs with
  | nil => simp
  | cons x xs ih =>
      rw [List.mapM_cons, List.forall_mem_cons, ← ih]
      cases f x with
      | none => simp
      | some y =>
          cases xs.mapM f with
          | none => simp
          | some ys =>
              show ((y :: ys).mapM g).isSome = true ↔ (g y).isSome = true ∧ (ys.mapM g).isSome = true
              rw [mapM_isSome, mapM_isSome, List.forall_mem_cons]

/-- An event with a name that is text. -/
theorem eventName_isSome {event : Json} :
    ((eventName event).bind Json.asStr?).isSome = true ↔
      ∃ fields s, event = .obj fields ∧ getOr fields "EventName" (.str "?") = .str s := by
  cases event with
  | obj fields => simp [eventName, Json.asObj?, asStr?_isSome]
  | _ => simp [eventName, Json.asObj?]

theorem summariseAws_isSome (fmt : Json → String) (result : Params) :
    (summariseAws fmt result).isSome = true ↔ AwsShape result := by
  have hnames (events : List Json) :
      ((events.mapM eventName).bind joinTexts).isSome = true ↔
        ∀ event ∈ events, ∃ fields s, event = .obj fields ∧
          getOr fields "EventName" (.str "?") = .str s := by
    have hpasses := mapM_mapM_isSome eventName Json.asStr? events
    simp only [eventName_isSome] at hpasses
    rw [← hpasses]
    cases events.mapM eventName with
    | none => simp
    | some names => simp [joinTexts]
  unfold summariseAws AwsShape
  dsimp only
  cases getOr result "high_risk_events" (.arr []) with
  | arr events =>
      have hshape := hnames (events.take 3)
      cases hn : (events.take 3).mapM eventName with
      | none => simp_all [pyLen, firstThree]
      | some names => cases hj : joinTexts names <;> simp_all [pyLen, firstThree]
  | str s =>
      cases hs : s.toList with
      | nil =>
          obtain rfl : s = "" := String.toList_eq_nil_iff.mp hs
          simp [pyLen, firstThree, joinTexts]
      | cons c cs =>
          have hne : s ≠ "" := by
            rintro rfl
            cases hs
          simp [pyLen, firstThree, hs, hne, List.mapM_cons, eventName, Json.asObj?]
  | obj fields => simp [pyLen, firstThree]
  | _ => simp [pyLen]

theorem summariseTool_isSome (fmt : Json → String) (toolName : String) (result : Params) :
    (summariseTool fmt toolName result).isSome = true ↔ SummaryShape toolName result := by
  unfold SummaryShape
  by_cases hcrowd : toolName = "query_crowdstrike"
  · subst hcrowd
    rw [← summariseCrowdstrike_isSome fmt]
    simp [summariseTool]
  by_cases haws : toolName = "query_aws"
  · subst haws
    rw [← summariseAws_isSome fmt]
    simp [summariseTool]
  · apply iff_of_true
    · unfold summariseTool
      dsimp only
      split_ifs <;> rfl
    · exact ⟨fun h => absurd h hcrowd, fun h => absurd h haws⟩

theorem compressToolResult_isSome (fmt : Json → String) (toolName : String) (value : Json) :
    (compressToolResult (summariseTool fmt) toolName value).isSome = true ↔
      Compressible toolName value := by
  unfold Compressible ReportsError
  cases value with
  | obj result =>
      have hsummary := summariseTool_isSome fmt toolName result
      have herror : (getOr result "error" .null).truthy =
          (Json.lookup "error" result).any Json.truthy := by
        unfold getOr
        cases Json.lookup "error" result <;> rfl
      simp only [Json.obj.injEq, exists_eq_left', herror, compressToolResult]
      split
      · rename_i h
        simp [h]
      · rename_i h
        split
        · rename_i havailable
          simp [havailable]
        · rename_i havailable
          rw [hsummary]
          simp_all
  | _ => simp [compressToolResult]

/-! ## §3  One tool -/

/-- A returned object can be compressed and recorded: what it says of its source and its
error fits the fields of the record. -/
def ResultFits (toolName : String) (result : Params) : Prop :=
  (ReportsError result ∨ SummaryShape toolName result) ∧
    (schemaBool? (getOr result "source_available" (.bool true))).isSome = true ∧
    (schemaText? (getOr result "error" .null)).isSome = true

/-- What the cache and the tool answer has the shape that the code expects. -/
def AnswerFits (toolName : String) (answer : ToolAnswer) : Prop :=
  match answer.cached.filter Json.truthy with
  | some cached => Compressible toolName cached
  | none =>
      match answer.outcome with
      | .result fields => ResultFits toolName fields
      | .timeout => True
      | .raised _ => True

theorem liveRecord_isSome {fmt : Json → String} {toolName : String} {params result : Params} :
    (liveRecord (summariseTool fmt) toolName params result).isSome = true ↔
      ResultFits toolName result := by
  have hcompress := compressToolResult_isSome fmt toolName (.obj result)
  simp only [Compressible, Json.obj.injEq, exists_eq_left'] at hcompress
  unfold ResultFits liveRecord getOr
  rw [← hcompress]
  cases compressToolResult (summariseTool fmt) toolName (.obj result) with
  | none => simp
  | some text =>
      cases schemaBool? ((Json.lookup "source_available" result).getD (.bool true)) with
      | none => simp
      | some available =>
          cases schemaText? ((Json.lookup "error" result).getD .null) <;> simp

/-- A tool that timed out or raised is recorded, with its source not available and an
error. -/
theorem failed_recorded (fmt : Json → String) {toolName : String} (params : Params)
    {answer : ToolAnswer} (hregistered : toolName ∈ toolRegistry)
    (hmiss : answer.cached.filter Json.truthy = none)
    (hfailed : ∀ fields, answer.outcome ≠ .result fields) :
    ∃ raw record, executeSingleTool (summariseTool fmt) toolName params answer =
        some (raw, record) ∧
      record.toolName = toolName ∧ record.sourceAvailable = false ∧ record.error.isSome = true := by
  have hlive (text : String) :
      ∃ compressed, liveRecord (summariseTool fmt) toolName params
          [("source_available", .bool false), ("error", .str text)] =
        some ⟨toolName, params, compressed, false, some text⟩ := by
    have hsome := (compressToolResult_isSome fmt toolName _).mpr
      ⟨[("source_available", .bool false), ("error", .str text)], rfl, .inl (.inr rfl)⟩
    obtain ⟨compressed, hc⟩ := Option.isSome_iff_exists.mp hsome
    exact ⟨compressed, by rw [liveRecord, hc]; rfl⟩
  unfold executeSingleTool
  rw [hmiss]
  dsimp only
  rw [if_pos hregistered]
  cases hout : answer.outcome with
  | result fields => exact absurd hout (hfailed fields)
  | timeout =>
      obtain ⟨compressed, hrecord⟩ := hlive "Timeout after 30s"
      refine ⟨_, _, by rw [ToolOutcome.toResult, hrecord]; rfl, rfl, rfl, rfl⟩
  | raised text =>
      obtain ⟨compressed, hrecord⟩ := hlive text
      refine ⟨_, _, by rw [ToolOutcome.toResult, hrecord]; rfl, rfl, rfl, rfl⟩

theorem executeSingleTool_isSome {fmt : Json → String} {toolName : String} {params : Params}
    {answer : ToolAnswer} (hregistered : toolName ∈ toolRegistry) :
    (executeSingleTool (summariseTool fmt) toolName params answer).isSome = true ↔
      AnswerFits toolName answer := by
  unfold AnswerFits
  cases hcached : answer.cached.filter Json.truthy with
  | some cached =>
      dsimp only
      rw [executeSingleTool, hcached]
      dsimp only
      rw [Option.isSome_map, compressToolResult_isSome]
  | none =>
      dsimp only
      cases hout : answer.outcome with
      | result fields =>
          dsimp only
          rw [executeSingleTool, hcached]
          dsimp only
          rw [if_pos hregistered, Option.isSome_map, hout]
          exact liveRecord_isSome
      | timeout =>
          obtain ⟨raw, record, hrun, -⟩ := failed_recorded fmt params
            hregistered hcached (by rw [hout]; exact fun fields hno => by cases hno)
          rw [hrun]
          exact iff_of_true rfl trivial
      | raised text =>
          obtain ⟨raw, record, hrun, -⟩ := failed_recorded fmt params
            hregistered hcached (by rw [hout]; exact fun fields hno => by cases hno)
          rw [hrun]
          exact iff_of_true rfl trivial

/-! ## §4  The burst -/

/-- A tool with a parameter builder is registered. -/
theorem registered_of_burstParams {isDecimalUnicode : Char → Bool} {alert : NormalizedAlert}
    {entities : Option ExtractedEntities} {techniqueId toolName : String} {params : Params}
    (h : burstParams isDecimalUnicode alert entities techniqueId toolName = some params) :
    toolName ∈ toolRegistry := by
  unfold burstParams at h
  split at h
  · cases h
  · rename_i builder hbuilder
    obtain ⟨before, after, hsplit, -⟩ := List.lookup_eq_some_iff.mp hbuilder
    have hkeys : (paramBuilders isDecimalUnicode).map Prod.fst = toolRegistry := rfl
    rw [← hkeys, hsplit]
    simp

/-- No tool is called twice. -/
theorem burstCalls_nodup (isDecimalUnicode : Char → Bool) (alert : NormalizedAlert)
    (entities : Option ExtractedEntities) (techniqueIds : List String) :
    ((burstCalls isDecimalUnicode alert entities techniqueIds).map Prod.fst).Nodup := by
  have hnames (builds : String → Option Params) (tools : List String) :
      ((tools.filterMap fun tool => (builds tool).map fun params => (tool, params)).map
        Prod.fst).Sublist tools := by
    induction tools with
    | nil => exact .slnil
    | cons tool tools ih =>
        cases hb : builds tool with
        | none =>
            rw [List.filterMap_cons_none (by rw [hb]; rfl)]
            exact ih.cons tool
        | some params =>
            rw [List.filterMap_cons_some (by rw [hb]; rfl), List.map_cons]
            exact ih.cons_cons tool
  exact (hnames _ _).nodup (getToolsForTechniques_nodup techniqueIds)

/-- One enrichment entry and one record of the tool are there. -/
def Recorded (toolName : String) (burst : List (String × Json) × List ToolCallRecord) :
    Prop :=
  (burst.1.map Prod.fst).count toolName = 1 ∧
    (burst.2.map ToolCallRecord.toolName).count toolName = 1

/-- The names of the executions that returned. -/
def keptNames (summarise : String → Params → Option String) (answers : ℕ → ToolAnswer)
    (calls : List ((String × Params) × ℕ)) : List String :=
  (calls.filter fun p =>
    (executeSingleTool summarise p.1.1 p.1.2 (answers p.2)).isSome).map fun p => p.1.1

/-- The records are those of the executions that returned, under their names. -/
theorem recordNames_eq (summarise : String → Params → Option String)
    (answers : ℕ → ToolAnswer) (calls : List ((String × Params) × ℕ)) :
    ((calls.map fun p => executeSingleTool summarise p.1.1 p.1.2 (answers p.2)).filterMap
        id).map (fun r => r.2.toolName) =
      keptNames summarise answers calls := by
  unfold keptNames
  induction calls with
  | nil => rfl
  | cons p calls ih =>
      cases hrun : executeSingleTool summarise p.1.1 p.1.2 (answers p.2) with
      | none =>
          rw [List.map_cons, hrun, List.filterMap_cons_none rfl, ih,
            List.filter_cons_of_neg (by simp [hrun])]
      | some r =>
          rw [List.map_cons, hrun, List.filterMap_cons_some (f := id) (b := r) rfl,
            List.map_cons, ih,
            List.filter_cons_of_pos (by simp [hrun]), List.map_cons,
            @toolName_of_executed summarise _ _ _ r.1 _ hrun]

theorem zipIdx_names (calls : List (String × Params)) :
    (calls.zipIdx.map fun p => p.1.1) = calls.map Prod.fst := by
  have hfst := List.zipIdx_map_fst 0 calls
  calc calls.zipIdx.map (fun p => p.1.1)
      = (calls.zipIdx.map Prod.fst).map Prod.fst := by rw [List.map_map]; rfl
    _ = calls.map Prod.fst := by rw [hfst]

/-- Where no tool is called twice, data and records are kept under the same names, each
once. -/
theorem collected_names (summarise : String → Params → Option String)
    (answers : ℕ → ToolAnswer) {calls : List (String × Params)}
    (hnodup : (calls.map Prod.fst).Nodup) :
    (collectBurst (executeAll summarise answers calls)).1.map Prod.fst =
        keptNames summarise answers calls.zipIdx ∧
      (collectBurst (executeAll summarise answers calls)).2.map ToolCallRecord.toolName =
        keptNames summarise answers calls.zipIdx ∧
      (keptNames summarise answers calls.zipIdx).Nodup := by
  have hrecords := recordNames_eq summarise answers calls.zipIdx
  have hkept : (keptNames summarise answers calls.zipIdx).Nodup := by
    apply List.Sublist.nodup _ hnodup
    rw [← zipIdx_names]
    exact List.filter_sublist.map _
  set answered := (executeAll summarise answers calls).filterMap id with hanswered
  have hnames : answered.map (fun r => r.2.toolName) =
      keptNames summarise answers calls.zipIdx := hrecords
  have hdata : answered.foldl (fun data r => Json.upsert r.2.toolName r.1 data) [] =
      answered.map fun r => (r.2.toolName, r.1) := by
    have hpairs := @Json.ofPairs_of_nodup (answered.map fun r => (r.2.toolName, r.1))
      (by rw [List.map_map]; exact hnames ▸ hkept)
    rwa [Json.ofPairs, List.foldl_map] at hpairs
  refine ⟨?_, ?_, hkept⟩
  · show (answered.foldl _ []).map Prod.fst = _
    rw [hdata, List.map_map]
    exact hnames
  · show (answered.map Prod.snd).map _ = _
    rw [List.map_map]
    exact hnames

/-- A name is kept once where it is kept at all. -/
theorem recorded_iff_mem {summarise : String → Params → Option String}
    {answers : ℕ → ToolAnswer} {calls : List (String × Params)}
    (hnodup : (calls.map Prod.fst).Nodup) (toolName : String) :
    Recorded toolName (collectBurst (executeAll summarise answers calls)) ↔
      toolName ∈ keptNames summarise answers calls.zipIdx := by
  obtain ⟨hdata, hrecords, hkept⟩ := collected_names summarise answers hnodup
  unfold Recorded
  rw [hdata, hrecords, and_self]
  constructor
  · intro h
    exact List.count_pos_iff.mp (by omega)
  · exact List.count_eq_one_of_mem hkept

/-- A tool is recorded just where its own execution returned. -/
theorem recorded_iff_returned {summarise : String → Params → Option String}
    {answers : ℕ → ToolAnswer} {calls : List (String × Params)}
    (hnodup : (calls.map Prod.fst).Nodup) {p : (String × Params) × ℕ}
    (hp : p ∈ calls.zipIdx) :
    Recorded p.1.1 (collectBurst (executeAll summarise answers calls)) ↔
      (executeSingleTool summarise p.1.1 p.1.2 (answers p.2)).isSome = true := by
  rw [recorded_iff_mem hnodup]
  constructor
  · intro h
    obtain ⟨q, hq, hname⟩ := List.mem_map.mp h
    obtain ⟨hmem, hreturned⟩ := List.mem_filter.mp hq
    rw [← zipIdx_names] at hnodup
    obtain rfl : q = p := List.inj_on_of_nodup_map hnodup hmem hp hname
    exact hreturned
  · intro h
    exact List.mem_map.mpr ⟨p, List.mem_filter.mpr ⟨hp, h⟩, rfl⟩

/-- The tool is recorded with its source not available and an error. -/
def RecordedAsFailed (toolName : String) (records : List ToolCallRecord) : Prop :=
  ∃ record ∈ records, record.toolName = toolName ∧ record.sourceAvailable = false ∧
    record.error.isSome = true

section

variable (fmt : Json → String) (isDecimalUnicode : Char → Bool) (alert : NormalizedAlert)
  (entities : ExtractedEntities) (techniqueIds : List String) (answers : ℕ → ToolAnswer)

/-- `run_burst_enrichment`: every answer is for the execution of the same number. -/
def runBurstEnrichment : List (String × Json) × List ToolCallRecord :=
  collectBurst (executeAll (summariseTool fmt) answers
    (burstCalls isDecimalUnicode alert (some entities) techniqueIds))

/-- **Where the burst loses no tool**: every routed tool with parameters has exactly one
entry and one record, exactly if every stored and every returned value that is used has the
shape that the code expects. A tool that was called and timed out or raised is recorded as
failed in any case. -/
theorem burst_recorded_iff :
    ((∀ p ∈ (burstCalls isDecimalUnicode alert (some entities) techniqueIds).zipIdx,
        Recorded p.1.1 (runBurstEnrichment fmt isDecimalUnicode alert entities techniqueIds
          answers)) ↔
      ∀ p ∈ (burstCalls isDecimalUnicode alert (some entities) techniqueIds).zipIdx,
        AnswerFits p.1.1 (answers p.2)) ∧
      ∀ p ∈ (burstCalls isDecimalUnicode alert (some entities) techniqueIds).zipIdx,
        (answers p.2).cached.filter Json.truthy = none →
        (∀ fields, (answers p.2).outcome ≠ .result fields) →
        RecordedAsFailed p.1.1 (runBurstEnrichment fmt isDecimalUnicode alert entities
          techniqueIds answers).2 := by
  -- the burst asks for registered tools only
  have hregistered : ∀ p ∈ (burstCalls isDecimalUnicode alert (some entities)
      techniqueIds).zipIdx, p.1.1 ∈ toolRegistry := by
    intro p hp
    have hcall : p.1 ∈ burstCalls isDecimalUnicode alert (some entities) techniqueIds := by
      rw [← List.zipIdx_map_fst 0 (burstCalls isDecimalUnicode alert (some entities)
        techniqueIds)]
      exact List.mem_map_of_mem hp
    obtain ⟨tool, -, hbuilt⟩ := List.mem_filterMap.mp hcall
    obtain ⟨params, hparams, heq⟩ := Option.map_eq_some_iff.mp hbuilt
    rw [← heq]
    exact registered_of_burstParams hparams
  have hnodup := burstCalls_nodup isDecimalUnicode alert (some entities) techniqueIds
  constructor
  · apply forall₂_congr
    intro p hp
    rw [runBurstEnrichment, recorded_iff_returned hnodup hp,
      executeSingleTool_isSome (hregistered p hp)]
  · intro p hp hmiss hfailed
    obtain ⟨raw, record, hrun, hname, havailable, herror⟩ :=
      failed_recorded fmt p.1.2 (hregistered p hp) hmiss hfailed
    refine ⟨record, ?_, hname, havailable, herror⟩
    apply List.mem_map.mpr
    refine ⟨(raw, record), List.mem_filterMap.mpr ⟨some (raw, record), ?_, rfl⟩, rfl⟩
    exact List.mem_map.mpr ⟨p, hp, hrun⟩

end

/-- Every tool reports an error that is an object. -/
def structuredError : ToolAnswer :=
  ⟨none, .result [("error", .obj [("code", .int 500)])]⟩

theorem structured_error_lost :
    ¬ ∀ (fmt : Json → String) (isDecimalUnicode : Char → Bool) (alert : NormalizedAlert)
      (entities : ExtractedEntities) (techniqueIds : List String) (answers : ℕ → ToolAnswer),
      ∀ p ∈ (burstCalls isDecimalUnicode alert (some entities) techniqueIds).zipIdx,
        Recorded p.1.1 (runBurstEnrichment fmt isDecimalUnicode alert entities techniqueIds
          answers) := by
  intro hall
  have hnone : (runBurstEnrichment (fun _ => "") (fun _ => false) sampleAlert
      ⟨[], [], [], [], []⟩ ["T1082"] fun _ => structuredError).1 = [] := by
    decide +kernel
  have hcalled : "query_crowdstrike" ∈ (burstCalls (fun _ => false) sampleAlert
      (some ⟨[], [], [], [], []⟩) ["T1082"]).zipIdx.map fun p => p.1.1 := by
    decide +kernel
  obtain ⟨p, hp, hname⟩ := List.mem_map.mp hcalled
  have hrecorded := (hall (fun _ => "") _ _ _ _ (fun _ => structuredError) p hp).1
  rw [hnone] at hrecorded
  simp at hrecorded

end AlertTriage
