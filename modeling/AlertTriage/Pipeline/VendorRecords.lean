import AlertTriage.Pipeline.ContextCache
import AlertTriage.Pipeline.VendorAnswers

/-!
# What is recorded and kept of the vendors' answers

The burst loses no tool but one that hands on a misfit (`burst_loses_misfits_only`). A failed
exchange is recorded as one and never cached (`failed_exchange_shows`), so a cached answer was
an answer (`cached_hit_answered`). And an answer of Splunk is that to its own query, though
after thirty polls the query may still have been running (`splunk_answers_its_job`).
-/

namespace AlertTriage.Vendor

open Library Library.Async

variable {α : Type} {rt : ToolRuntime} {settings : ToolSettings}

/-! ## §1  A world for examples -/

/-- Nothing is configured. -/
def bareSettings : ToolSettings where
  splunkHost := "localhost"
  splunkPort := 8089
  splunkUsername := "admin"
  splunkPassword := ""
  splunkToken := ""
  splunkScheme := "https"
  crowdstrikeClientId := ""
  crowdstrikeClientSecret := ""
  crowdstrikeBaseUrl := "https://api.crowdstrike.com"
  awsAccessKeyId := ""
  awsSecretAccessKey := ""
  awsRegion := "us-east-1"
  servicenowInstanceUrl := ""
  servicenowUsername := ""
  servicenowPassword := ""
  servicenowClientId := ""
  servicenowClientSecret := ""
  vulncheckApiToken := ""
  ndrFlowApiUrl := ""
  ndrFlowApiToken := ""
  backupApiUrl := ""
  backupApiToken := ""
  intelKeys := keyless

def plainRuntime : ToolRuntime := ⟨plainBuiltins, fun _ => "error", id, id⟩

def okResponse (body : Json) : HttpResponse := ⟨200, "", some body⟩

/-! ## §2  The burst -/

section Burst

variable (fmt : Json → String) (isDecimalUnicode : Char → Bool) (alert : NormalizedAlert)
  (entities : ExtractedEntities) (techniqueIds : List String)

/-- The burst asks CrowdStrike for detections only. -/
theorem burst_asks_detections {call : String × Params}
    (h : call ∈ burstCalls isDecimalUnicode alert (some entities) techniqueIds) :
    call.1 ∈ toolRegistry ∧ ¬ AsksIncidents call.1 call.2 := by
  obtain ⟨tool, -, hbuilt⟩ := List.mem_filterMap.mp h
  obtain ⟨params, hparams, rfl⟩ := Option.map_eq_some_iff.mp hbuilt
  refine ⟨registered_of_burstParams hparams, ?_⟩
  rintro ⟨htool, htype⟩
  dsimp only at htool htype
  subst htool
  have hdetections : buildCrowdstrikeParams alert entities (techniqueIds.headD "T1082") =
      some params := hparams
  rw [← Option.some.inj hdetections] at htype
  exact absurd htype (by decide : "detections_by_host" ≠ "incidents_by_host")

/-- **The burst loses no vendor's answer**: whatever the vendors reply to the tools that the
burst calls, every one of them has exactly one entry and one record, unless it hands on a dict
of the customer's API that the record cannot take. -/
theorem burst_loses_misfits_only (rt : ToolRuntime) (settings : ToolSettings)
    (exchanges : ℕ → Exchange) (answers : ℕ → ToolAnswer)
    (hanswers : ∀ p ∈ (burstCalls isDecimalUnicode alert (some entities) techniqueIds).zipIdx,
      (answers p.2).cached.filter Json.truthy = none ∧
        Answers rt settings p.1.1 p.1.2 (exchanges p.2) (answers p.2).outcome) :
    ∀ p ∈ (burstCalls isDecimalUnicode alert (some entities) techniqueIds).zipIdx,
      Recorded p.1.1 (runBurstEnrichment fmt isDecimalUnicode alert entities techniqueIds
          answers) ↔
        ((answers p.2).outcome ≠ .timeout → ¬ HandsOnMisfit p.1.1 (exchanges p.2)) := by
  intro p hp
  obtain ⟨hmiss, hends⟩ := hanswers p hp
  have hcall : p.1 ∈ burstCalls isDecimalUnicode alert (some entities) techniqueIds := by
    rw [← List.zipIdx_map_fst 0 (burstCalls isDecimalUnicode alert (some entities)
      techniqueIds)]
    exact List.mem_map_of_mem hp
  obtain ⟨hregistered, hincidents⟩ := burst_asks_detections isDecimalUnicode alert entities
    techniqueIds hcall
  have hnodup := burstCalls_nodup isDecimalUnicode alert (some entities) techniqueIds
  rw [runBurstEnrichment, recorded_iff_returned hnodup hp,
    executed_iff hregistered hincidents hmiss hends]

end Burst

/-- The NDR of the customer reports an error that is an object. -/
def ndrSettings : ToolSettings := { bareSettings with ndrFlowApiUrl := "https://ndr/query" }

def beaconParams : Params :=
  [("query_type", .str "beacon_detection"), ("src_ip", .null), ("hours_back", .int 720)]

def beaconTool : PassThrough := netflowTool ndrSettings (.ofParams beaconParams)

def misfitData : Json := .obj [("error", .obj [("code", .int 7)])]

def ndrExchange (data : Json) : Exchange :=
  [⟨.http beaconTool.request, some (.ok (okResponse data))⟩]

theorem ends_beacon (data : Json) :
    Ends (callTool plainRuntime ndrSettings "query_netflow" beaconParams) (ndrExchange data)
      (.ok (beaconTool.handOn data)) :=
  .call (.pure _)

def beaconAnswers (data : Json) (_ : ℕ) : ToolAnswer := ⟨none, .result (beaconTool.handOn data)⟩

theorem beacon_calls : burstCalls (fun _ => false) sampleAlert (some ⟨[], [], [], [], []⟩)
    ["T1573"] = [("query_netflow", beaconParams)] := by
  rfl

theorem burst_loses_misfits_only_sample :
    ¬ Recorded "query_netflow" (runBurstEnrichment (fun _ => "") (fun _ => false) sampleAlert
      ⟨[], [], [], [], []⟩ ["T1573"] (beaconAnswers misfitData)) := by
  have hall := burst_loses_misfits_only (fun _ => "") (fun _ => false) sampleAlert
    ⟨[], [], [], [], []⟩ ["T1573"] plainRuntime ndrSettings (fun _ => ndrExchange misfitData)
    (beaconAnswers misfitData) (by
      rw [beacon_calls]
      intro p hp
      obtain rfl := List.mem_singleton.mp hp
      exact ⟨rfl, .inr ⟨_, ends_beacon misfitData, rfl⟩⟩)
  rw [beacon_calls] at hall
  have hone := hall (("query_netflow", beaconParams), 0) (by simp)
  intro hrecorded
  refine hone.mp hrecorded (fun hno => by cases hno) ⟨by decide, _, List.mem_singleton.mpr rfl, ?_⟩
  refine ⟨by decide, _, rfl, fun hno => ?_⟩
  exact absurd hno.2 (by decide)

/-! ## §3  Failed exchanges -/

/-- The record says that the tool failed, and so does the text for the model. -/
structure RecordsFailure (toolName : String) (record : ToolCallRecord) : Prop where
  flagged : record.sourceAvailable = false ∨ record.error.isSome = true
  worded : ∃ text, record.resultSummary = "[" ++ toolName ++ "] ERROR: " ++ text

theorem not_cacheable_of_reports {result : Params} (h : ReportsError result) :
    cacheable result = false := by
  unfold cacheable
  rcases h with herror | havailable
  · have hget : (get result "error").truthy = true := herror
    rw [hget, Bool.not_true, Bool.and_false]
  · have hget : getOr result "source_available" (.bool true) = .bool false := by
      rw [getOr, havailable, Option.getD_some]
    rw [hget]
    rfl

theorem recordsFailure_of_reports {fmt : Json → String} {toolName : String}
    {params result : Params} {record : ToolCallRecord} (h : ReportsError result)
    (hrecord : liveRecord (summariseTool fmt) toolName params result = some record) :
    RecordsFailure toolName record := by
  unfold liveRecord at hrecord
  simp only [Option.bind_eq_bind, Option.bind_eq_some_iff] at hrecord
  obtain ⟨text, htext, available, havailable, error, herror, hrecord⟩ := hrecord
  obtain rfl := Option.some.inj hrecord
  unfold compressToolResult at htext
  dsimp only at htext
  rcases h with htruthy | hfalse
  · unfold getOr at htruthy
    cases hlookup : Json.lookup "error" result with
    | none =>
        rw [hlookup] at htruthy
        cases htruthy
    | some value =>
        rw [hlookup] at htruthy herror htext
        have hvalue : (some value).any Json.truthy = true := htruthy
        simp only [hvalue, if_true] at htext
        refine ⟨.inr ?_, _, (Option.some.inj htext).symm⟩
        cases value with
        | str s =>
            rw [← Option.some.inj herror]
            rfl
        | null => cases htruthy
        | _ => cases herror
  · rw [hfalse] at havailable htext
    refine ⟨.inl (Option.some.inj havailable).symm, ?_⟩
    split at htext
    · exact ⟨_, (Option.some.inj htext).symm⟩
    · exact ⟨_, (Option.some.inj htext).symm⟩

section Executions

variable {toolName : String} {params : Params} {exchange : Exchange} {answer : ToolAnswer}

/-- A failed call ends in a result that reports an error. -/
theorem reports_of_failed (hintel : toolName ≠ "lookup_threat_intel")
    (h : Answers rt settings toolName params exchange answer.outcome) {c : VendorCall}
    {reply : Option c.Reply} (hmem : ⟨c, reply⟩ ∈ exchange) (hfailed : Failed c reply) :
    ReportsError answer.outcome.toResult := by
  rcases h with htimeout | ⟨returned, hends, houtcome⟩
  · rw [htimeout]
    exact .inr rfl
  · rw [houtcome]
    cases returned with
    | ok result => exact (callTool_shows params hintel).ends hends hmem hfailed
    | error e => exact .inr rfl

/-- **No failed exchange is taken for an answer**: if one of the calls of an execution failed,
the result is not put into the cache, and what is recorded of it says so. -/
theorem failed_exchange_shows {fmt : Json → String} (hintel : toolName ≠ "lookup_threat_intel")
    (hregistered : toolName ∈ toolRegistry) (hmiss : answer.cached.filter Json.truthy = none)
    (h : Answers rt settings toolName params exchange answer.outcome) {c : VendorCall}
    {reply : Option c.Reply} (hmem : ⟨c, reply⟩ ∈ exchange) (hfailed : Failed c reply) :
    storedResult toolName answer = none ∧
      ∀ raw record, executeSingleTool (summariseTool fmt) toolName params answer =
        some (raw, record) → RecordsFailure toolName record := by
  have hreports := reports_of_failed hintel h hmem hfailed
  constructor
  · unfold storedResult
    rw [hmiss, if_neg (by simpa using hregistered), Option.filter_some,
      if_neg (by rw [not_cacheable_of_reports hreports]; exact Bool.false_ne_true)]
  · intro raw record hrun
    unfold executeSingleTool at hrun
    rw [hmiss] at hrun
    dsimp only at hrun
    rw [if_pos hregistered] at hrun
    obtain ⟨record', hrecord, heq⟩ := Option.map_eq_some_iff.mp hrun
    obtain ⟨-, rfl⟩ := Prod.mk.inj heq
    exact recordsFailure_of_reports hreports hrecord

/-- The search cannot be created in time. -/
def rawParams : Params := [("query_type", .str "raw_spl"), ("raw_spl", .str "index=main")]

def lateRequest : HttpRequest := createRequest bareSettings "index=main" 100

def lateExchange : Exchange := [⟨.time, some (0 : ℚ)⟩, ⟨.http lateRequest, some (.error .timeout)⟩]

def lateAnswer : ToolAnswer := ⟨none, .result (splunkFailure "Splunk query timed out")⟩

theorem ends_late : Ends (callTool plainRuntime bareSettings "query_splunk" rawParams)
    lateExchange (.ok (splunkFailure "Splunk query timed out")) :=
  .call (.call (.pure _))

theorem failed_exchange_shows_sample :
    storedResult "query_splunk" lateAnswer = none ∧
      ∀ raw record, executeSingleTool (summariseTool fun _ => "") "query_splunk" rawParams
        lateAnswer = some (raw, record) → RecordsFailure "query_splunk" record :=
  failed_exchange_shows (by decide) (by decide) rfl (.inr ⟨_, ends_late, rfl⟩)
    (List.mem_cons_of_mem _ (List.mem_singleton.mpr rfl))
    fun r hr response hno => by
      rw [← Option.some.inj hr] at hno
      cases hno

/-- What is stored was returned by the tool, by an exchange without a failed call. -/
theorem stored_exchange {result : Params} (hintel : toolName ≠ "lookup_threat_intel")
    (h : Answers rt settings toolName params exchange answer.outcome)
    (hstored : storedResult toolName answer = some result) :
    Ends (callTool rt settings toolName params) exchange (.ok result) ∧
      ∀ call ∈ exchange, ¬ Failed call.1 call.2 := by
  unfold storedResult at hstored
  split at hstored
  · cases hstored
  · obtain ⟨hresult, hcacheable⟩ := Option.filter_eq_some_iff.mp hstored
    have hresult := Option.some.inj hresult
    constructor
    · rcases h with htimeout | ⟨returned, hends, houtcome⟩
      · rw [← hresult, htimeout] at hcacheable
        cases hcacheable
      · cases returned with
        | ok fields =>
            rw [houtcome] at hresult
            obtain rfl : fields = result := hresult
            exact hends
        | error e =>
            rw [← hresult, houtcome] at hcacheable
            cases hcacheable
    · intro call hmem hfailed
      have hreports := reports_of_failed hintel h hmem hfailed
      rw [← hresult, not_cacheable_of_reports hreports] at hcacheable
      cases hcacheable

end Executions

/-! ## §4  Cached results -/

section Cache

variable {sha256Hex : String → String} {c : ContextCache} {ops : List CacheOp} {o : Outcome}
  {toolName : String} {params : JsonDict}

/-- A use of the cache by executions of tools: what is set is what an execution stores. -/
def OfExecution (rt : ToolRuntime) (settings : ToolSettings) : CacheOp → Prop
  | .set _ toolName params (.json result) => ∃ exchange answer,
      Answers rt settings toolName params.fields exchange answer.outcome ∧
        storedResult toolName answer = some result.fields
  | _ => True

/-- **A cached answer was an answer**: whatever executions ran before, in whatever order they
used the cache and whichever of these uses failed, a hit is what the tool returned to the same
question, by an exchange in which no call had failed; and it can be put into words. -/
theorem cached_hit_answered (hsha : Function.Injective sha256Hex)
    (hops : ∀ op ∈ ops, OfExecution rt settings op) (hintel : toolName ≠ "lookup_threat_intel")
    {found : Json}
    (hhit : (cacheGet sha256Hex c o toolName params (cacheRun sha256Hex c ops)).1 =
      .ok (some found)) :
    ∃ asked exchange result, SameQuestion toolName toolName asked params ∧
      Ends (callTool rt settings toolName asked.fields) exchange (.ok result) ∧
      found = .obj result ∧ (∀ call ∈ exchange, ¬ Failed call.1 call.2) ∧
      (¬ AsksIncidents toolName asked.fields → Compressible toolName found) := by
  obtain ⟨value, hlookup, hloads⟩ := lookup_of_hit hhit
  obtain ⟨result, rfl, before, op, after, rfl, hsets, -⟩ :=
    cacheHolds_run hsha ops toolName params value hlookup
  have hop := hops op (by simp)
  rw [RedisValue.toText, jsonDumps, Json.loads_dumps _ result.distinct] at hloads
  obtain rfl := Option.some.inj hloads
  cases op with
  | set o' toolName' asked stored =>
      cases stored with
      | json stored =>
          obtain ⟨-, ⟨rfl, hsame⟩, rfl⟩ := hsets
          obtain ⟨exchange, answer, hanswers, hstored⟩ := hop
          obtain ⟨hends, hclean⟩ := stored_exchange hintel hanswers hstored
          refine ⟨asked, exchange, stored.fields, ⟨rfl, hsame⟩, hends, rfl, hclean, ?_⟩
          intro hincidents
          refine ⟨stored.fields, rfl, ?_⟩
          by_cases hname : toolName' ∈ passThroughTools
          · -- their wording looks into nothing
            refine .inr ⟨?_, ?_⟩
            all_goals
              rintro rfl
              exact absurd hname (by decide)
          · exact ((resultFits_iff hincidents hends).mpr fun hno => hname hno.1).1
      | unserialisable => exact hsets.elim
  | _ => exact hsets.elim

end Cache

def vulnSettings : ToolSettings := { bareSettings with vulncheckApiToken := "token" }

def cveParams : JsonDict := ⟨[("cve_id", .str "CVE-2024-1234")], by simp, trivial, trivial⟩

def cveRequest : HttpRequest :=
  ⟨"GET", "https://api.vulncheck.com/v3/index/vulncheck-nvd2", [("cve", .str "CVE-2024-1234")],
    [("Content-Type", "application/json"), ("Authorization", "Bearer token")], none, .none⟩

def cveExchange : Exchange :=
  [⟨.time, some (0 : ℚ)⟩, ⟨.http cveRequest, some (.ok (okResponse (.obj [("data", .arr [])])))⟩,
    ⟨.time, some (1 : ℚ)⟩]

def cveResult : JsonDict :=
  ⟨[("source", .str "vulncheck"), ("cve_id", .str "CVE-2024-1234"), ("found", .bool false),
    ("elapsed_ms", .int (⌊(1 : ℚ) * 1000⌋ - ⌊(0 : ℚ) * 1000⌋))], by simp,
    trivial, trivial, trivial, trivial, trivial⟩

theorem ends_cve : Ends (callTool plainRuntime vulnSettings "lookup_vulncheck" cveParams.fields)
    cveExchange (.ok cveResult.fields) :=
  .call (.call (.call (.pure _)))

def cveOps : List CacheOp := [.set .returned "lookup_vulncheck" cveParams (.json cveResult), .wait 0]

theorem cached_hit_answered_sample :
    ∃ asked exchange result, SameQuestion "lookup_vulncheck" "lookup_vulncheck" asked cveParams ∧
      Ends (callTool plainRuntime vulnSettings "lookup_vulncheck" asked.fields) exchange
        (.ok result) ∧
      Json.obj cveResult.fields = .obj result ∧ (∀ call ∈ exchange, ¬ Failed call.1 call.2) ∧
      (¬ AsksIncidents "lookup_vulncheck" asked.fields →
        Compressible "lookup_vulncheck" (.obj cveResult.fields)) := by
  have hsame : SameQuestion "lookup_vulncheck" "lookup_vulncheck" cveParams cveParams :=
    ⟨rfl, rfl, ⟨_, rfl, rfl⟩, trivial⟩
  have hhit : (cacheGet id defaultCache .returned "lookup_vulncheck" cveParams
      (cacheRun id defaultCache cveOps)).1 = .ok (some (.obj cveResult.fields)) :=
    cacheGet_of_set [] Function.injective_id (by decide) hsame (by decide)
  refine cached_hit_answered Function.injective_id (fun op (hop : op ∈ cveOps) => ?_)
    (by decide) hhit
  rcases List.mem_cons.mp hop with rfl | hop
  · exact ⟨cveExchange, ⟨none, .result cveResult.fields⟩, .inr ⟨_, ends_cve, rfl⟩, rfl⟩
  · obtain rfl := List.mem_singleton.mp hop
    trivial

/-! ## §5  What a Splunk answer is the answer to -/

section Splunk

variable {exchange : Exchange}

theorem ends_lift {x : Except PyExn α} {a : α} (h : Ends (lift x : Tool α) exchange (.ok a)) :
    exchange = [] ∧ x = .ok a := by
  cases x with
  | ok b =>
      obtain ⟨rfl, hb⟩ := ends_pure h
      exact ⟨rfl, congrArg Except.ok (Except.ok.inj hb).symm⟩
  | error e =>
      obtain ⟨-, hno⟩ := ends_throw h
      cases hno

theorem ends_call {c : VendorCall} {r : c.Reply} (h : Ends (call c) exchange (.ok r)) :
    exchange = [⟨c, some r⟩] := by
  obtain ⟨reply, rfl, hr⟩ := ends_ask h
  cases reply with
  | none => cases hr
  | some r' => rw [Except.ok.inj hr]

theorem ends_timeMs {ms : ℤ} (h : Ends timeMs exchange (.ok ms)) :
    ∃ now : ℚ, exchange = [⟨.time, some now⟩] := by
  obtain ⟨rs, now, rs', rfl, hcall, hpure⟩ := ends_bind h
  obtain ⟨rfl, -⟩ := ends_pure hpure
  exact ⟨now, by rw [ends_call hcall, List.append_nil]⟩

/-- A request that brought JSON. -/
theorem ends_requestJson {request : HttpRequest} {body : Json}
    (h : Ends (requestJson request) exchange (.ok body)) :
    ∃ response : HttpResponse, exchange = [⟨.http request, some (.ok response)⟩] ∧
      response.json = some body := by
  obtain ⟨reply, rfl, hr⟩ := ends_ask h
  cases reply with
  | none => cases hr
  | some r =>
      cases r with
      | error e => cases hr
      | ok response => exact ⟨response, rfl, (decoded_of_ok hr.symm).2⟩

/-- The state in the response is `DONE`. -/
def Done (response : HttpResponse) : Prop :=
  ∃ status state, response.json = some status ∧ dispatchState status = .ok state ∧
    isText "DONE" state = true

/-- A poll after a second. -/
def pollStep (rt : ToolRuntime) (settings : ToolSettings) (sid : Json) (response : HttpResponse) :
    Exchange :=
  [⟨.sleep, some ()⟩, ⟨.http (pollRequest rt settings sid), some (.ok response)⟩]

/-- The polls end with the one that finds the job done, or after so many. -/
structure Polls (most : ℕ) (polls : List HttpResponse) : Prop where
  bounded : polls.length ≤ most
  running : ∀ response ∈ polls.dropLast, ¬ Done response
  ended : polls.length < most → ∃ response, polls.getLast? = some response ∧ Done response

theorem Polls.cons {n : ℕ} {response : HttpResponse} {polls : List HttpResponse}
    (h : Polls n polls) (hrunning : ¬ Done response) : Polls (n + 1) (response :: polls) := by
  cases polls with
  | nil =>
      refine ⟨Nat.succ_le_succ (Nat.zero_le n), (fun _ hno => by cases hno), fun hless => ?_⟩
      obtain ⟨_, hno, -⟩ := h.ended (Nat.lt_of_succ_lt_succ hless)
      cases hno
  | cons next polls =>
      refine ⟨Nat.succ_le_succ h.bounded, ?_, fun hless => ?_⟩
      · rw [List.dropLast_cons_cons]
        exact List.forall_mem_cons.mpr ⟨hrunning, h.running⟩
      · rw [List.getLast?_cons_cons]
        exact h.ended (Nat.lt_of_succ_lt_succ hless)

theorem ends_pollUntilDone {sid : Json} {n : ℕ}
    (h : Ends (pollUntilDone rt settings sid n) exchange (.ok ())) :
    ∃ polls, exchange = polls.flatMap (pollStep rt settings sid) ∧ Polls n polls := by
  induction n generalizing exchange with
  | zero =>
      obtain ⟨rfl, -⟩ := ends_pure h
      exact ⟨[], rfl, Nat.le_refl 0, (fun _ hno => by cases hno), fun hno => by cases hno⟩
  | succ n ih =>
      unfold pollUntilDone at h
      obtain ⟨rs₁, slept, rs₂, rfl, hsleep, hafter⟩ := ends_bind h
      obtain ⟨rs₃, status, rs₄, rfl, hrequest, hparse⟩ := ends_bind hafter
      obtain ⟨rs₅, state, rs₆, rfl, hlift, hrest⟩ := ends_bind hparse
      obtain ⟨response, rfl, hjson⟩ := ends_requestJson hrequest
      obtain ⟨rfl, hstate⟩ := ends_lift hlift
      rw [ends_call hsleep]
      have hdone : Done response ↔ isText "DONE" state = true := by
        constructor
        · rintro ⟨status', state', hjson', hstate', hdone⟩
          rw [hjson] at hjson'
          obtain rfl := Option.some.inj hjson'
          rw [hstate] at hstate'
          rwa [Except.ok.inj hstate']
        · exact fun hdone => ⟨status, state, hjson, hstate, hdone⟩
      by_cases hfinished : isText "DONE" state = true
      · rw [if_pos hfinished] at hrest
        obtain ⟨rfl, -⟩ := ends_pure hrest
        exact ⟨[response], rfl, Nat.succ_le_succ (Nat.zero_le n), (fun _ hno => by cases hno),
          fun _ => ⟨response, rfl, hdone.mpr hfinished⟩⟩
      · rw [if_neg hfinished] at hrest
        obtain ⟨polls, rfl, hpolls⟩ := ih hrest
        exact ⟨response :: polls, rfl, hpolls.cons fun hno => hfinished (hdone.mp hno)⟩

/-- The rows of a result are the first of those that this response lists. -/
def ShowsRowsOf (response : HttpResponse) (result : Params) : Prop :=
  ∃ body rows count shown, response.json = some body ∧
    field body "results" (.arr []) = .ok rows ∧ lengthOf rows = .ok count ∧
    sliced 20 rows = .ok shown ∧ Json.lookup "result_count" result = some (.int count) ∧
    Json.lookup "results" result = some shown

/-- **A Splunk answer** that reports no error has the rows of the job that was created for its
own query, asked for after the job was found done or after the thirtieth poll. -/
theorem splunk_answers_its_job {params : SplunkQueryInput} {result : Params}
    (h : Ends (splunkQuery rt settings params) exchange (.ok result))
    (hclean : ¬ ReportsError result) :
    ∃ spl started created createdBody sid polls listed ended,
      filledText (buildSpl params.query) = some spl ∧
      exchange = ⟨.time, some started⟩ ::
        ⟨.http (createRequest settings spl params.maxResults), some (.ok created)⟩ ::
        (polls.flatMap (pollStep rt settings sid) ++
          [⟨.http (resultsRequest rt settings sid params.maxResults), some (.ok listed)⟩,
            ⟨.time, some ended⟩]) ∧
      created.json = some createdBody ∧ item "sid" createdBody = .ok sid ∧
      Polls 30 polls ∧ ShowsRowsOf listed result := by
  unfold splunkQuery at h
  obtain ⟨rs₁, startMs, rs₂, rfl, htime, hquery⟩ := ends_bind h
  obtain ⟨started, rfl⟩ := ends_timeMs htime
  cases hspl : filledText (buildSpl params.query) with
  | none =>
      rw [hspl] at hquery
      obtain ⟨-, hresult⟩ := ends_pure hquery
      rw [Except.ok.inj hresult] at hclean
      exact absurd (.inl rfl) hclean
  | some spl =>
      rw [hspl] at hquery
      obtain ⟨rs₃, searched, rs₄, rfl, hsearch, hanswer⟩ := ends_bind hquery
      cases searched with
      | error e =>
          have hreports : ReportsError result := by
            cases e
            all_goals
              obtain ⟨-, hresult⟩ := ends_pure hanswer
              rw [Except.ok.inj hresult]
              exact .inr rfl
          exact absurd hreports hclean
      | ok rows =>
          -- the job, its polls and its rows
          obtain ⟨rs₅, createdBody, rs₆, rfl, hcreate, hafterCreate⟩ :=
            ends_bind (ends_caught hsearch)
          obtain ⟨created, rfl, hcreated⟩ := ends_requestJson hcreate
          obtain ⟨rs₇, sid, rs₈, rfl, hitem, hafterSid⟩ := ends_bind hafterCreate
          obtain ⟨rfl, hsid⟩ := ends_lift hitem
          obtain ⟨rs₉, done, rs₁₀, rfl, hpoll, hafterPolls⟩ := ends_bind hafterSid
          obtain ⟨polls, rfl, hpolls⟩ := ends_pollUntilDone hpoll
          obtain ⟨rs₁₁, body, rs₁₂, rfl, hrequest, hfield⟩ := ends_bind hafterPolls
          obtain ⟨listed, rfl, hlisted⟩ := ends_requestJson hrequest
          obtain ⟨rfl, hrows⟩ := ends_lift hfield
          -- the dict that is made of them
          obtain ⟨rs₁₃, endMs, rs₁₄, rfl, htime, hafterTime⟩ := ends_bind hanswer
          obtain ⟨ended, rfl⟩ := ends_timeMs htime
          obtain ⟨rs₁₅, compressed, rs₁₆, rfl, hcompress, hafterCompress⟩ := ends_bind hafterTime
          obtain ⟨rfl, -⟩ := ends_lift hcompress
          obtain ⟨rs₁₇, count, rs₁₈, rfl, hlength, hafterCount⟩ := ends_bind hafterCompress
          obtain ⟨rfl, hcount⟩ := ends_lift hlength
          obtain ⟨rs₁₉, shown, rs₂₀, rfl, hslice, hdict⟩ := ends_bind hafterCount
          obtain ⟨rfl, hshown⟩ := ends_lift hslice
          obtain ⟨rfl, hresult⟩ := ends_pure hdict
          rw [Except.ok.inj hresult]
          refine ⟨spl, started, created, createdBody, sid, polls, listed, ended, rfl, ?_,
            hcreated, hsid, hpolls, body, rows, count, shown, hlisted, hrows, hcount, hshown,
            rfl, rfl⟩
          simp only [List.nil_append, List.append_nil, List.cons_append, List.append_assoc]

def sampleSearch : SplunkQueryInput := ⟨⟨"raw_spl", none, none, none, 72, some "index=main"⟩, 100⟩

def createdResponse : HttpResponse := okResponse (.obj [("sid", .str "17")])

def doneResponse : HttpResponse :=
  okResponse (.obj [("entry", .arr [.obj [("content", .obj [("dispatchState", .str "DONE")])]])])

def emptyResponse : HttpResponse := okResponse (.obj [("results", .arr [])])

def sampleExchange : Exchange :=
  [⟨.time, some (0 : ℚ)⟩,
    ⟨.http (createRequest bareSettings "index=main" 100), some (.ok createdResponse)⟩,
    ⟨.sleep, some ()⟩,
    ⟨.http (pollRequest plainRuntime bareSettings (.str "17")), some (.ok doneResponse)⟩,
    ⟨.http (resultsRequest plainRuntime bareSettings (.str "17") 100),
      some (.ok emptyResponse)⟩,
    ⟨.time, some (2 : ℚ)⟩]

def sampleResult : Params :=
  [("source", .str "splunk"), ("query_type", .str "raw_spl"), ("result_count", .int 0),
    ("elapsed_ms", .int (⌊(2 : ℚ) * 1000⌋ - ⌊(0 : ℚ) * 1000⌋)),
    ("summary", .str "No results found."), ("results", .arr [])]

theorem ends_sampleSearch :
    Ends (splunkQuery plainRuntime bareSettings sampleSearch) sampleExchange
      (.ok sampleResult) := by
  exact .call (.call (.call (.call (.call (.call (.pure _))))))

theorem splunk_answers_its_job_sample :
    ∃ polls listed, Polls 30 polls ∧ ShowsRowsOf listed sampleResult := by
  have hclean : ¬ ReportsError sampleResult := by
    rintro (herror | havailable)
    · cases herror
    · cases havailable
  obtain ⟨-, -, -, -, -, polls, listed, -, -, -, -, -, hpolls, hrows⟩ :=
    splunk_answers_its_job ends_sampleSearch hclean
  exact ⟨polls, listed, hpolls, hrows⟩

end Splunk

end AlertTriage.Vendor
