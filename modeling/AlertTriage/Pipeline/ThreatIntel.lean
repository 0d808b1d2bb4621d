import AlertTriage.Pipeline.Enrichment
import AlertTriage.Ingest.PayloadValues
import Mathlib.Algebra.Order.BigOperators.Group.List

/-!
# `agents/tools/threat_intel_tool.py`

Up to three sources are asked about an indicator, and what they say is summed up: each adds at
most two signals, and the verdict is a ladder on the sum. So the verdict does not depend on the
order of the sources and never sinks when one says more (`merged_reputation`). What a source
does not say adds nothing, and a lookup that no source answered is a clean one, which the cache
keeps (`failsClosed_iff`).
-/

namespace AlertTriage

open Library

/-! ## §1  Source results -/

inductive IntelSource where
  | virustotal
  | abuseipdb
  | otx
deriving DecidableEq, Repr

def IntelSource.name : IntelSource → String
  | .virustotal => "virustotal"
  | .abuseipdb => "abuseipdb"
  | .otx => "otx"

/-- The dict of one source, with the keys that are read of it; each may be missing. -/
structure SourceResult where
  source : IntelSource
  skipped : Option Bool := none
  reason : Option String := none
  error : Option String := none
  found : Option Bool := none
  ioc : Option String := none
  maliciousVotes : Option ℤ := none
  totalEngines : Option ℤ := none
  abuseConfidenceScore : Option ℤ := none
  totalReports : Option ℤ := none
  pulseCount : Option ℤ := none
deriving DecidableEq, Repr

def SourceResult.fields (r : SourceResult) : Params :=
  let present (key : String) (value : Option Json) : Params := value.toList.map fun j => (key, j)
  [("source", .str r.source.name)] ++ present "skipped" (r.skipped.map .bool) ++
    present "reason" (r.reason.map .str) ++ present "error" (r.error.map .str) ++
    present "found" (r.found.map .bool) ++ present "ioc" (r.ioc.map .str) ++
    present "malicious_votes" (r.maliciousVotes.map .int) ++
    present "total_engines" (r.totalEngines.map .int) ++
    present "abuse_confidence_score" (r.abuseConfidenceScore.map .int) ++
    present "total_reports" (r.totalReports.map .int) ++
    present "pulse_count" (r.pulseCount.map .int)

/-! ## §2  `_merge_verdicts` -/

/-- `if x >= hi: 2 elif x >= lo: 1`. -/
def ladder (lo hi x : ℤ) : ℕ := if hi ≤ x then 2 else if lo ≤ x then 1 else 0

/-- `r.get("skipped") or r.get("error")`: an empty error is none. -/
def SourceResult.isSilent (r : SourceResult) : Bool :=
  r.skipped == some true || r.error.any (· != "")

/-- The signals and details so far, and a further result. -/
def mergeStep (acc : ℕ × List String) (r : SourceResult) : ℕ × List String :=
  if r.isSilent then acc
  else if r.found != some true then (acc.1, acc.2 ++ [r.source.name ++ ": not found"])
  else
    match r.source with
    | .virustotal =>
        let mal := r.maliciousVotes.getD 0
        let total := r.totalEngines.getD 1
        (acc.1 + ladder 1 3 mal,
          acc.2 ++ ["VT: " ++ toString mal ++ "/" ++ toString total ++ " engines flagged"])
    | .abuseipdb =>
        let score := r.abuseConfidenceScore.getD 0
        (acc.1 + ladder 30 80 score,
          acc.2 ++ ["AbuseIPDB: " ++ toString score ++ "% confidence, " ++
            (r.totalReports.map toString).getD "None" ++ " reports"])
    | .otx =>
        let pulses := r.pulseCount.getD 0
        (acc.1 + ladder 1 5 pulses, acc.2 ++ ["OTX: " ++ toString pulses ++ " threat pulses"])

inductive Reputation where
  | clean
  | lowRisk
  | suspicious
  | confirmedMalicious
deriving DecidableEq, Repr

namespace Reputation

def text : Reputation → String
  | .clean => "CLEAN"
  | .lowRisk => "LOW_RISK"
  | .suspicious => "SUSPICIOUS"
  | .confirmedMalicious => "CONFIRMED_MALICIOUS"

def rank : Reputation → ℕ
  | .clean => 0
  | .lowRisk => 1
  | .suspicious => 2
  | .confirmedMalicious => 3

def ofSignals (signals : ℕ) : Reputation :=
  if 4 ≤ signals then .confirmedMalicious
  else if 2 ≤ signals then .suspicious
  else if 1 ≤ signals then .lowRisk
  else .clean

end Reputation

structure MergedVerdict where
  ioc : String
  verdict : Reputation
  maliciousSignalCount : ℕ
  detail : String
  rawSources : List SourceResult
deriving DecidableEq, Repr

/-- `_merge_verdicts`. -/
def mergeVerdicts (results : List SourceResult) (iocValue : String) : MergedVerdict :=
  let merged := results.foldl mergeStep (0, [])
  let detail := " | ".intercalate merged.2
  { ioc := iocValue
    verdict := .ofSignals merged.1
    maliciousSignalCount := merged.1
    detail := if detail = "" then "No data from any source" else detail
    rawSources := results }

/-- The dict, with the time that the lookup took. -/
def MergedVerdict.fields (m : MergedVerdict) (elapsedMs : ℤ) : Params :=
  [("ioc", .str m.ioc), ("verdict", .str m.verdict.text),
    ("malicious_signal_count", .int m.maliciousSignalCount), ("detail", .str m.detail),
    ("raw_sources", .arr (m.rawSources.map fun r => .obj r.fields)),
    ("elapsed_ms", .int elapsedMs)]

/-! ## §3  Signals -/

/-- What a result adds to the signals. -/
def SourceResult.signal (r : SourceResult) : ℕ :=
  if r.isSilent || r.found != some true then 0
  else
    match r.source with
    | .virustotal => ladder 1 3 (r.maliciousVotes.getD 0)
    | .abuseipdb => ladder 30 80 (r.abuseConfidenceScore.getD 0)
    | .otx => ladder 1 5 (r.pulseCount.getD 0)

theorem mergeStep_signals (acc : ℕ × List String) (r : SourceResult) :
    (mergeStep acc r).1 = acc.1 + r.signal := by
  unfold mergeStep SourceResult.signal
  cases r.isSilent with
  | true => rfl
  | false =>
      cases r.found != some true with
      | true => rfl
      | false => cases r.source <;> rfl

/-- The loop adds up the signals. -/
theorem signalCount_eq (results : List SourceResult) (iocValue : String) :
    (mergeVerdicts results iocValue).maliciousSignalCount =
      (results.map SourceResult.signal).sum := by
  have hfold : ∀ acc : ℕ × List String,
      (results.foldl mergeStep acc).1 = acc.1 + (results.map SourceResult.signal).sum := by
    induction results with
    | nil => exact fun acc => (Nat.add_zero _).symm
    | cons r results ih =>
        intro acc
        rw [List.foldl_cons, ih, mergeStep_signals, List.map_cons, List.sum_cons, Nat.add_assoc]
  exact (hfold (0, [])).trans (Nat.zero_add _)

theorem verdict_eq (results : List SourceResult) (iocValue : String) :
    (mergeVerdicts results iocValue).verdict =
      .ofSignals (results.map SourceResult.signal).sum :=
  congrArg Reputation.ofSignals (signalCount_eq results iocValue)

theorem ladder_mono {lo hi x y : ℤ} (h : x ≤ y) : ladder lo hi x ≤ ladder lo hi y := by
  unfold ladder
  split_ifs <;> omega

theorem ladder_le_two (lo hi x : ℤ) : ladder lo hi x ≤ 2 := by
  unfold ladder
  split_ifs <;> omega

theorem signal_le_two (r : SourceResult) : r.signal ≤ 2 := by
  unfold SourceResult.signal
  split
  · exact Nat.zero_le 2
  · split <;> exact ladder_le_two _ _ _

theorem rank_mono {m n : ℕ} (h : m ≤ n) :
    (Reputation.ofSignals m).rank ≤ (Reputation.ofSignals n).rank := by
  unfold Reputation.ofSignals
  split_ifs <;> first | omega | decide

/-! ## §4  Order and growth -/

/-- The same outcome of the same source, with nothing that counts lowered. -/
structure SourceResult.Raises (r r' : SourceResult) : Prop where
  source : r'.source = r.source
  skipped : r'.skipped = r.skipped
  error : r'.error = r.error
  found : r'.found = r.found
  maliciousVotes : r.maliciousVotes.getD 0 ≤ r'.maliciousVotes.getD 0
  abuseConfidenceScore : r.abuseConfidenceScore.getD 0 ≤ r'.abuseConfidenceScore.getD 0
  pulseCount : r.pulseCount.getD 0 ≤ r'.pulseCount.getD 0

theorem signal_mono {r r' : SourceResult} (h : r.Raises r') : r.signal ≤ r'.signal := by
  have hsilent : r'.isSilent = r.isSilent := by
    unfold SourceResult.isSilent
    rw [h.skipped, h.error]
  unfold SourceResult.signal
  rw [hsilent, h.found, h.source]
  split
  · exact Nat.le_refl 0
  · cases r.source with
    | virustotal => exact ladder_mono h.maliciousVotes
    | abuseipdb => exact ladder_mono h.abuseConfidenceScore
    | otx => exact ladder_mono h.pulseCount

/-- Neither the count nor the rank of the verdict is higher. -/
def MergedVerdict.AtMost (m m' : MergedVerdict) : Prop :=
  m.maliciousSignalCount ≤ m'.maliciousSignalCount ∧ m.verdict.rank ≤ m'.verdict.rank

theorem merge_atMost {results results' : List SourceResult} {iocValue : String}
    (h : (results.map SourceResult.signal).sum ≤ (results'.map SourceResult.signal).sum) :
    (mergeVerdicts results iocValue).AtMost (mergeVerdicts results' iocValue) := by
  unfold MergedVerdict.AtMost
  rw [signalCount_eq, signalCount_eq, verdict_eq, verdict_eq]
  exact ⟨h, rank_mono h⟩

/-- Results of different sources of which only one source sees anything. -/
theorem sum_le_two {results : List SourceResult}
    (hnodup : (results.map SourceResult.source).Nodup)
    (hone : ∀ r ∈ results, ∀ r' ∈ results, 1 ≤ r.signal → 1 ≤ r'.signal →
      r.source = r'.source) : (results.map SourceResult.signal).sum ≤ 2 := by
  induction results with
  | nil => exact Nat.zero_le 2
  | cons r results ih =>
      obtain ⟨hnew, hnodup⟩ := List.nodup_cons.mp hnodup
      rw [List.map_cons, List.sum_cons]
      by_cases hsignal : 1 ≤ r.signal
      · -- any other result with a signal would be of the same source
        have hzero : (results.map SourceResult.signal).sum = 0 := by
          refine List.sum_eq_zero fun n hn => ?_
          obtain ⟨r', hr', rfl⟩ := List.mem_map.mp hn
          by_contra hpos
          have hsame := hone r List.mem_cons_self r' (List.mem_cons_of_mem r hr') hsignal
            (Nat.one_le_iff_ne_zero.mpr hpos)
          exact hnew (List.mem_map.mpr ⟨r', hr', hsame.symm⟩)
        have htwo := signal_le_two r
        omega
      · have hrest := ih hnodup fun s hs s' hs' =>
          hone s (List.mem_cons_of_mem r hs) s' (List.mem_cons_of_mem r hs')
        omega

/-- **Merged reputation** does not depend on the order of the results, does not sink when one
says more or another comes in, and is confirmed only by two sources. -/
theorem merged_reputation (results : List SourceResult) (iocValue : String) :
    (∀ results', results.Perm results' →
      (mergeVerdicts results' iocValue).verdict = (mergeVerdicts results iocValue).verdict ∧
        (mergeVerdicts results' iocValue).maliciousSignalCount =
          (mergeVerdicts results iocValue).maliciousSignalCount) ∧
    (∀ results', List.Forall₂ SourceResult.Raises results results' →
      (mergeVerdicts results iocValue).AtMost (mergeVerdicts results' iocValue)) ∧
    (∀ results', results.Sublist results' →
      (mergeVerdicts results iocValue).AtMost (mergeVerdicts results' iocValue)) ∧
    ((results.map SourceResult.source).Nodup →
      (mergeVerdicts results iocValue).verdict = .confirmedMalicious →
        ∃ r ∈ results, ∃ r' ∈ results, 1 ≤ r.signal ∧ 1 ≤ r'.signal ∧
          r.source ≠ r'.source) := by
  refine ⟨fun results' h => ?_, fun results' h => ?_, fun results' h => ?_, fun hnodup h => ?_⟩
  · have hsum := (h.map SourceResult.signal).sum_eq
    rw [verdict_eq, verdict_eq, signalCount_eq, signalCount_eq, hsum]
    exact ⟨rfl, rfl⟩
  · apply merge_atMost
    induction h with
    | nil => exact Nat.le_refl 0
    | cons hr _ ih =>
        rw [List.map_cons, List.map_cons, List.sum_cons, List.sum_cons]
        exact Nat.add_le_add (signal_mono hr) ih
  · exact merge_atMost ((h.map _).sum_le_sum fun _ _ => Nat.zero_le _)
  · rw [verdict_eq] at h
    by_contra hnone
    push Not at hnone
    have htwo := sum_le_two hnodup hnone
    have hfour : 4 ≤ (results.map SourceResult.signal).sum := by
      unfold Reputation.ofSignals at h
      split_ifs at h
      assumption
    omega

/-! ## §5  The lookup -/

/-- How an exchange with a source ends: `absent` is the status by which it says that it does not
know the indicator. -/
inductive Reply (α : Type) where
  | timeout
  | raised (text : String)
  | absent
  | data (d : α)

def Reply.answers {α : Type} : Reply α → Bool
  | .timeout => false
  | .raised _ => false
  | .absent => true
  | .data _ => true

structure VirusTotalStats where
  malicious : ℤ
  total : ℤ

structure AbuseReport where
  confidence : ℤ
  reports : ℤ

/-- The API keys; an empty one is missing. -/
structure IntelKeys where
  virustotal : String
  abuseipdb : String
  otx : String

/-- How the exchanges of a lookup end; `pulses` is all that is read of the data of OTX. -/
structure IntelReplies where
  virustotal : Reply VirusTotalStats
  abuseipdb : Reply AbuseReport
  otx : Reply ℤ

structure ThreatIntelParams where
  iocType : String
  iocValue : String
  sources : List IntelSource

def skippedResult (source : IntelSource) (reason : String) : SourceResult :=
  { source, skipped := some true, reason := some reason }

def failedResult (source : IntelSource) (text iocValue : String) : SourceResult :=
  { source, error := some text, ioc := some iocValue }

/-- The indicators that VirusTotal and OTX have a path for. -/
def supportedTypes : List String := ["ip", "domain", "hash_sha256", "hash_md5", "url"]

/-- `_query_virustotal`. -/
def queryVirustotal (iocType iocValue apiKey : String) (reply : Reply VirusTotalStats) :
    SourceResult :=
  if apiKey = "" then skippedResult .virustotal "no_api_key"
  else if iocType ∉ supportedTypes then skippedResult .virustotal "unsupported_type"
  else
    match reply with
    | .timeout => failedResult .virustotal "timeout" iocValue
    | .raised text => failedResult .virustotal text iocValue
    | .absent => { source := .virustotal, found := some false, ioc := some iocValue }
    | .data d =>
        { source := .virustotal, found := some true, ioc := some iocValue
          maliciousVotes := some d.malicious, totalEngines := some d.total }

/-- `_query_abuseipdb`. -/
def queryAbuseipdb (iocValue apiKey : String) (reply : Reply AbuseReport) : SourceResult :=
  if apiKey = "" then skippedResult .abuseipdb "no_api_key"
  else
    match reply with
    | .timeout => failedResult .abuseipdb "timeout" iocValue
    | .raised text => failedResult .abuseipdb text iocValue
    | .absent => { source := .abuseipdb, found := some false, reason := some "not_an_ip" }
    | .data d =>
        { source := .abuseipdb, found := some true, ioc := some iocValue
          abuseConfidenceScore := some d.confidence, totalReports := some d.reports }

/-- `_query_otx`. -/
def queryOtx (iocType iocValue apiKey : String) (reply : Reply ℤ) : SourceResult :=
  if apiKey = "" then skippedResult .otx "no_api_key"
  else if iocType ∉ supportedTypes then skippedResult .otx "unsupported_type"
  else
    match reply with
    | .timeout => failedResult .otx "timeout" iocValue
    | .raised text => failedResult .otx text iocValue
    | .absent => { source := .otx, found := some false, ioc := some iocValue }
    | .data pulses =>
        { source := .otx, found := some true, ioc := some iocValue, pulseCount := some pulses }

/-- The results that are gathered, in order. -/
def sourceResults (keys : IntelKeys) (params : ThreatIntelParams) (replies : IntelReplies) :
    List SourceResult :=
  (if .virustotal ∈ params.sources then
    [queryVirustotal params.iocType params.iocValue keys.virustotal replies.virustotal] else []) ++
  (if .abuseipdb ∈ params.sources ∧ params.iocType = "ip" then
    [queryAbuseipdb params.iocValue keys.abuseipdb replies.abuseipdb] else []) ++
  (if .otx ∈ params.sources then
    [queryOtx params.iocType params.iocValue keys.otx replies.otx] else [])

/-- `threat_intel_lookup_async`. -/
def threatIntelLookup (keys : IntelKeys) (params : ThreatIntelParams) (replies : IntelReplies) :
    MergedVerdict :=
  mergeVerdicts (sourceResults keys params replies) params.iocValue

/-- `result.get("source_available", True) and not result.get("error")`. -/
def cacheable (result : Params) : Bool :=
  (getOr result "source_available" (.bool true)).truthy && !(get result "error").truthy

/-- What `_execute_single_tool` puts into the cache. -/
def storedResult (toolName : String) (answer : ToolAnswer) : Option Params :=
  if (answer.cached.filter Json.truthy).isSome || toolName ∉ toolRegistry then none
  else some answer.outcome.toResult |>.filter cacheable

/-! ## §6  Lookups that no source answers -/

variable {keys : IntelKeys} {params : ThreatIntelParams} {replies : IntelReplies}

/-- A source that is asked answers, with data or that it knows none. -/
def Answered (keys : IntelKeys) (params : ThreatIntelParams) (replies : IntelReplies) : Prop :=
  (.virustotal ∈ params.sources ∧ keys.virustotal ≠ "" ∧ params.iocType ∈ supportedTypes ∧
    replies.virustotal.answers = true) ∨
  (.abuseipdb ∈ params.sources ∧ params.iocType = "ip" ∧ keys.abuseipdb ≠ "" ∧
    replies.abuseipdb.answers = true) ∨
  (.otx ∈ params.sources ∧ keys.otx ≠ "" ∧ params.iocType ∈ supportedTypes ∧
    replies.otx.answers = true)

instance : Decidable (Answered keys params replies) := inferInstanceAs (Decidable (_ ∨ _ ∨ _))

/-- A clean verdict was answered, and what was not answered is not put into the cache. -/
structure FailsClosed (keys : IntelKeys) (params : ThreatIntelParams) (replies : IntelReplies)
    (elapsedMs : ℤ) : Prop where
  clean : (threatIntelLookup keys params replies).verdict = .clean → Answered keys params replies
  unstored : ¬ Answered keys params replies →
    storedResult "lookup_threat_intel"
      ⟨none, .result ((threatIntelLookup keys params replies).fields elapsedMs)⟩ = none

/-- A result without data adds nothing. -/
theorem signal_of_not_found {r : SourceResult} (h : r.found ≠ some true) : r.signal = 0 := by
  have hfound : (r.found != some true) = true := bne_iff_ne.mpr h
  exact if_pos (Bool.or_eq_true_iff.mpr (.inr hfound))

theorem answered_of_virustotal {iocType iocValue apiKey : String}
    {reply : Reply VirusTotalStats}
    (h : (queryVirustotal iocType iocValue apiKey reply).found = some true) :
    apiKey ≠ "" ∧ iocType ∈ supportedTypes ∧ reply.answers = true := by
  unfold queryVirustotal at h
  split_ifs at h with hkey htype
  · cases h
  · refine ⟨hkey, htype, ?_⟩
    cases reply with
    | data d => rfl
    | absent => rfl
    | _ => cases h
  · cases h

theorem answered_of_abuseipdb {iocValue apiKey : String} {reply : Reply AbuseReport}
    (h : (queryAbuseipdb iocValue apiKey reply).found = some true) :
    apiKey ≠ "" ∧ reply.answers = true := by
  unfold queryAbuseipdb at h
  split_ifs at h with hkey
  · cases h
  · refine ⟨hkey, ?_⟩
    cases reply with
    | data d => rfl
    | absent => rfl
    | _ => cases h

theorem answered_of_otx {iocType iocValue apiKey : String} {reply : Reply ℤ}
    (h : (queryOtx iocType iocValue apiKey reply).found = some true) :
    apiKey ≠ "" ∧ iocType ∈ supportedTypes ∧ reply.answers = true := by
  unfold queryOtx at h
  split_ifs at h with hkey htype
  · cases h
  · refine ⟨hkey, htype, ?_⟩
    cases reply with
    | data d => rfl
    | absent => rfl
    | _ => cases h
  · cases h

/-- Where no source answers nothing is found. -/
theorem not_found_of_unanswered (h : ¬ Answered keys params replies) :
    ∀ r ∈ sourceResults keys params replies, r.found ≠ some true := by
  have hasked {P : Prop} [Decidable P] {q r : SourceResult} (hr : r ∈ if P then [q] else []) :
      P ∧ r = q := by
    split_ifs at hr with hP
    · exact ⟨hP, List.mem_singleton.mp hr⟩
    · cases hr
  intro r hr hfound
  apply h
  rcases List.mem_append.mp hr with hr | hr
  · rcases List.mem_append.mp hr with hr | hr
    · obtain ⟨hsource, rfl⟩ := hasked hr
      exact .inl ⟨hsource, answered_of_virustotal hfound⟩
    · obtain ⟨⟨hsource, htype⟩, rfl⟩ := hasked hr
      exact .inr (.inl ⟨hsource, htype, answered_of_abuseipdb hfound⟩)
  · obtain ⟨hsource, rfl⟩ := hasked hr
    exact .inr (.inr ⟨hsource, answered_of_otx hfound⟩)

/-- **Failing open**: the verdict is clean where no source answers. -/
theorem clean_of_unanswered (h : ¬ Answered keys params replies) :
    (threatIntelLookup keys params replies).verdict = .clean := by
  have hsum : ((sourceResults keys params replies).map SourceResult.signal).sum = 0 := by
    refine List.sum_eq_zero fun n hn => ?_
    obtain ⟨r, hr, rfl⟩ := List.mem_map.mp hn
    exact signal_of_not_found (not_found_of_unanswered h r hr)
  unfold threatIntelLookup
  rw [verdict_eq, hsum]
  rfl

/-- A lookup that ends is put into the cache, whatever it found. -/
theorem stored_lookup (m : MergedVerdict) (elapsedMs : ℤ) :
    storedResult "lookup_threat_intel" ⟨none, .result (m.fields elapsedMs)⟩ =
      some (m.fields elapsedMs) := rfl

/-- **Threat intelligence** fails closed exactly when a source that is asked answers. -/
theorem failsClosed_iff (keys : IntelKeys) (params : ThreatIntelParams) (replies : IntelReplies)
    (elapsedMs : ℤ) :
    FailsClosed keys params replies elapsedMs ↔ Answered keys params replies := by
  constructor
  · intro h
    by_contra hanswered
    exact hanswered (h.clean (clean_of_unanswered hanswered))
  · intro h
    exact ⟨fun _ => h, fun hanswered => absurd h hanswered⟩

/-- A lookup without API keys. -/
def keyless : IntelKeys := ⟨"", "", ""⟩

theorem keyless_fails_open :
    ¬ ∀ (keys : IntelKeys) (params : ThreatIntelParams) (replies : IntelReplies)
      (elapsedMs : ℤ), FailsClosed keys params replies elapsedMs := by
  intro h
  have hclosed := h keyless ⟨"ip", "185.220.101.45", [.virustotal, .abuseipdb, .otx]⟩
    ⟨.timeout, .timeout, .timeout⟩ 12
  have hstored := hclosed.unstored (by decide)
  rw [stored_lookup] at hstored
  cases hstored

end AlertTriage
