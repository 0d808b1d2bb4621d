import AlertTriage.Pipeline.Enrichment
import AlertTriage.Pipeline.ToolRouting

/-!
# The input schemas of `agents/tools`

What each registered tool takes, and that the parameters which the burst builds for it are
among that (`burst_params_fit`): the query types are known ones, and the time windows of the
routing table lie within the bounds of every tool.
-/

namespace AlertTriage

open Library

/-! ## §1  Schemas -/

/-- The type of a field, with the bounds of a number. -/
inductive FieldType where
  | text
  | textOrNull
  | literal (values : List String)
  | literals (values : List String)
  | int (least most : Option ℤ)
deriving DecidableEq, Repr

/-- An integer for a number field, which is also read from a bool, an integral fraction and
text. -/
def schemaInt? : Json → Option ℤ
  | .int i => some i
  | .bool b => some (if b then 1 else 0)
  | .float m (.ofNat k) => some (m * 10 ^ k)
  | .float m (.negSucc k) =>
      if m % 10 ^ (k + 1) = 0 then some (m / 10 ^ (k + 1)) else none
  | .str s => pyInt (.str s)
  | _ => none

/-- One of the values of a `Literal`. -/
def isLiteral (values : List String) : Json → Bool
  | .str s => decide (s ∈ values)
  | _ => false

def FieldType.accepts : FieldType → Json → Bool
  | .text, .str _ => true
  | .textOrNull, .null => true
  | .textOrNull, .str _ => true
  | .literal values, value => isLiteral values value
  | .literals values, .arr items => items.all (isLiteral values)
  | .int least most, value =>
      (schemaInt? value).any fun i =>
        least.all (fun bound => decide (bound ≤ i)) && most.all fun bound => decide (i ≤ bound)
  | _, _ => false

structure SchemaField where
  name : String
  type : FieldType
  required : Bool
deriving DecidableEq, Repr

abbrev InputSchema := List SchemaField

/-- `schema_cls(**params)` does not raise: what is given is accepted, and what is required is
given. Other keys are ignored. -/
def InputSchema.validates (schema : InputSchema) (params : Params) : Bool :=
  schema.all fun field =>
    match Json.lookup field.name params with
    | some value => field.type.accepts value
    | none => !field.required

/-- An optional text. -/
def optionalField (name : String) : SchemaField := ⟨name, .textOrNull, false⟩

/-- `hours_back`, at most so many. -/
def hoursField (most : ℤ) : SchemaField := ⟨"hours_back", .int (some 1) (some most), false⟩

/-- A required choice. -/
def choiceField (name : String) (values : List String) : SchemaField :=
  ⟨name, .literal values, true⟩

def splunkQueryInput : InputSchema :=
  [choiceField "query_type"
      ["process_by_host", "auth_events_by_user", "network_by_ip", "dns_tunneling",
        "scheduled_tasks", "shadow_copy_deletion", "file_rename_burst", "raw_spl"],
    optionalField "hostname", optionalField "username", optionalField "ip_address",
    hoursField 8760, optionalField "raw_spl",
    ⟨"max_results", .int (some 1) (some 1000), false⟩]

def crowdStrikeInput : InputSchema :=
  [choiceField "query_type"
      ["detections_by_host", "process_tree", "device_info", "ioc_lookup", "alerts_by_host",
        "incidents_by_host"],
    optionalField "hostname", optionalField "device_id", optionalField "process_id",
    optionalField "ioc_value",
    ⟨"ioc_type", .literal ["sha256", "md5", "ipv4", "domain"], false⟩, hoursField 2160]

def threatIntelInput : InputSchema :=
  [choiceField "ioc_type" ["ip", "domain", "hash_sha256", "hash_md5", "url"],
    ⟨"ioc_value", .text, true⟩,
    ⟨"sources", .literals ["virustotal", "abuseipdb", "otx"], false⟩]

def awsQueryInput : InputSchema :=
  [choiceField "query_type"
      ["cloudtrail_by_user", "iam_policy_changes", "guardduty_findings",
        "assume_role_events"],
    optionalField "username", optionalField "account_id", optionalField "region",
    hoursField 8760]

def cmdbInput : InputSchema :=
  [choiceField "lookup_type" ["by_hostname", "by_ip", "by_owner"],
    optionalField "hostname", optionalField "ip_address", optionalField "owner"]

def netFlowInput : InputSchema :=
  [choiceField "query_type"
      ["dns_entropy_analysis", "beacon_detection", "top_talkers", "exfil_volume",
        "port_scan_detection"],
    optionalField "src_ip", optionalField "dst_ip", optionalField "hostname",
    hoursField 8760, ⟨"threshold_bytes", .int none none, false⟩]

def backupQueryInput : InputSchema :=
  [choiceField "query_type"
      ["shadow_copy_status", "backup_job_history", "recovery_point_availability"],
    optionalField "hostname", hoursField 720]

def vulnCheckInput : InputSchema := [⟨"cve_id", .text, true⟩]

/-- The schemas in `_TOOL_REGISTRY`. -/
def toolSchemas : List (String × InputSchema) :=
  [("query_splunk", splunkQueryInput), ("query_crowdstrike", crowdStrikeInput),
    ("lookup_threat_intel", threatIntelInput), ("query_aws", awsQueryInput),
    ("query_cmdb", cmdbInput), ("query_netflow", netFlowInput),
    ("query_dns_logs", netFlowInput), ("query_backup_systems", backupQueryInput),
    ("lookup_vulncheck", vulnCheckInput)]

example : toolSchemas.map Prod.fst = toolRegistry := rfl

/-! ## §2  What the builders write -/

@[simp] theorem accepts_text (s : String) : FieldType.text.accepts (.str s) = true := rfl

@[simp] theorem accepts_textOrNull (s : String) :
    FieldType.textOrNull.accepts (.str s) = true := rfl

@[simp] theorem accepts_literal (values : List String) (s : String) :
    (FieldType.literal values).accepts (.str s) = decide (s ∈ values) := rfl

@[simp] theorem accepts_optionalText (o : Option String) :
    FieldType.textOrNull.accepts (optionalText o) = true := by
  cases o <;> rfl

@[simp] theorem accepts_primaryHostname (alert : NormalizedAlert)
    (entities : ExtractedEntities) :
    FieldType.textOrNull.accepts (primaryHostname alert entities) = true := by
  unfold primaryHostname
  split
  · rfl
  · exact accepts_optionalText _

@[simp] theorem accepts_primaryUsername (entities : ExtractedEntities) :
    FieldType.textOrNull.accepts (primaryUsername entities) = true :=
  accepts_optionalText _

/-- The windows of the table lie between an hour and ninety days. -/
theorem window_bounds (techniqueId : String) :
    1 ≤ (getTimeWindow techniqueId).hours ∧ (getTimeWindow techniqueId).hours ≤ 2160 := by
  apply routed_of_table (P := fun entry =>
    1 ≤ entry.timeWindow.hours ∧ entry.timeWindow.hours ≤ 2160)
  · decide
  · decide

/-- So every tool that takes a window takes these. -/
theorem accepts_hours (techniqueId : String) {most : ℤ} (h : 2160 ≤ most) :
    (FieldType.int (some 1) (some most)).accepts (.int (getTimeWindow techniqueId).hours) =
      true := by
  obtain ⟨hleast, hmost⟩ := window_bounds techniqueId
  simp [FieldType.accepts, schemaInt?]
  omega

/-- What a builder writes is valid, not empty, and has the window of the technique if it has
any. -/
structure Fits (schema : InputSchema) (techniqueId : String) (params : Params) : Prop where
  valid : schema.validates params = true
  nonempty : params ≠ []
  window : ∀ value, Json.lookup "hours_back" params = some value →
    value = .int (getTimeWindow techniqueId).hours

/-- The builder's parameters fit, whatever it is given. -/
def BuilderFits (schema : InputSchema) (builder : ParamBuilder) : Prop :=
  ∀ alert entities techniqueId params, builder alert entities techniqueId = some params →
    Fits schema techniqueId params

/-- What every Splunk query is: a type, at most one name to look for, and the window. -/
theorem splunkQuery_fits (alert : NormalizedAlert) (entities : ExtractedEntities)
    (techniqueId : String) {queryType : String} (name : Params)
    (hquery : queryType ∈ ["process_by_host", "auth_events_by_user", "network_by_ip",
      "dns_tunneling", "scheduled_tasks", "shadow_copy_deletion", "file_rename_burst",
      "raw_spl"])
    (hname : name = [] ∨ name = [("hostname", primaryHostname alert entities)] ∨
      name = [("username", primaryUsername entities)]) :
    Fits splunkQueryInput techniqueId
      (("query_type", .str queryType) :: (name ++ [hoursBack techniqueId])) := by
  have hhours := @accepts_hours techniqueId 8760 (by decide)
  have htype := (accepts_literal _ queryType).trans (decide_eq_true hquery)
  rcases hname with rfl | rfl | rfl
  all_goals
    constructor
    · simp [InputSchema.validates, splunkQueryInput, choiceField, optionalField, hoursField,
        hoursBack, Json.lookup, hhours, htype, -accepts_literal]
    · simp
    · simp [hoursBack, Json.lookup]

theorem splunk_fits : BuilderFits splunkQueryInput buildSplunkParams := by
  intro alert entities techniqueId params h
  unfold buildSplunkParams at h
  dsimp only at h
  split at h
  · obtain rfl := Option.some.inj h
    exact splunkQuery_fits alert entities techniqueId [_] (by simp)
      (.inr (.inr rfl))
  split at h
  · obtain rfl := Option.some.inj h
    exact splunkQuery_fits alert entities techniqueId []
      (by simp) (.inl rfl)
  split at h
  · obtain rfl := Option.some.inj h
    exact splunkQuery_fits alert entities techniqueId [_] (by simp) (.inr (.inl rfl))
  split at h
  · obtain rfl := Option.some.inj h
    exact splunkQuery_fits alert entities techniqueId [_] (by simp) (.inr (.inl rfl))
  · obtain rfl := Option.some.inj h
    exact splunkQuery_fits alert entities techniqueId [_] (by simp) (.inr (.inl rfl))

theorem crowdstrike_fits : BuilderFits crowdStrikeInput buildCrowdstrikeParams := by
  intro alert entities techniqueId params h
  have hhours := @accepts_hours techniqueId 2160 (by decide)
  obtain rfl := Option.some.inj h
  constructor
  · simp [InputSchema.validates, crowdStrikeInput, choiceField, optionalField, hoursField,
      hoursBack, Json.lookup, hhours]
  · simp
  · simp [hoursBack, Json.lookup]

/-- A lookup of an indicator of a known type. -/
theorem threatIntelLookup_fits (techniqueId : String) {type : String} (value : String)
    (htype : type = "hash_sha256" ∨ type = "ip") :
    Fits threatIntelInput techniqueId [("ioc_type", .str type), ("ioc_value", .str value)] := by
  rcases htype with rfl | rfl
  all_goals
    constructor
    · simp [InputSchema.validates, threatIntelInput, choiceField, Json.lookup]
    · simp
    · simp [Json.lookup]

theorem threatIntel_fits : BuilderFits threatIntelInput buildThreatIntelParams := by
  intro alert entities techniqueId params h
  unfold buildThreatIntelParams at h
  split at h
  · rename_i ioc hfound
    obtain rfl := Option.some.inj h
    have htype := List.find?_some hfound
    rw [Bool.or_eq_true, beq_iff_eq, beq_iff_eq] at htype
    exact threatIntelLookup_fits techniqueId ioc.value htype
  · obtain ⟨ip, -, rfl⟩ := Option.map_eq_some_iff.mp h
    exact threatIntelLookup_fits techniqueId ip (.inr rfl)

theorem aws_fits : BuilderFits awsQueryInput buildAwsParams := by
  intro alert entities techniqueId params h
  have hhours := @accepts_hours techniqueId 8760 (by decide)
  obtain rfl := Option.some.inj h
  constructor
  · simp [InputSchema.validates, awsQueryInput, choiceField, optionalField, hoursField,
      hoursBack, Json.lookup, hhours]
  · simp
  · simp [hoursBack, Json.lookup]

theorem cmdb_fits : BuilderFits cmdbInput buildCmdbParams := by
  intro alert entities techniqueId params h
  unfold buildCmdbParams at h
  dsimp only at h
  split at h
  on_goal 2 => split at h
  all_goals
    obtain rfl := Option.some.inj h
    constructor
    · simp [InputSchema.validates, cmdbInput, choiceField, optionalField, Json.lookup]
    · simp
    · simp [Json.lookup]

theorem netflow_fits : BuilderFits netFlowInput buildNetflowParams := by
  intro alert entities techniqueId params h
  have hhours := @accepts_hours techniqueId 8760 (by decide)
  unfold buildNetflowParams at h
  dsimp only at h
  split at h
  on_goal 2 => split at h
  all_goals
    obtain rfl := Option.some.inj h
    constructor
    · simp [InputSchema.validates, netFlowInput, choiceField, optionalField, hoursField,
        hoursBack, Json.lookup, hhours]
    · simp
    · simp [hoursBack, Json.lookup]

theorem backup_fits : BuilderFits backupQueryInput buildBackupParams := by
  intro alert entities techniqueId params h
  obtain rfl := Option.some.inj h
  constructor
  · simp [InputSchema.validates, backupQueryInput, choiceField, optionalField, hoursField,
      Json.lookup]
  · simp
  · simp [Json.lookup]

theorem vulncheck_fits (isDecimalUnicode : Char → Bool) :
    BuilderFits vulnCheckInput (buildVulncheckParams isDecimalUnicode) := by
  intro alert entities techniqueId params h
  obtain ⟨cve, -, rfl⟩ := Option.map_eq_some_iff.mp h
  constructor
  · simp [InputSchema.validates, vulnCheckInput, Json.lookup]
  · simp
  · simp [Json.lookup]

/-! ## §3  The burst -/

/-- Every builder fits the schema that is registered for its tool. -/
theorem builders_fit {isDecimalUnicode : Char → Bool} {toolName : String}
    {builder : ParamBuilder}
    (h : (paramBuilders isDecimalUnicode).lookup toolName = some builder) :
    ∃ schema, toolSchemas.lookup toolName = some schema ∧ BuilderFits schema builder := by
  obtain ⟨before, after, hsplit, -⟩ := List.lookup_eq_some_iff.mp h
  have hmem : (toolName, builder) ∈ paramBuilders isDecimalUnicode := by
    rw [hsplit]
    simp
  simp only [paramBuilders, List.mem_cons, List.not_mem_nil, or_false, Prod.mk.injEq] at hmem
  rcases hmem with ⟨rfl, rfl⟩ | ⟨rfl, rfl⟩ | ⟨rfl, rfl⟩ | ⟨rfl, rfl⟩ | ⟨rfl, rfl⟩ |
    ⟨rfl, rfl⟩ | ⟨rfl, rfl⟩ | ⟨rfl, rfl⟩ | ⟨rfl, rfl⟩
  · exact ⟨_, rfl, splunk_fits⟩
  · exact ⟨_, rfl, crowdstrike_fits⟩
  · exact ⟨_, rfl, threatIntel_fits⟩
  · exact ⟨_, rfl, aws_fits⟩
  · exact ⟨_, rfl, cmdb_fits⟩
  · exact ⟨_, rfl, netflow_fits⟩
  · exact ⟨_, rfl, netflow_fits⟩
  · exact ⟨_, rfl, backup_fits⟩
  · exact ⟨_, rfl, vulncheck_fits isDecimalUnicode⟩

/-- The parameters fit the schema that is registered for the tool. -/
def CallFits (techniqueId : String) (call : String × Params) : Prop :=
  ∃ schema, toolSchemas.lookup call.1 = some schema ∧ Fits schema techniqueId call.2

/-- **Burst parameters fit their tool**: whatever the burst calls, the schema registered for
the tool accepts the parameters, no builder raised (it would have left none), and every
`hours_back` is the window of the first technique. -/
theorem burst_params_fit (isDecimalUnicode : Char → Bool) (alert : NormalizedAlert)
    (entities : ExtractedEntities) (techniqueId : String) (techniqueIds : List String) :
    (burstCalls isDecimalUnicode alert (some entities) (techniqueId :: techniqueIds)).Forall
      (CallFits techniqueId) := by
  rw [List.forall_iff_forall_mem]
  intro call hcall
  obtain ⟨tool, -, hbuilt⟩ := List.mem_filterMap.mp hcall
  obtain ⟨params, hparams, rfl⟩ := Option.map_eq_some_iff.mp hbuilt
  unfold burstParams at hparams
  split at hparams
  · cases hparams
  · rename_i builder hbuilder
    obtain ⟨schema, hschema, hfits⟩ := builders_fit hbuilder
    exact ⟨schema, hschema, hfits alert entities techniqueId params hparams⟩

end AlertTriage
