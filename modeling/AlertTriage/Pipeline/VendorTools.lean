import AlertTriage.Library.Base64
import AlertTriage.Library.Exchanges
import AlertTriage.Pipeline.BurstRecords
import AlertTriage.Pipeline.QueryBuilder
import AlertTriage.Pipeline.ThreatIntel
import AlertTriage.Pipeline.ToolSchemas
import AlertTriage.Runtime.BlankTenants
import Mathlib.Data.Rat.Floor

/-!
# `agents/tools`: the vendor tools

The functions in `_TOOL_REGISTRY`, from their typed parameters to the dict that they return.
Everything outside of the process is a call: an HTTP request of `httpx`, an operation of
`boto3`, the clock, the token cache of the module. A reply may be of any shape, and what
Python makes of a value of the wrong type is an exception (`iterate`, `item`, `fieldsOf`),
which each tool catches where its source does.

How long a request may take and whether certificates are checked are settings of the client,
which are left to the replies.
-/

namespace AlertTriage.Vendor

open Library Library.Async

/-! ## §1  Calls -/

/-- What a tool catches: `httpx.TimeoutException`, `ImportError` and the rest. A call that
does not come back ends in the rest, too. -/
inductive VendorExn where
  | timeout
  | importError
  | httpStatus (code : ℕ)
  | failed (text : String)
  | python (e : PyExn)
deriving DecidableEq, Repr

inductive RequestBody where
  | none
  | form (fields : Params)
  | json (body : Json)

structure HttpRequest where
  method : String
  url : String
  query : Params
  headers : List (String × String)
  auth : Option (String × String)
  body : RequestBody

/-- A response; `json` is none where the body is no JSON. -/
structure HttpResponse where
  status : ℕ
  text : String
  json : Option Json

/-- The module that a token cache is of. -/
inductive TokenOwner where
  | crowdstrike
  | servicenow
deriving DecidableEq, Repr

/-- `expires_at`: a time, or a number that no time reaches or that none is below. -/
inductive Expiry where
  | at (t : ℚ)
  | never
  | past

/-- `_token_cache`, with the keys that are there. -/
structure TokenCache where
  token : Option Json
  expiresAt : Option Expiry

structure EventLookup where
  attributeKey : String
  attributeValue : String
  startTime : String

/-- `import boto3`, and what is done with it. -/
inductive AwsCall where
  | importBoto3
  | session (accessKeyId secretAccessKey region : String)
  | client (service : String)
  | page (lookup : EventLookup) (number : ℕ)
  | listDetectors
  | listFindings (detectorId : Json)
  | getFindings (detectorId findingIds : Json)

/-- The calls of the tools. A paginator has finitely many pages, and `pageCount` is their
number; `ago` is the time so many hours ago, in a format of `datetime`. -/
inductive VendorCall where
  | http (request : HttpRequest)
  | aws (call : AwsCall)
  | pageCount (lookup : EventLookup)
  | intel (params : ThreatIntelParams)
  | sleep
  | time
  | ago (format : String) (hours : ℤ)
  | readToken (owner : TokenOwner)
  | saveToken (owner : TokenOwner) (token : Json) (expiresAt : Option Expiry)

def VendorCall.Reply : VendorCall → Type
  | .http _ => Except VendorExn HttpResponse
  | .aws _ => Except VendorExn Json
  | .pageCount _ => ℕ
  | .intel _ => IntelReplies
  | .sleep => Unit
  | .time => ℚ
  | .ago _ _ => String
  | .readToken _ => TokenCache
  | .saveToken _ _ _ => Unit

/-- A program of a tool. -/
abbrev Tool (α : Type) : Type := ExceptT VendorExn (Async VendorCall VendorCall.Reply) α

/-- What Python computes within a tool. -/
def lift {α : Type} : Except PyExn α → Tool α
  | .ok a => pure a
  | .error e => throw (.python e)

def lost : VendorExn := .failed "the call did not come back"

/-- A call that answers. -/
def call (c : VendorCall) : Tool c.Reply := ask c fun reply => reply.elim (.error lost) .ok

/-- A call of which the reply may be an exception. -/
def aws (c : AwsCall) : Tool Json := ask (.aws c) fun reply => reply.getD (.error lost)

def http (request : HttpRequest) : Tool HttpResponse :=
  ask (.http request) fun reply => reply.getD (.error lost)

/-- `resp.raise_for_status()`: only a success passes. -/
def HttpResponse.raiseForStatus (response : HttpResponse) : Except VendorExn Unit :=
  if 200 ≤ response.status ∧ response.status < 300 then .ok ()
  else .error (.httpStatus response.status)

/-- `resp.json()`. -/
def HttpResponse.decoded (response : HttpResponse) : Except VendorExn Json :=
  match response.json with
  | some body => .ok body
  | none => .error (.failed "Expecting value")

/-- A request, `raise_for_status()` and `json()`, which nothing stands between. -/
def requestJson (request : HttpRequest) : Tool Json :=
  ask (.http request) fun reply => do
    let response ← reply.getD (.error lost)
    response.raiseForStatus
    response.decoded

/-- `int(time.time() * 1000)`. -/
def timeMs : Tool ℤ := do
  let now : ℚ ← call .time
  return ⌊now * 1000⌋

/-! ## §2  Values of any shape -/

def typeError : PyExn := .other "unsupported operand type"

def indexError : PyExn := .other "list index out of range"

/-- `value[key]`. -/
def item (key : String) : Json → Except PyExn Json
  | .obj fields =>
      match Json.lookup key fields with
      | some value => .ok value
      | none => .error (.keyError key)
  | _ => .error typeError

/-- `value[0]`. -/
def itemZero (value : Json) : Except PyExn Json :=
  match firstItem value with
  | some first => .ok first
  | none => .error indexError

/-- `for x in value`. -/
def iterate : Json → Except PyExn (List Json)
  | .arr items => .ok items
  | .str s => .ok (s.toList.map fun c => .str (String.singleton c))
  | .obj fields => .ok (fields.map fun f => .str f.1)
  | _ => .error typeError

/-- `len(value)`. -/
def lengthOf (value : Json) : Except PyExn ℕ :=
  match pyLen value with
  | some n => .ok n
  | none => .error typeError

/-- `value[:n]`. -/
def sliced (n : ℕ) : Json → Except PyExn Json
  | .arr items => .ok (.arr (items.take n))
  | .str s => .ok (.str (textTake n s))
  | _ => .error typeError

/-- `value.get(key, default)`. -/
def field (value : Json) (key : String) (default : Json) : Except PyExn Json := do
  let fields ← fieldsOf value
  return getOr fields key default

/-- The items, each put through a step that may raise. -/
def mapItems (step : Params → Except PyExn Json) (value : Json) : Except PyExn (List Json) := do
  let items ← iterate value
  items.mapM fun each => do step (← fieldsOf each)

/-- The number that a JSON number or a bool is. -/
def number? : Json → Option ℚ
  | .int i => some i
  | .bool b => some (if b then 1 else 0)
  | .float m (.ofNat k) => some (m * 10 ^ k)
  | .float m (.negSucc k) => some (m / 10 ^ (k + 1))
  | _ => none

/-- `value == text`. -/
def isText (text : String) : Json → Bool
  | .str s => s == text
  | _ => false

/-- A value that a set can hold. -/
def hashable : Json → Bool
  | .arr _ => false
  | .obj _ => false
  | _ => true

/-- `==` of hashable values. -/
def sameValue (a b : Json) : Bool :=
  match a, b with
  | .str s, .str t => s == t
  | .null, .null => true
  | .infinity m, .infinity n => m == n
  | a, b => (number? a).isSome && number? a == number? b

/-- What the tools use of the language and its builtins: the methods of texts, what a set
yields its items in, and what an exception says. -/
structure ToolRuntime where
  py : PyBuiltins
  excText : VendorExn → String
  setOrder : List Json → List Json
  lower : String → String

/-- `", ".join(items)`. -/
def joined (items : List Json) : Except PyExn String :=
  match joinTexts items with
  | some text => .ok text
  | none => .error typeError

/-! ## §3  Settings and parameters -/

/-- The settings that the tools read. -/
structure ToolSettings where
  splunkHost : String
  splunkPort : ℤ
  splunkUsername : String
  splunkPassword : String
  splunkToken : String
  splunkScheme : String
  crowdstrikeClientId : String
  crowdstrikeClientSecret : String
  crowdstrikeBaseUrl : String
  awsAccessKeyId : String
  awsSecretAccessKey : String
  awsRegion : String
  servicenowInstanceUrl : String
  servicenowUsername : String
  servicenowPassword : String
  servicenowClientId : String
  servicenowClientSecret : String
  vulncheckApiToken : String
  ndrFlowApiUrl : String
  ndrFlowApiToken : String
  backupApiUrl : String
  backupApiToken : String
  intelKeys : IntelKeys

/-- A field of type `str | None`. -/
def textOrNone (params : Params) (key : String) : Option String := (get params key).asStr?

/-- A field of type `str`, and its default. -/
def textOr (default : String) (params : Params) (key : String) : String :=
  (textOrNone params key).getD default

/-- A field of type `int`, and its default. -/
def intOr (default : ℤ) (params : Params) (key : String) : ℤ :=
  ((Json.lookup key params).bind schemaInt?).getD default

structure SplunkQueryInput where
  query : SplunkQuery
  maxResults : ℤ

def SplunkQueryInput.ofParams (params : Params) : SplunkQueryInput where
  query :=
    { queryType := textOr "" params "query_type"
      hostname := textOrNone params "hostname"
      username := textOrNone params "username"
      ipAddress := textOrNone params "ip_address"
      hoursBack := intOr 72 params "hours_back"
      rawSpl := textOrNone params "raw_spl" }
  maxResults := intOr 100 params "max_results"

structure CrowdStrikeInput where
  queryType : String
  hostname : Option String
  deviceId : Option String
  processId : Option String
  iocValue : Option String
  iocType : String
  hoursBack : ℤ

def CrowdStrikeInput.ofParams (params : Params) : CrowdStrikeInput where
  queryType := textOr "" params "query_type"
  hostname := textOrNone params "hostname"
  deviceId := textOrNone params "device_id"
  processId := textOrNone params "process_id"
  iocValue := textOrNone params "ioc_value"
  iocType := textOr "sha256" params "ioc_type"
  hoursBack := intOr 72 params "hours_back"

def sourceNamed? : Json → Option IntelSource
  | .str "virustotal" => some .virustotal
  | .str "abuseipdb" => some .abuseipdb
  | .str "otx" => some .otx
  | _ => none

/-- `ThreatIntelInput`. -/
def threatIntelParams (params : Params) : ThreatIntelParams where
  iocType := textOr "" params "ioc_type"
  iocValue := textOr "" params "ioc_value"
  sources :=
    match Json.lookup "sources" params with
    | some (.arr items) => items.filterMap sourceNamed?
    | _ => [.virustotal, .abuseipdb, .otx]

structure AWSQueryInput where
  queryType : String
  username : Option String
  accountId : Option String
  region : Option String
  hoursBack : ℤ

def AWSQueryInput.ofParams (params : Params) : AWSQueryInput where
  queryType := textOr "" params "query_type"
  username := textOrNone params "username"
  accountId := textOrNone params "account_id"
  region := textOrNone params "region"
  hoursBack := intOr 336 params "hours_back"

structure CMDBInput where
  lookupType : String
  hostname : Option String
  ipAddress : Option String
  owner : Option String

def CMDBInput.ofParams (params : Params) : CMDBInput where
  lookupType := textOr "" params "lookup_type"
  hostname := textOrNone params "hostname"
  ipAddress := textOrNone params "ip_address"
  owner := textOrNone params "owner"

structure NetFlowInput where
  queryType : String
  srcIp : Option String
  dstIp : Option String
  hostname : Option String
  hoursBack : ℤ
  thresholdBytes : ℤ

def NetFlowInput.ofParams (params : Params) : NetFlowInput where
  queryType := textOr "" params "query_type"
  srcIp := textOrNone params "src_ip"
  dstIp := textOrNone params "dst_ip"
  hostname := textOrNone params "hostname"
  hoursBack := intOr 720 params "hours_back"
  thresholdBytes := intOr 10000000 params "threshold_bytes"

structure BackupQueryInput where
  queryType : String
  hostname : Option String
  hoursBack : ℤ

def BackupQueryInput.ofParams (params : Params) : BackupQueryInput where
  queryType := textOr "" params "query_type"
  hostname := textOrNone params "hostname"
  hoursBack := intOr 72 params "hours_back"

section

variable (rt : ToolRuntime) (settings : ToolSettings)

/-- `try … except`, in a tool that returns from the `try`. -/
def guarded (onError : VendorExn → Params) (body : Tool Params) : Tool Params := do
  match ← caught body with
  | .ok result => return result
  | .error e => return onError e

def optionalJson (text : Option String) : Json := text.elim .null .str

/-- `text or ""`. -/
def orEmpty (text : Option String) : String := text.getD ""

/-! ## §4  `splunk_tool.py` -/

/-- The `src_ip`s and the number of failed logins. -/
def authSummary (results : List Json) : Except PyExn String := do
  let ips ← results.mapM fun r => do
    let ip ← field r "src_ip" (.str "?")
    if hashable ip then return ip else throw typeError
  let uniqueIps := ips.foldl
    (fun seen ip => if seen.any (sameValue ip) then seen else seen ++ [ip]) []
  let codes ← results.mapM fun r => field r "EventCode" .null
  let shown ← joined ((rt.setOrder uniqueIps).take 5)
  return toString results.length ++ " auth events | " ++ toString uniqueIps.length ++
    " unique source IPs | " ++ toString (codes.countP (isText "4625")) ++
    " failed logins | IPs: " ++ shown

/-- Three extensions with the most renames; the sort is stable. -/
def renameSummary (results : List Json) : Except PyExn String := do
  let keyed ← results.mapM fun r => do
    let renames ← pyIntOf rt.py (← field r "renames" (.int 0))
    return (renames, r)
  let top := ((keyed.mergeSort fun a b => b.1 ≤ a.1).map Prod.snd).take 3
  let texts ← top.mapM fun r => do
    let extension ← field r "extension" .null
    let renames ← field r "renames" .null
    return rt.py.str extension ++ "=" ++ rt.py.str renames
  return "File renames by extension: " ++ ", ".intercalate texts

/-- `_compress_results`. -/
def compressResults (results : Json) (queryType : String) : Except PyExn String := do
  if !results.truthy then return "No results found."
  if queryType = "auth_events_by_user" then authSummary rt (← iterate results)
  else if queryType = "file_rename_burst" then renameSummary rt (← iterate results)
  else return toString (← lengthOf results) ++ " results returned."

/-- A request to Splunk, with the token or else with user and password. -/
def splunkRequest (method path : String) (query : Params) (body : RequestBody) : HttpRequest where
  method := method
  url := settings.splunkScheme ++ "://" ++ settings.splunkHost ++ ":" ++
    intText settings.splunkPort ++ path
  query := query
  headers :=
    if settings.splunkToken = "" then []
    else [("Authorization", "Bearer " ++ settings.splunkToken)]
  auth :=
    if settings.splunkToken = "" then some (settings.splunkUsername, settings.splunkPassword)
    else none
  body := body

def searchPath : String := "/services/search/jobs"

def createRequest (spl : String) (maxResults : ℤ) : HttpRequest :=
  splunkRequest settings "POST" searchPath []
    (.form [("search", .str ("search " ++ spl)), ("output_mode", .str "json"),
      ("count", .int maxResults)])

def pollRequest (sid : Json) : HttpRequest :=
  splunkRequest settings "GET" (searchPath ++ "/" ++ rt.py.str sid)
    [("output_mode", .str "json")] .none

def resultsRequest (sid : Json) (maxResults : ℤ) : HttpRequest :=
  splunkRequest settings "GET" (searchPath ++ "/" ++ rt.py.str sid ++ "/results")
    [("output_mode", .str "json"), ("count", .int maxResults)] .none

/-- `status["entry"][0]["content"]["dispatchState"]`. -/
def dispatchState (status : Json) : Except PyExn Json := do
  let entry ← itemZero (← item "entry" status)
  item "dispatchState" (← item "content" entry)

/-- So many polls at most, a second apart, until the job is done. -/
def pollUntilDone (sid : Json) : ℕ → Tool Unit
  | 0 => pure ()
  | n + 1 => do
      let () ← call .sleep
      let status ← requestJson (pollRequest rt settings sid)
      let state ← lift (dispatchState status)
      if isText "DONE" state then pure () else pollUntilDone sid n

/-- The `try` of `splunk_query_async`: the job, the polls and the rows. -/
def splunkSearch (spl : String) (maxResults : ℤ) : Tool Json := do
  let created ← requestJson (createRequest settings spl maxResults)
  let sid ← lift (item "sid" created)
  pollUntilDone rt settings sid 30
  let results ← requestJson (resultsRequest rt settings sid maxResults)
  lift (field results "results" (.arr []))

def splunkFailure (text : String) : Params :=
  [("source_available", .bool false), ("error", .str text), ("results", .arr [])]

/-- `splunk_query_async`. -/
def splunkQuery (params : SplunkQueryInput) : Tool Params := do
  let startMs ← timeMs
  match filledText (buildSpl params.query) with
  | none =>
      return [("error", .str "Could not build SPL query from provided parameters"),
        ("results", .arr [])]
  | some spl =>
      match ← caught (splunkSearch rt settings spl params.maxResults) with
      | .error .timeout => return splunkFailure "Splunk query timed out"
      | .error e => return splunkFailure (rt.excText e)
      | .ok rawResults =>
          let elapsed := (← timeMs) - startMs
          let compressed ← lift (compressResults rt rawResults params.query.queryType)
          let rows ← lift (lengthOf rawResults)
          let shown ← lift (sliced 20 rawResults)
          return [("source", .str "splunk"), ("query_type", .str params.query.queryType),
            ("result_count", .int rows), ("elapsed_ms", .int elapsed),
            ("summary", .str compressed), ("results", shown)]

/-! ## §5  The token caches -/

/-- `now + expires_in`, which raises on what is no number. -/
def Expiry.after (now : ℚ) : Json → Except PyExn Expiry
  | .nan => .ok .past
  | .infinity negative => .ok (if negative then .past else .never)
  | expiresIn =>
      match number? expiresIn with
      | some seconds => .ok (.at (now + seconds))
      | none => .error typeError

/-- `expires_at > t`. -/
def Expiry.isAfter (t : ℚ) : Expiry → Bool
  | .at e => decide (t < e)
  | .never => true
  | .past => false

/-- The cached token can be used for another half minute. -/
def TokenCache.fresh (cache : TokenCache) (now : ℚ) : Bool :=
  (cache.expiresAt.getD (.at 0)).isAfter (now + 30)

/-- The token that the request brings, which is kept even where its expiry is none. -/
def fetchToken (owner : TokenOwner) (request : HttpRequest) (now : ℚ) : Tool Json := do
  let data ← requestJson request
  let token ← lift (item "access_token" data)
  match Expiry.after now (← lift (field data "expires_in" (.int 1800))) with
  | .ok expiresAt =>
      let () ← call (.saveToken owner token (some expiresAt))
      return token
  | .error e =>
      let () ← call (.saveToken owner token none)
      throw (.python e)

/-- `_get_token`, and `_get_snow_auth_headers` with OAuth. -/
def getToken (owner : TokenOwner) (request : HttpRequest) : Tool Json := do
  let now : ℚ ← call .time
  let cache : TokenCache ← call (.readToken owner)
  if cache.fresh now then
    match cache.token with
    | some token => return token
    | none => throw (.python (.keyError "token"))
  else fetchToken owner request now

/-- A request for a token. -/
def tokenRequest (url : String) (headers : List (String × String)) (data : Params) :
    HttpRequest :=
  ⟨"POST", url, [], headers, none, .form data⟩

/-- `{"Authorization": f"Bearer {token}"}`. -/
def bearer (token : Json) : List (String × String) :=
  [("Authorization", "Bearer " ++ rt.py.str token)]

/-! ## §6  `crowdstrike_tool.py` -/

def crowdstrikeToken : Tool Json :=
  getToken .crowdstrike
    (tokenRequest (settings.crowdstrikeBaseUrl ++ "/oauth2/token") []
      [("client_id", .str settings.crowdstrikeClientId),
        ("client_secret", .str settings.crowdstrikeClientSecret)])

def falconGet (headers : List (String × String)) (path : String) (query : Params) :
    HttpRequest :=
  ⟨"GET", settings.crowdstrikeBaseUrl ++ path, query, headers, none, .none⟩

def falconPost (headers : List (String × String)) (path : String) (body : Params) :
    HttpRequest :=
  ⟨"POST", settings.crowdstrikeBaseUrl ++ path, [], headers, none, .json (.obj body)⟩

/-- `.json().get("resources", [])`. -/
def resources (request : HttpRequest) : Tool Json := do
  let body ← requestJson request
  lift (field body "resources" (.arr []))

/-- `CrowdStrikeQueryBuilder.detections_by_host`. -/
def detectionsFilter (hostname since : String) : String :=
  "device.hostname:'" ++ hostname ++ "'+created_timestamp:>'" ++ since ++ "'"

/-- `CrowdStrikeQueryBuilder.ioc_lookup`. -/
def iocFilter (iocValue iocType : String) : String :=
  "type:'" ++ iocType ++ "'+value:'" ++ iocValue ++ "'"

/-- `f"{name}:'{hostname}'" if hostname else ""`. -/
def hostFilter (name : String) (hostname : Option String) : String :=
  (filledText hostname).elim "" fun host => name ++ ":'" ++ host ++ "'"

def falconFormat : String := "%Y-%m-%dT%H:%M:%SZ"

/-- What is asked for in two steps: the ids, and the details of the first of them. -/
structure TwoStep where
  idsPath : String
  idsQuery : Params
  detailsPath : String
  idsKey : String
  most : ℕ
  listKey : String
  row : Params → Except PyExn Json

/-- The two steps: no ids are no details, and what is read of each detail is its row. -/
def TwoStep.run (t : TwoStep) (headers : List (String × String)) : Tool Params := do
  let ids ← resources (falconGet settings headers t.idsPath t.idsQuery)
  if !ids.truthy then
    return [("source", .str "crowdstrike"), (t.listKey, .arr []), ("count", .int 0)]
  else
    let wanted ← lift (sliced t.most ids)
    let details ← resources (falconPost settings headers t.detailsPath [(t.idsKey, wanted)])
    let count ← lift (lengthOf details)
    let rows ← lift (mapItems t.row details)
    return [("source", .str "crowdstrike"), ("count", .int count), (t.listKey, .arr rows)]

def detectionRow (d : Params) : Except PyExn Json :=
  .ok (.obj [("id", get d "detection_id"), ("severity", get d "max_severity_displayname"),
    ("technique", get d "technique"), ("tactic", get d "tactic"),
    ("filename", get d "filename"), ("cmdline", get d "cmdline"), ("status", get d "status")])

/-- `(fields.get("description") or "")[:200]`. -/
def shortDescription (fields : Params) : Except PyExn Json :=
  sliced 200 (pyOr (get fields "description") (.str ""))

def alertRow (a : Params) : Except PyExn Json := do
  let description ← shortDescription a
  return .obj [("id", pyOr (get a "composite_id") (get a "id")), ("name", get a "name"),
    ("severity", pyOr (get a "severity_name") (get a "severity")), ("tactic", get a "tactic"),
    ("technique", get a "technique"), ("status", get a "status"),
    ("product", get a "product"), ("description", description),
    ("created_timestamp", get a "created_timestamp")]

def incidentRow (inc : Params) : Except PyExn Json := do
  let description ← shortDescription inc
  let hosts ← lengthOf (getOr inc "hosts" (.arr []))
  return .obj [("id", get inc "incident_id"), ("name", get inc "name"),
    ("description", description), ("status", get inc "status"),
    ("severity", get inc "fine_score"), ("tactics", getOr inc "tactics" (.arr [])),
    ("techniques", getOr inc "techniques" (.arr [])), ("tags", getOr inc "tags" (.arr [])),
    ("start", get inc "start"), ("end", get inc "end"), ("host_count", .int hosts)]

/-- `_detections_by_host`. -/
def detectionsByHost (headers : List (String × String)) (params : CrowdStrikeInput) :
    Tool Params := do
  let since : String ← call (.ago falconFormat params.hoursBack)
  TwoStep.run settings
    { idsPath := "/detects/queries/detects/v1"
      idsQuery :=
        [("filter", .str (detectionsFilter (orEmpty params.hostname) since)), ("limit", .int 50)]
      detailsPath := "/detects/entities/summaries/GET/v1"
      idsKey := "ids", most := 25, listKey := "detections", row := detectionRow } headers

/-- `_process_tree`. -/
def processTree (headers : List (String × String)) (params : CrowdStrikeInput) :
    Tool Params := do
  match filledText params.deviceId with
  | none => return [("error", .str "device_id required for process_tree query")]
  | some _ =>
      let processes ← resources (falconGet settings headers "/processes/entities/processes/v1"
        [("ids", .str (orEmpty params.processId))])
      return [("source", .str "crowdstrike"), ("process_tree", processes)]

/-- `_device_info`. -/
def deviceInfo (headers : List (String × String)) (params : CrowdStrikeInput) :
    Tool Params := do
  let ids ← resources (falconGet settings headers "/devices/queries/devices/v1"
    [("filter", .str (hostFilter "hostname" params.hostname)), ("limit", .int 1)])
  if !ids.truthy then return [("source", .str "crowdstrike"), ("found", .bool false)]
  else
    let first ← lift (itemZero ids)
    let details ← requestJson (falconGet settings headers "/devices/entities/devices/v2"
      [("ids", first)])
    let found ← lift (field details "resources" (.arr [.obj []]))
    let d ← lift do fieldsOf (← itemZero found)
    return [("source", .str "crowdstrike"), ("found", .bool true),
      ("device_id", get d "device_id"), ("hostname", get d "hostname"),
      ("os_version", get d "os_version"), ("agent_version", get d "agent_version"),
      ("last_seen", get d "last_seen"), ("containment_status", get d "status"),
      ("groups", getOr d "groups" (.arr [])), ("tags", getOr d "tags" (.arr []))]

/-- `_ioc_lookup`. -/
def iocLookup (headers : List (String × String)) (params : CrowdStrikeInput) :
    Tool Params := do
  let matched ← resources (falconGet settings headers "/iocs/queries/indicators/v1"
    [("filter", .str (iocFilter (orEmpty params.iocValue) params.iocType))])
  return [("source", .str "crowdstrike"), ("ioc_matches", matched)]

/-- `_alerts_by_host`. -/
def alertsByHost (headers : List (String × String)) (params : CrowdStrikeInput) :
    Tool Params :=
  TwoStep.run settings
    { idsPath := "/alerts/queries/alerts/v2"
      idsQuery :=
        [("filter", .str (hostFilter "device.hostname" params.hostname)), ("limit", .int 50)]
      detailsPath := "/alerts/entities/alerts/v2"
      idsKey := "composite_ids", most := 25, listKey := "alerts", row := alertRow } headers

/-- `_incidents_by_host`. -/
def incidentsByHost (headers : List (String × String)) (params : CrowdStrikeInput) :
    Tool Params :=
  TwoStep.run settings
    { idsPath := "/incidents/queries/incidents/v1"
      idsQuery :=
        [("filter", .str (hostFilter "host_ids.hostname" params.hostname)),
          ("limit", .int 25), ("sort", .str "start.desc")]
      detailsPath := "/incidents/entities/incidents/GET/v1"
      idsKey := "ids", most := 15, listKey := "incidents", row := incidentRow } headers

def crowdstrikeFailure (text : String) : Params :=
  [("source_available", .bool false), ("error", .str text)]

/-- `crowdstrike_query_async`. -/
def crowdstrikeQuery (params : CrowdStrikeInput) : Tool Params := do
  if settings.crowdstrikeClientId = "" then
    return [("source_available", .bool false), ("source", .str "crowdstrike"),
      ("error", .str ("CrowdStrike is not configured. Set CROWDSTRIKE_CLIENT_ID and " ++
        "CROWDSTRIKE_CLIENT_SECRET in .env (and CROWDSTRIKE_BASE_URL for your Falcon cloud).")),
      ("query_type", .str params.queryType)]
  else
    let _ ← timeMs
    guarded
      (fun
        | .timeout => crowdstrikeFailure "CrowdStrike API timed out"
        | e => crowdstrikeFailure (rt.excText e)) do
      let token ← crowdstrikeToken settings
      let headers := bearer rt token
      if params.queryType = "detections_by_host" then detectionsByHost settings headers params
      else if params.queryType = "process_tree" then processTree settings headers params
      else if params.queryType = "device_info" then deviceInfo settings headers params
      else if params.queryType = "ioc_lookup" then iocLookup settings headers params
      else if params.queryType = "alerts_by_host" then alertsByHost settings headers params
      else if params.queryType = "incidents_by_host" then incidentsByHost settings headers params
      else return [("results", .arr [])]

/-! ## §7  `aws_tool.py` -/

/-- The rows of the pages, until there are so many or no page is left. -/
def collectPages (rows : Json → Except PyExn (List Json)) (lookup : EventLookup) (enough : ℕ) :
    ℕ → ℕ → List Json → Tool (List Json)
  | 0, _, events => pure events
  | left + 1, number, events => do
      let page ← aws (.page lookup number)
      let found ← lift do
        let listed ← iterate (← item "Events" page)
        listed.mapM rows
      let events := events ++ found.flatten
      if enough ≤ events.length then pure events
      else collectPages rows lookup enough left (number + 1) events

/-- `for page in paginator.paginate(…)`. -/
def paginate (rows : Json → Except PyExn (List Json)) (lookup : EventLookup) (enough : ℕ) :
    Tool (List Json) := do
  let pages : ℕ ← call (.pageCount lookup)
  collectPages rows lookup enough pages 0 []

/-- The event names of `_cloudtrail_by_user`. -/
def highRiskNames : List String :=
  ["CreateUser", "AttachUserPolicy", "AttachRolePolicy", "PutUserPolicy", "CreateAccessKey",
    "DeleteTrail", "StopLogging", "AssumeRoleWithWebIdentity"]

/-- The event, if its name is in the set; a set is not asked about what it cannot hold. -/
def highRiskRow (event : Json) : Except PyExn (List Json) := do
  let name ← field event "EventName" (.str "")
  if hashable name then
    return if highRiskNames.any fun risk => isText risk name then [event] else []
  else throw typeError

def cloudtrailRow (event : Json) : Except PyExn (List Json) := do
  let ev ← fieldsOf event
  return [.obj [("EventName", get ev "EventName"),
    ("EventTime", .str (rt.py.str (get ev "EventTime"))),
    ("SourceIPAddress", getOr ev "CloudTrailEvent" (.str "{}")),
    ("Username", get ev "Username")]]

/-- `_cloudtrail_by_user`. -/
def cloudtrailByUser (username since : String) : Tool Params := do
  let _ ← aws (.client "cloudtrail")
  let events ← paginate (cloudtrailRow rt) ⟨"Username", username, since⟩ 200
  let highRisk ← lift (events.mapM highRiskRow)
  return [("source", .str "aws_cloudtrail"), ("total_events", .int events.length),
    ("high_risk_events", .arr (highRisk.flatten.take 10)), ("username", .str username)]

def iamEvents : List String :=
  ["AttachUserPolicy", "DetachUserPolicy", "AttachRolePolicy", "CreatePolicy", "PutUserPolicy",
    "CreateUser", "CreateRole"]

def iamRow (event : Json) : Except PyExn (List Json) := do
  let ev ← fieldsOf event
  return [.obj [("EventName", get ev "EventName"),
    ("EventTime", .str (rt.py.str (get ev "EventTime"))), ("Username", get ev "Username")]]

/-- The first page of each event: no rows are enough. -/
def firstPages (since : String) : List String → List Json → Tool (List Json)
  | [], events => pure events
  | name :: names, events => do
      let found ← paginate (iamRow rt) ⟨"EventName", name, since⟩ 0
      firstPages since names (events ++ found)

/-- `_iam_policy_changes`. -/
def iamPolicyChanges (since : String) : Tool Params := do
  let _ ← aws (.client "cloudtrail")
  let events ← firstPages rt since iamEvents []
  return [("source", .str "aws_cloudtrail"), ("iam_changes", .arr (events.take 20)),
    ("total", .int events.length)]

def findingRow (f : Params) : Except PyExn Json :=
  .ok (.obj [("type", get f "Type"), ("severity", get f "Severity"), ("title", get f "Title"),
    ("created", get f "CreatedAt")])

/-- `_guardduty_findings`; the account is not read. -/
def guarddutyFindings : Tool Params := do
  let _ ← aws (.client "guardduty")
  let listed ← aws .listDetectors
  let detectors ← lift (field listed "DetectorIds" (.arr []))
  if !detectors.truthy then
    return [("source", .str "aws_guardduty"), ("findings", .arr []),
      ("note", .str "No GuardDuty detector found")]
  else
    let detectorId ← lift (itemZero detectors)
    let listed ← aws (.listFindings detectorId)
    let findingIds ← lift (field listed "FindingIds" (.arr []))
    if !findingIds.truthy then
      return [("source", .str "aws_guardduty"), ("findings", .arr []), ("count", .int 0)]
    else
      let response ← aws (.getFindings detectorId findingIds)
      let findings ← lift do mapItems findingRow (← field response "Findings" (.arr []))
      return [("source", .str "aws_guardduty"), ("findings", .arr findings),
        ("count", .int findings.length)]

/-- The row of an event whose text names the user. -/
def assumeRoleRow (username : String) (event : Json) : Except PyExn (List Json) :=
  if (rt.lower username).toList <:+: (rt.lower (rt.py.str event)).toList then do
    let ev ← fieldsOf event
    return [.obj [("EventTime", .str (rt.py.str (get ev "EventTime"))),
      ("EventName", get ev "EventName"), ("Username", get ev "Username")]]
  else .ok []

/-- `_assume_role_events`. -/
def assumeRoleEvents (username since : String) : Tool Params := do
  let _ ← aws (.client "cloudtrail")
  let events ← paginate (assumeRoleRow rt username) ⟨"EventName", "AssumeRole", since⟩ 50
  return [("source", .str "aws_cloudtrail"), ("assume_role_events", .arr events),
    ("count", .int events.length)]

/-- `aws_query_async`. -/
def awsQuery (params : AWSQueryInput) : Tool Params := do
  if settings.awsAccessKeyId = "" then
    return [("source_available", .bool false), ("source", .str "aws"),
      ("query_type", .str params.queryType),
      ("error", .str ("AWS is not configured. Set AWS_ACCESS_KEY_ID and " ++
        "AWS_SECRET_ACCESS_KEY in .env."))]
  else
    let region := (filledText params.region).getD settings.awsRegion
    let since : String ← call (.ago "isoformat" params.hoursBack)
    guarded
      (fun
        | .importError =>
            [("source_available", .bool false), ("source", .str "aws"),
              ("error", .str "boto3 not installed. Run: uv pip install -e .")]
        | e =>
            [("source", .str "aws"), ("error", .str (rt.excText e)),
              ("source_available", .bool false)]) do
      let _ ← aws .importBoto3
      let _ ← aws (.session settings.awsAccessKeyId settings.awsSecretAccessKey region)
      if params.queryType = "cloudtrail_by_user" then
        cloudtrailByUser rt (orEmpty params.username) since
      else if params.queryType = "iam_policy_changes" then iamPolicyChanges rt since
      else if params.queryType = "guardduty_findings" then guarddutyFindings
      else if params.queryType = "assume_role_events" then
        assumeRoleEvents rt (orEmpty params.username) since
      else
        return [("source_available", .bool false), ("source", .str "aws"),
          ("error", .str "AWS query_type did not match a handler or returned no payload."),
          ("results", .arr [])]

/-! ## §8  `cmdb_tool.py` -/

/-- `CRITICALITY_TIERS`. -/
def criticalityTiers : List (String × ℤ) :=
  [("crown_jewel", 5), ("high", 4), ("medium", 3), ("low", 2), ("unknown", 1)]

/-- `SERVICENOW_CRITICALITY_MAP`. -/
def servicenowCriticality : List (String × String) :=
  [("1", "crown_jewel"), ("2", "high"), ("3", "medium"), ("4", "low")]

/-- `base64.b64encode(text.encode()).decode()`. -/
def b64encode (text : String) : String := String.ofList (Base64.btoa text.toUTF8.toList)

/-- `_get_snow_auth_headers`. -/
def snowAuthHeaders : Tool (List (String × String)) := do
  if settings.servicenowClientId ≠ "" ∧ settings.servicenowClientSecret ≠ "" then
    let token ← getToken .servicenow
      (tokenRequest (settings.servicenowInstanceUrl ++ "/oauth_token.do")
        [("Content-Type", "application/x-www-form-urlencoded")]
        [("grant_type", .str "password"), ("client_id", .str settings.servicenowClientId),
          ("client_secret", .str settings.servicenowClientSecret),
          ("username", .str settings.servicenowUsername),
          ("password", .str settings.servicenowPassword)])
    return bearer rt token
  else
    return [("Authorization", "Basic " ++
      b64encode (settings.servicenowUsername ++ ":" ++ settings.servicenowPassword))]

/-- A text in an f-string. -/
def noneText (text : Option String) : String := text.getD "None"

/-- `sysparm_query`. -/
def sysparmQuery (params : CMDBInput) : Option String :=
  if params.lookupType = "by_hostname" then some ("name=" ++ noneText params.hostname)
  else if params.lookupType = "by_ip" then some ("ip_address=" ++ noneText params.ipAddress)
  else if params.lookupType = "by_owner" then
    some ("owned_by.user_name=" ++ noneText params.owner)
  else none

/-- `url.rstrip("/")`. -/
def withoutSlash (url : String) : String :=
  String.ofList ((url.toList.reverse.dropWhile (· == '/')).reverse)

/-- What is returned of the record that was found. -/
def assetFields (params : CMDBInput) (r : Params) : Params :=
  let rawCriticality :=
    rt.py.str (getOr r "busines_criticality" (getOr r "operational_status" (.str "4")))
  let criticality := (servicenowCriticality.lookup rawCriticality).getD "unknown"
  [("source", .str "cmdb"), ("found", .bool true),
    ("hostname", getOr r "name" (optionalJson params.hostname)),
    ("asset_type", getOr r "sys_class_name" (.str "Unknown")),
    ("criticality", .str criticality),
    ("criticality_score", .int ((criticalityTiers.lookup criticality).getD 1)),
    ("business_unit", getOr r "department" (getOr r "company" (.str "Unknown"))),
    ("owner", getOr r "owned_by" (getOr r "assigned_to" (.str "unknown"))),
    ("os", getOr r "os" (.str "Unknown")),
    ("patch_status",
      .str (if isText "false" (get r "unverified") then "up_to_date" else "needs_review")),
    ("network_zone", getOr r "dns_domain" (.str "corporate")), ("open_vulns_critical", .int 0),
    ("last_seen", getOr r "last_discovered" (getOr r "sys_updated_on" (.str ""))),
    ("managed_by_edr", .bool (get r "discovery_source").truthy), ("sys_id", get r "sys_id")]

/-- The `try` of `_query_servicenow_cmdb`. -/
def servicenowLookup (query : String) (params : CMDBInput) : Tool Params := do
  let authHeaders ← snowAuthHeaders rt settings
  let found ← requestJson
    ⟨"GET", withoutSlash settings.servicenowInstanceUrl ++ "/api/now/table/cmdb_ci",
      [("sysparm_query", .str query), ("sysparm_limit", .int 1),
        ("sysparm_display_value", .str "true")],
      [("Accept", "application/json"), ("Content-Type", "application/json")] ++ authHeaders,
      none, .none⟩
  let records ← lift (field found "result" (.arr []))
  if !records.truthy then
    let name := (filledText params.hostname).getD ((filledText params.ipAddress).getD "unknown")
    return [("source", .str "cmdb"), ("found", .bool false), ("hostname", .str name)]
  else
    let r ← lift do fieldsOf (← itemZero records)
    return assetFields rt params r

/-- `_query_servicenow_cmdb`: none where the request failed but was in time. -/
def queryServicenowCmdb (params : CMDBInput) : Tool (Option Params) := do
  if settings.servicenowInstanceUrl = "" ∨ settings.servicenowUsername = "" then return none
  else
    match sysparmQuery params with
    | none => return none
    | some query =>
        match ← caught (servicenowLookup rt settings query params) with
        | .ok result => return some result
        | .error .timeout =>
            return some [("source_available", .bool false),
              ("error", .str "ServiceNow CMDB query timed out")]
        | .error _ => return none

def cmdbFailure (text : String) : Params :=
  [("source_available", .bool false), ("source", .str "cmdb"), ("error", .str text)]

/-- `cmdb_query_async`. -/
def cmdbQuery (params : CMDBInput) : Tool Params := do
  if settings.servicenowInstanceUrl = "" ∨ settings.servicenowUsername = "" then
    return cmdbFailure ("ServiceNow CMDB is not configured. Set SERVICENOW_INSTANCE_URL, " ++
      "SERVICENOW_USERNAME, and SERVICENOW_PASSWORD in .env " ++
      "(optional OAuth: SERVICENOW_CLIENT_ID and SERVICENOW_CLIENT_SECRET).")
  else
    match ← queryServicenowCmdb rt settings params with
    | some result => return result
    | none =>
        return cmdbFailure ("ServiceNow CMDB request failed (HTTP error, timeout, or invalid " ++
          "credentials). Check instance URL, user ACLs on cmdb_ci, and logs.")

/-! ## §9  `netflow_tool.py` and `backup_tool.py` -/

/-- `fields.setdefault(key, value)`. -/
def setDefault (key : String) (value : Json) (fields : Params) : Params :=
  match Json.lookup key fields with
  | some _ => fields
  | none => fields ++ [(key, value)]

/-- A tool that hands on what the API of the customer says. -/
structure PassThrough where
  source : String
  url : String
  token : String
  body : Params
  httpText : String
  timeoutText : String
  failureRest : Params
  defaults : Params
  queryType : String

/-- The dict of a request that failed. -/
def PassThrough.failure (t : PassThrough) (text : String) : Params :=
  [("source_available", .bool false), ("source", .str t.source), ("error", .str text)] ++
    t.failureRest

def PassThrough.request (t : PassThrough) : HttpRequest where
  method := "POST"
  url := t.url
  query := []
  headers := [("Content-Type", "application/json")] ++
    if t.token = "" then [] else [("Authorization", "Bearer " ++ t.token)]
  auth := none
  body := .json (.obj t.body)

/-- The dict of the API, with what it leaves out. -/
def PassThrough.handOn (t : PassThrough) : Json → Params
  | .obj data => t.defaults.foldl (fun data d => setDefault d.1 d.2 data) data
  | raw =>
      [("source_available", .bool true), ("source", .str t.source),
        ("query_type", .str t.queryType), ("raw", raw)]

/-- The request: only a status from 400 on is a failure. -/
def PassThrough.run (t : PassThrough) : Tool Params :=
  guarded
    (fun
      | .timeout => t.failure t.timeoutText
      | e => t.failure (rt.excText e)) do
    let response ← http t.request
    if 400 ≤ response.status then
      return t.failure (t.httpText ++ " HTTP " ++ toString response.status ++ ": " ++
        textTake 300 response.text)
    else
      match response.decoded with
      | .ok data => return t.handOn data
      | .error e => throw e

/-- The request of `netflow_query_async`. -/
def netflowTool (params : NetFlowInput) : PassThrough where
  source := "netflow_dns"
  url := pyStrip settings.ndrFlowApiUrl
  token := settings.ndrFlowApiToken
  body :=
    [("query_type", .str params.queryType), ("src_ip", optionalJson params.srcIp),
      ("dst_ip", optionalJson params.dstIp), ("hostname", optionalJson params.hostname),
      ("hours_back", .int params.hoursBack), ("threshold_bytes", .int params.thresholdBytes)]
  httpText := "NDR"
  timeoutText := "NDR API timed out"
  failureRest := []
  defaults :=
    [("source_available", .bool true), ("source", .str "netflow_dns"),
      ("query_type", .str params.queryType)]
  queryType := params.queryType

/-- `netflow_query_async`. -/
def netflowQuery (params : NetFlowInput) : Tool Params := do
  if pyStrip settings.ndrFlowApiUrl = "" then
    return [("source_available", .bool false), ("source", .str "netflow_dns"),
      ("query_type", .str params.queryType),
      ("error", .str ("NetFlow/NDR API URL not configured. Set NDR_FLOW_API_URL (and optional " ++
        "NDR_FLOW_API_TOKEN) in .env."))]
  else (netflowTool settings params).run rt

/-- The request of `backup_query_async`. -/
def backupTool (params : BackupQueryInput) : PassThrough where
  source := "backup_systems"
  url := pyStrip settings.backupApiUrl
  token := settings.backupApiToken
  body :=
    [("query_type", .str params.queryType), ("hostname", optionalJson params.hostname),
      ("hours_back", .int params.hoursBack)]
  httpText := "Backup API"
  timeoutText := "Backup API timed out"
  failureRest := [("results", .arr [])]
  defaults := [("source_available", .bool true), ("source", .str "backup_systems")]
  queryType := params.queryType

/-- `backup_query_async`. -/
def backupQuery (params : BackupQueryInput) : Tool Params := do
  if pyStrip settings.backupApiUrl = "" then
    return [("source_available", .bool false), ("source", .str "backup_systems"),
      ("query_type", .str params.queryType), ("hostname", optionalJson params.hostname),
      ("error", .str ("Backup vendor API URL not configured. Set BACKUP_API_URL (and optional " ++
        "BACKUP_API_TOKEN) in .env.")),
      ("results", .arr [])]
  else (backupTool settings params).run rt

/-! ## §10  `vulncheck_tool.py` -/

/-- The English description, cut off; the loop ends with it. -/
def englishDescription : List Json → Except PyExn Json
  | [] => .ok (.str "")
  | desc :: rest => do
      let fields ← fieldsOf desc
      if isText "en" (get fields "lang") then sliced 300 (getOr fields "value" (.str ""))
      else englishDescription rest

/-- What is read of the entry of a vulnerability. -/
structure VulnEntry where
  cvssScore : Json
  cvssSeverity : Json
  description : Json
  exploitAvailable : Bool
  references : List Json

def readVuln (vuln : Params) : Except PyExn VulnEntry := do
  let cveMeta ← fieldsOf (getOr vuln "cve" (.obj []))
  let metrics ← fieldsOf (getOr cveMeta "metrics" (.obj []))
  let cvssV31 := getOr metrics "cvssMetricV31" (.arr [.obj []])
  let cvssData ←
    if cvssV31.truthy then field (← itemZero cvssV31) "cvssData" (.obj []) else .ok (.obj [])
  let score ← field cvssData "baseScore" (.float 0 (-1))
  let severity ← field cvssData "baseSeverity" (.str "UNKNOWN")
  let description ←
    englishDescription (← iterate (getOr cveMeta "descriptions" (.arr [])))
  let references ← iterate (← sliced 5 (getOr cveMeta "references" (.arr [])))
  let urls ← references.mapM fun ref => field ref "url" (.str "")
  return ⟨score, severity, description, (get vuln "vulncheck_known_exploited").truthy, urls⟩

/-- The `try` of `vulncheck_lookup_async`. -/
def vulncheckSearch (cveId : String) (startMs : ℤ) : Tool Params := do
  let body ← requestJson
    ⟨"GET", "https://api.vulncheck.com/v3/index/vulncheck-nvd2", [("cve", .str cveId)],
      [("Content-Type", "application/json"),
        ("Authorization", "Bearer " ++ settings.vulncheckApiToken)], none, .none⟩
  let data ← lift (field body "data" (.arr []))
  if !data.truthy then
    let elapsed := (← timeMs) - startMs
    return [("source", .str "vulncheck"), ("cve_id", .str cveId), ("found", .bool false),
      ("elapsed_ms", .int elapsed)]
  else
    let entry ← lift do readVuln (← fieldsOf (← itemZero data))
    let elapsed := (← timeMs) - startMs
    return [("source", .str "vulncheck"), ("cve_id", .str cveId), ("found", .bool true),
      ("cvss_v3_score", entry.cvssScore), ("severity", entry.cvssSeverity),
      ("description", entry.description), ("exploit_available", .bool entry.exploitAvailable),
      ("references", .arr entry.references), ("elapsed_ms", .int elapsed)]

/-- `vulncheck_lookup_async`. -/
def vulncheckLookup (cveId : String) : Tool Params := do
  if settings.vulncheckApiToken = "" then
    return [("source_available", .bool false), ("source", .str "vulncheck"),
      ("cve_id", .str cveId),
      ("error", .str "VulnCheck is not configured. Set VULNCHECK_API_TOKEN in .env.")]
  else
    let startMs ← timeMs
    guarded
      (fun
        | .timeout =>
            [("source_available", .bool false), ("error", .str "VulnCheck API timed out")]
        | e => [("source_available", .bool false), ("error", .str (rt.excText e))])
      (vulncheckSearch settings cveId startMs)

/-! ## §11  The registry -/

/-- `threat_intel_lookup_async`; how the exchanges with the sources end is one reply. -/
def threatIntel (params : ThreatIntelParams) : Tool Params := do
  let startMs ← timeMs
  let replies : IntelReplies ← call (.intel params)
  let elapsed := (← timeMs) - startMs
  return (threatIntelLookup settings.intelKeys params replies).fields elapsed

/-- `_TOOL_REGISTRY`: the function of a tool, of parameters that its schema accepts. -/
def toolFunction (toolName : String) (params : Params) : Tool Params :=
  if toolName = "query_splunk" then splunkQuery rt settings (.ofParams params)
  else if toolName = "query_crowdstrike" then crowdstrikeQuery rt settings (.ofParams params)
  else if toolName = "lookup_threat_intel" then threatIntel settings (threatIntelParams params)
  else if toolName = "query_aws" then awsQuery rt settings (.ofParams params)
  else if toolName = "query_cmdb" then cmdbQuery rt settings (.ofParams params)
  else if toolName = "query_netflow" ∨ toolName = "query_dns_logs" then
    netflowQuery rt settings (.ofParams params)
  else if toolName = "query_backup_systems" then backupQuery rt settings (.ofParams params)
  else if toolName = "lookup_vulncheck" then
    vulncheckLookup rt settings (textOr "" params "cve_id")
  else throw (.python (.keyError toolName))

/-- `await fn(schema_cls(**params))`. -/
def callTool (toolName : String) (params : Params) : Tool Params :=
  if (toolSchemas.lookup toolName).any fun schema => schema.validates params then
    toolFunction rt settings toolName params
  else throw (.python validationError)

/-- How a call of the tool ends, if the timeout does not end it. -/
def outcomeOf : Except VendorExn Params → ToolOutcome
  | .ok fields => .result fields
  | .error e => .raised (rt.excText e)

/-- The tool was cut off, or an exchange with the vendors ended so. -/
def Answers (toolName : String) (params : Params)
    (exchange : List (Async.Answered VendorCall VendorCall.Reply)) (outcome : ToolOutcome) :
    Prop :=
  outcome = .timeout ∨
    ∃ returned, Ends (callTool rt settings toolName params) exchange returned ∧
      outcome = outcomeOf rt returned

end

end AlertTriage.Vendor
