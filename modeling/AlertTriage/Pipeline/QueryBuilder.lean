import AlertTriage.Library.JsonRoundTrip
import AlertTriage.Library.Quoting

/-!
# `services/query_builder.py`

The Splunk queries that are built from typed parameters. The parameters are put between quotes as
they are: a query has the structure that it has for any benign value, and each literal holds the
value that it is for, exactly when every value can stand in a literal (`built_spl_uninjected_iff`).
-/

namespace AlertTriage

open Library Library.Quoting

/-! ## §1  The builders -/

/-- A value between quotes. -/
def quoted (value : String) : String := "\"" ++ value ++ "\""

/-- An integer in an f-string. -/
def intText (i : ℤ) : String := String.ofList (Json.renderInt i)

/-- A text that is there and not empty. -/
def filledText (value : Option String) : Option String := value.filter (· ≠ "")

/-- `SPLBuilder.process_by_host`. -/
def processByHost (hostname : String) (hoursBack : ℤ) (processName : Option String) : String :=
  let earliest := "-" ++ intText hoursBack ++ "h"
  let base := "index=* sourcetype=WinEventLog:Security OR sourcetype=sysmon host=" ++
    quoted hostname ++ " EventCode IN (4688, 1) earliest=" ++ earliest ++ " "
  let named := (filledText processName).elim "" fun name =>
    "(process_name=" ++ quoted name ++ " OR Image=" ++ quoted ("*" ++ name ++ "*") ++ ") "
  base ++ named ++ "| table _time, host, user, process_name, cmdline, parent_process_name"

/-- `SPLBuilder.auth_events_by_user`. -/
def authEventsByUser (username : String) (hoursBack : ℤ) : String :=
  "index=* sourcetype=WinEventLog:Security user=" ++ quoted username ++
    " EventCode IN (4624, 4625, 4648, 4768, 4769) earliest=-" ++ intText hoursBack ++
    "h | table _time, host, user, src_ip, EventCode, LogonType"

/-- `SPLBuilder.network_by_ip`. -/
def networkByIp (ip : String) (hoursBack : ℤ) : String :=
  "index=* sourcetype=firewall OR sourcetype=zeek_conn (src_ip=" ++ quoted ip ++ " OR dest_ip=" ++
    quoted ip ++ ") earliest=-" ++ intText hoursBack ++
    "h | stats sum(bytes_out) as total_bytes_out, count as connections, " ++
    "  dc(dest_port) as unique_ports by src_ip, dest_ip, dest_port | sort - total_bytes_out"

/-- `SPLBuilder.dns_tunneling`. -/
def dnsTunneling (hostname : String) (hoursBack : ℤ) : String :=
  "index=* sourcetype=stream:dns OR sourcetype=zeek_dns host=" ++ quoted hostname ++
    " query_type=TXT earliest=-" ++ intText hoursBack ++
    "h | eval query_len=len(query) | stats count as query_count, avg(query_len) as avg_len, " ++
    "  sum(bytes) as total_bytes by src_ip, dest_ip | where query_count > 100 AND avg_len > 30"

/-- `SPLBuilder.scheduled_tasks`. -/
def scheduledTasks (hostname : String) (hoursBack : ℤ) : String :=
  "index=* sourcetype=WinEventLog:Security host=" ++ quoted hostname ++
    " EventCode IN (4698, 4702) earliest=-" ++ intText hoursBack ++
    "h | table _time, host, user, TaskName, TaskContent"

/-- `SPLBuilder.shadow_copy_deletion`. -/
def shadowCopyDeletion (hoursBack : ℤ) : String :=
  "index=* sourcetype=WinEventLog:System OR sourcetype=sysmon earliest=-" ++ intText hoursBack ++
    "h (CommandLine=" ++ quoted "*vssadmin*delete*" ++ " OR CommandLine=" ++
    quoted "*wmic*shadowcopy*delete*" ++ "  OR CommandLine=" ++
    quoted "*bcdedit*/set*recoveryenabled*no*" ++
    ") | table _time, host, user, cmdline, process_name, parent_process_name"

/-- `SPLBuilder.file_rename_burst`. -/
def fileRenameBurst (hostname : String) (hoursBack : ℤ) : String :=
  "index=* sourcetype=sysmon host=" ++ quoted hostname ++ " EventCode=11 earliest=-" ++
    intText hoursBack ++ "h | eval extension=mvindex(split(TargetFilename, " ++ quoted "." ++
    "), -1) | stats count as renames by extension " ++ "| where renames > 100 | sort - renames"

/-- A call of one of the builders, without its window. -/
inductive SplQuery where
  | processByHost (hostname : String) (processName : Option String)
  | authEventsByUser (username : String)
  | networkByIp (ip : String)
  | dnsTunneling (hostname : String)
  | scheduledTasks (hostname : String)
  | shadowCopyDeletion
  | fileRenameBurst (hostname : String)
deriving DecidableEq, Repr

def SplQuery.text (hoursBack : ℤ) : SplQuery → String
  | .processByHost hostname processName =>
      AlertTriage.processByHost hostname hoursBack processName
  | .authEventsByUser username => AlertTriage.authEventsByUser username hoursBack
  | .networkByIp ip => AlertTriage.networkByIp ip hoursBack
  | .dnsTunneling hostname => AlertTriage.dnsTunneling hostname hoursBack
  | .scheduledTasks hostname => AlertTriage.scheduledTasks hostname hoursBack
  | .shadowCopyDeletion => AlertTriage.shadowCopyDeletion hoursBack
  | .fileRenameBurst hostname => AlertTriage.fileRenameBurst hostname hoursBack

/-- What `_build_spl` reads of a `SplunkQueryInput`. -/
structure SplunkQuery where
  queryType : String
  hostname : Option String
  username : Option String
  ipAddress : Option String
  hoursBack : ℤ
  rawSpl : Option String

/-- `_build_spl`. -/
def buildSpl (params : SplunkQuery) : Option String :=
  if params.queryType = "raw_spl" then params.rawSpl
  else if params.queryType = "process_by_host" then
    (filledText params.hostname).map fun host => processByHost host params.hoursBack none
  else if params.queryType = "auth_events_by_user" then
    (filledText params.username).map fun user => authEventsByUser user params.hoursBack
  else if params.queryType = "network_by_ip" then
    (filledText params.ipAddress).map fun ip => networkByIp ip params.hoursBack
  else if params.queryType = "dns_tunneling" then
    (filledText params.hostname).map fun host => dnsTunneling host params.hoursBack
  else if params.queryType = "scheduled_tasks" then
    (filledText params.hostname).map fun host => scheduledTasks host params.hoursBack
  else if params.queryType = "shadow_copy_deletion" then
    some (shadowCopyDeletion params.hoursBack)
  else if params.queryType = "file_rename_burst" then
    (filledText params.hostname).map fun host => fileRenameBurst host params.hoursBack
  else none

/-- The call of a builder that `_build_spl` makes. -/
def SplunkQuery.call (params : SplunkQuery) : Option SplQuery :=
  if params.queryType = "process_by_host" then
    (filledText params.hostname).map (.processByHost · none)
  else if params.queryType = "auth_events_by_user" then
    (filledText params.username).map .authEventsByUser
  else if params.queryType = "network_by_ip" then
    (filledText params.ipAddress).map .networkByIp
  else if params.queryType = "dns_tunneling" then
    (filledText params.hostname).map .dnsTunneling
  else if params.queryType = "scheduled_tasks" then
    (filledText params.hostname).map .scheduledTasks
  else if params.queryType = "shadow_copy_deletion" then some .shadowCopyDeletion
  else if params.queryType = "file_rename_burst" then
    (filledText params.hostname).map .fileRenameBurst
  else none

/-- Unless it is raw, what `_build_spl` returns is the query of that call. -/
theorem buildSpl_eq {params : SplunkQuery} (hraw : params.queryType ≠ "raw_spl") :
    buildSpl params = params.call.map (SplQuery.text params.hoursBack) := by
  have hmap (value : Option String) (query : String → SplQuery) :
      (value.map fun v => (query v).text params.hoursBack) =
        (value.map query).map (SplQuery.text params.hoursBack) := by
    rw [Option.map_map]
    rfl
  unfold buildSpl SplunkQuery.call
  rw [if_neg hraw]
  split
  · exact hmap _ (.processByHost · none)
  split
  · exact hmap _ .authEventsByUser
  split
  · exact hmap _ .networkByIp
  split
  · exact hmap _ .dnsTunneling
  split
  · exact hmap _ .scheduledTasks
  split
  · rfl
  split
  · exact hmap _ .fileRenameBurst
  · rfl

/-! ## §2  The structure of a query -/

/-- Double quotes, and a backslash takes the next character for itself. -/
def splConvention : Convention Char := ⟨'"', '\\', by decide⟩

def splMarks (spl : String) : List (Mark Char) :=
  marks splConvention ⟨false, false⟩ spl.toList

/-- What of a query is not inside of a literal, the unescaped quotes among it. -/
def splOutside (spl : String) : List (Mark Char) := skeleton (splMarks spl)

def splLiterals (spl : String) : List String :=
  (literals none (splMarks spl)).map String.ofList

/-- The character is between two search terms. -/
def separatesTerms : Mark Char → Bool
  | .outside c => c.isWhitespace || ['|', '[', ']', '(', ')', ','].contains c
  | _ => false

/-- How many terms begin, `inTerm` telling whether one has. -/
def termCount (inTerm : Bool) : List (Mark Char) → ℕ
  | [] => 0
  | m :: ms =>
      if separatesTerms m then termCount false ms
      else (if inTerm then 0 else 1) + termCount true ms

structure SplShape where
  quotes : ℕ
  pipes : ℕ
  brackets : ℕ
  terms : ℕ
deriving DecidableEq, Repr

def splShape (spl : String) : SplShape where
  quotes := (splOutside spl).count .quote
  pipes := (splOutside spl).count (.outside '|')
  brackets := (splOutside spl).count (.outside '[') + (splOutside spl).count (.outside ']')
  terms := termCount false (splOutside spl)

/-- The values that are put between quotes. -/
def SplQuery.values : SplQuery → List String
  | .processByHost hostname processName => hostname :: (filledText processName).toList
  | .authEventsByUser username => [username]
  | .networkByIp ip => [ip]
  | .dnsTunneling hostname => [hostname]
  | .scheduledTasks hostname => [hostname]
  | .shadowCopyDeletion => []
  | .fileRenameBurst hostname => [hostname]

/-- The same call for another value. -/
def SplQuery.withValue (value : String) : SplQuery → SplQuery
  | .processByHost _ processName =>
      .processByHost value ((filledText processName).map fun _ => value)
  | .authEventsByUser _ => .authEventsByUser value
  | .networkByIp _ => .networkByIp value
  | .dnsTunneling _ => .dnsTunneling value
  | .scheduledTasks _ => .scheduledTasks value
  | .shadowCopyDeletion => .shadowCopyDeletion
  | .fileRenameBurst _ => .fileRenameBurst value

/-- The literals that the query is to have. -/
def SplQuery.intendedLiterals : SplQuery → List String
  | .processByHost hostname processName =>
      hostname :: (filledText processName).toList.flatMap fun name => [name, "*" ++ name ++ "*"]
  | .authEventsByUser username => [username]
  | .networkByIp ip => [ip, ip]
  | .dnsTunneling hostname => [hostname]
  | .scheduledTasks hostname => [hostname]
  | .shadowCopyDeletion =>
      ["*vssadmin*delete*", "*wmic*shadowcopy*delete*", "*bcdedit*/set*recoveryenabled*no*"]
  | .fileRenameBurst hostname => [hostname, "."]

/-- A value as hosts, users and addresses have them. -/
def Benign (value : String) : Prop :=
  value ≠ "" ∧ ∀ c ∈ value.toList, c.isAlphanum = true ∨ c ∈ ['-', '.', '_']

/-- The values are in the literals that are for them and nowhere else, and the rest is as it is
for any benign value. -/
structure Uninjected (q : SplQuery) (hoursBack : ℤ) : Prop where
  literals : splLiterals (q.text hoursBack) = q.intendedLiterals
  outside : ∀ value, Benign value →
    splOutside (q.text hoursBack) = splOutside ((q.withValue value).text hoursBack)
  shape : ∀ value, Benign value →
    splShape (q.text hoursBack) = splShape ((q.withValue value).text hoursBack)

/-- The value can stand in a literal: it has no unescaped quote, and no backslash at its end that
escapes what comes next. -/
def SplQuotable (value : String) : Prop := Quotable splConvention value.toList

instance (value : String) : Decidable (SplQuotable value) :=
  inferInstanceAs (Decidable (Quotable _ _))

/-! ## §3  Templates -/

/-- A value between quotes, as a part. -/
def valuePart (value : String) : Part String Char := .literal [] (some value) []

/-- A fixed literal, as a part. -/
def fixedPart (text : String) : Part String Char := .literal text.toList none []

/-- Text with the window in it. -/
def windowParts (before : String) (hoursBack : ℤ) (after : String) : List (Part String Char) :=
  [.plain before.toList, .plain (intText hoursBack).toList, .plain after.toList]

def nameParts (name : String) : List (Part String Char) :=
  [.plain "(process_name=".toList, valuePart name, .plain " OR Image=".toList,
    .literal ['*'] (some name) ['*'], .plain ") ".toList]

/-- The query of the call as a template. -/
def SplQuery.parts (hoursBack : ℤ) : SplQuery → List (Part String Char)
  | .processByHost hostname processName =>
      [.plain "index=* sourcetype=WinEventLog:Security OR sourcetype=sysmon host=".toList,
        valuePart hostname, .plain " EventCode IN (4688, 1) earliest=".toList] ++
      windowParts "-" hoursBack "h" ++ [.plain " ".toList] ++
      (filledText processName).toList.flatMap nameParts ++
      [.plain
        "| table _time, host, user, process_name, cmdline, parent_process_name".toList]
  | .authEventsByUser username =>
      [.plain "index=* sourcetype=WinEventLog:Security user=".toList, valuePart username] ++
      windowParts " EventCode IN (4624, 4625, 4648, 4768, 4769) earliest=-" hoursBack
        "h | table _time, host, user, src_ip, EventCode, LogonType"
  | .networkByIp ip =>
      [.plain "index=* sourcetype=firewall OR sourcetype=zeek_conn (src_ip=".toList,
        valuePart ip, .plain " OR dest_ip=".toList, valuePart ip] ++
      windowParts ") earliest=-" hoursBack
        ("h | stats sum(bytes_out) as total_bytes_out, count as connections, " ++
          "  dc(dest_port) as unique_ports by src_ip, dest_ip, dest_port | sort - total_bytes_out")
  | .dnsTunneling hostname =>
      [.plain "index=* sourcetype=stream:dns OR sourcetype=zeek_dns host=".toList,
        valuePart hostname] ++
      windowParts " query_type=TXT earliest=-" hoursBack
        ("h | eval query_len=len(query) | stats count as query_count, avg(query_len) as avg_len, " ++
          "  sum(bytes) as total_bytes by src_ip, dest_ip | where query_count > 100 AND avg_len > 30")
  | .scheduledTasks hostname =>
      [.plain "index=* sourcetype=WinEventLog:Security host=".toList, valuePart hostname] ++
      windowParts " EventCode IN (4698, 4702) earliest=-" hoursBack
        "h | table _time, host, user, TaskName, TaskContent"
  | .shadowCopyDeletion =>
      windowParts "index=* sourcetype=WinEventLog:System OR sourcetype=sysmon earliest=-" hoursBack
        "h (CommandLine=" ++
      [fixedPart "*vssadmin*delete*", .plain " OR CommandLine=".toList,
        fixedPart "*wmic*shadowcopy*delete*", .plain "  OR CommandLine=".toList,
        fixedPart "*bcdedit*/set*recoveryenabled*no*",
        .plain ") | table _time, host, user, cmdline, process_name, parent_process_name".toList]
  | .fileRenameBurst hostname =>
      [.plain "index=* sourcetype=sysmon host=".toList, valuePart hostname] ++
      windowParts " EventCode=11 earliest=-" hoursBack
        "h | eval extension=mvindex(split(TargetFilename, " ++
      [fixedPart ".", .plain "), -1) | stats count as renames by extension ".toList,
        .plain "| where renames > 100 | sort - renames".toList]

theorem toList_quoted (value : String) :
    (quoted value).toList = splConvention.quote :: (value.toList ++ [splConvention.quote]) := by
  unfold quoted
  rw [String.toList_append, String.toList_append]
  rfl

section Render

/-- A template, filled. -/
abbrev filled (parts : List (Part String Char)) : List Char :=
  render splConvention String.toList parts

variable (parts : List (Part String Char))

theorem filled_append (xs : List (Part String Char)) :
    filled (xs ++ parts) = filled xs ++ filled parts := List.flatMap_append

theorem filled_plain (text : List Char) :
    filled (.plain text :: parts) = text ++ filled parts := List.flatMap_cons

theorem filled_valuePart (value : String) :
    filled (valuePart value :: parts) = (quoted value).toList ++ filled parts := by
  rw [toList_quoted]
  simp [filled, valuePart, render, Part.render]

theorem filled_fixedPart (text : String) :
    filled (fixedPart text :: parts) = (quoted text).toList ++ filled parts := by
  rw [toList_quoted]
  simp [filled, fixedPart, render, Part.render]

theorem filled_windowParts (before : String) (hoursBack : ℤ) (after : String) :
    filled (windowParts before hoursBack after) =
      (before ++ intText hoursBack ++ after).toList := by
  unfold windowParts
  rw [filled_plain, filled_plain, filled_plain, String.toList_append, String.toList_append,
    List.append_assoc]
  exact congrArg _ (congrArg _ (List.append_nil _))

theorem filled_nameParts (name : String) :
    filled (nameParts name) = ("(process_name=" ++ quoted name ++ " OR Image=" ++
      quoted ("*" ++ name ++ "*") ++ ") ").toList := by
  have hstar : "*".toList = ['*'] := rfl
  unfold nameParts
  rw [filled_plain, filled_valuePart, filled_plain]
  simp [filled, render, Part.render, toList_quoted, hstar]

end Render

/-- The query is its template, filled. -/
theorem text_toList (q : SplQuery) (hoursBack : ℤ) :
    (q.text hoursBack).toList = render splConvention String.toList (q.parts hoursBack) := by
  have hnil : filled [] = [] := List.flatMap_nil
  show _ = filled (q.parts hoursBack)
  unfold SplQuery.text SplQuery.parts
  cases q
  case processByHost hostname processName =>
    have hname : filled ((filledText processName).toList.flatMap nameParts) =
        ((filledText processName).elim "" fun name => "(process_name=" ++ quoted name ++
          " OR Image=" ++ quoted ("*" ++ name ++ "*") ++ ") ").toList := by
      cases filledText processName with
      | none => rfl
      | some name =>
          rw [Option.toList_some, List.flatMap_singleton, filled_nameParts]
          rfl
    unfold processByHost
    simp only [filled_append, filled_windowParts, filled_plain, filled_valuePart, hname, hnil,
      String.toList_append, List.append_assoc, List.append_nil]
  case' authEventsByUser => unfold authEventsByUser
  case' networkByIp => unfold networkByIp
  case' dnsTunneling => unfold dnsTunneling
  case' scheduledTasks => unfold scheduledTasks
  case' shadowCopyDeletion => unfold shadowCopyDeletion
  case' fileRenameBurst => unfold fileRenameBurst
  all_goals
    simp only [filled_append, filled_windowParts, filled_plain, filled_valuePart,
      filled_fixedPart, hnil, String.toList_append, List.append_assoc, List.append_nil]

theorem plain_intText (i : ℤ) : Plain splConvention (intText i).toList := by
  have hdigit {c : Char} (h : c.isDigit = true) : c ≠ '"' ∧ c ≠ '\\' := by
    constructor
    · rintro rfl
      exact absurd h (by decide)
    · rintro rfl
      exact absurd h (by decide)
  unfold intText
  rw [String.toList_ofList]
  intro c hc
  cases i with
  | ofNat n => exact hdigit (Json.toDigits_isDigit hc)
  | negSucc n =>
      rcases List.mem_cons.mp hc with rfl | hc
      · decide
      · exact hdigit (Json.toDigits_isDigit hc)

/-- A literal is plain by its characters. -/
theorem plain_literal {text : String} {cs : List Char} (h : text = String.ofList cs)
    (hcs : cs.all (fun c => c != '"' && c != '\\') = true) : Plain splConvention text.toList := by
  rw [h, String.toList_ofList]
  intro c hc
  show c ≠ '"' ∧ c ≠ '\\'
  simpa using List.all_eq_true.mp hcs c hc

/-- Nothing in the builders' own texts is special. -/
theorem parts_wellFormed (q : SplQuery) (hoursBack : ℤ) :
    WellFormed splConvention (q.parts hoursBack) := by
  have hjoined (s t : String) : Plain splConvention (s ++ t).toList ↔
      Plain splConvention s.toList ∧ Plain splConvention t.toList := by
    rw [String.toList_append]
    exact List.forall_mem_append
  unfold SplQuery.parts
  cases q with
  | processByHost hostname processName =>
      have hname : WellFormed splConvention
          ((filledText processName).toList.flatMap nameParts) := by
        cases filledText processName with
        | none => exact wellFormed_nil
        | some name =>
            simp only [Option.toList_some, List.flatMap_singleton, nameParts, valuePart,
              wellFormed_plain, wellFormed_literal, wellFormed_nil, and_true]
            and_intros
            all_goals exact plain_literal rfl rfl
      simp only [windowParts, valuePart, wellFormed_append, wellFormed_plain, wellFormed_literal,
        wellFormed_nil, plain_intText, hname, and_true, true_and]
      and_intros
      all_goals exact plain_literal rfl rfl
  | _ =>
      simp only [windowParts, valuePart, fixedPart, List.cons_append, List.nil_append, hjoined,
        wellFormed_plain, wellFormed_literal, wellFormed_nil, plain_intText, and_true,
        true_and]
      and_intros
      all_goals exact plain_literal rfl rfl

theorem filledText_of_ne {value : String} (h : value ≠ "") :
    filledText (some value) = some value := by
  simp [filledText, h]

/-- What is outside of the literals does not depend on the values. -/
theorem skeleton_withValue {value : String} (h : value ≠ "") (q : SplQuery) (hoursBack : ℤ) :
    ((q.withValue value).parts hoursBack).flatMap Part.skeleton =
      (q.parts hoursBack).flatMap Part.skeleton := by
  cases q with
  | processByHost hostname processName =>
      have hfilled : filledText ((filledText processName).map fun _ => value) =
          (filledText processName).map fun _ => value := by
        cases filledText processName with
        | none => rfl
        | some name => exact filledText_of_ne h
      unfold SplQuery.withValue SplQuery.parts
      dsimp only
      rw [hfilled]
      cases filledText processName with
      | none => rfl
      | some name => rfl
  | _ => rfl

theorem contents_parts (q : SplQuery) (hoursBack : ℤ) :
    contents String.toList (q.parts hoursBack) = q.intendedLiterals.map String.toList := by
  unfold SplQuery.parts SplQuery.intendedLiterals
  cases q with
  | processByHost hostname processName =>
      dsimp only
      cases filledText processName with
      | none =>
          simp only [windowParts, valuePart, Option.toList_none, List.flatMap_nil,
            List.cons_append, List.nil_append, contents_plain, contents_literal, contents_nil,
            Option.elim_some, List.append_nil, List.map_cons, List.map_nil]
      | some name =>
          have hstar : "*".toList = ['*'] := rfl
          simp only [windowParts, valuePart, nameParts, Option.toList_some,
            List.flatMap_singleton, List.cons_append, List.nil_append, contents_plain,
            contents_literal, contents_nil, Option.elim_some, List.append_nil, List.map_cons,
            List.map_nil, String.toList_append, hstar]
  | _ =>
      simp only [windowParts, valuePart, fixedPart, List.cons_append, List.nil_append,
        contents_plain, contents_literal, contents_nil, Option.elim_some, Option.elim_none,
        List.append_nil, List.map_cons, List.map_nil]

theorem splQuotable_starred {name : String} (h : SplQuotable name) :
    SplQuotable ("*" ++ name ++ "*") := by
  unfold SplQuotable
  rw [String.toList_append, String.toList_append]
  have hstar : Quotable splConvention "*".toList := by decide +kernel
  exact (hstar.append h).append hstar

/-- The intended literals can all be read exactly when the values can stand in one. -/
theorem intendedLiterals_quotable_iff (q : SplQuery) :
    (∀ text ∈ q.intendedLiterals, SplQuotable text) ↔ ∀ v ∈ q.values, SplQuotable v := by
  have hfixed : ∀ text ∈ ["*vssadmin*delete*", "*wmic*shadowcopy*delete*",
      "*bcdedit*/set*recoveryenabled*no*", "."], SplQuotable text := by decide +kernel
  unfold SplQuery.intendedLiterals SplQuery.values
  cases q with
  | processByHost hostname processName =>
      dsimp only
      cases filledText processName with
      | none => exact Iff.rfl
      | some name =>
          rw [Option.toList_some, List.flatMap_singleton, List.forall_mem_cons,
            List.forall_mem_cons, List.forall_mem_singleton, List.forall_mem_cons,
            List.forall_mem_singleton]
          exact and_congr_right fun _ => and_iff_left_of_imp splQuotable_starred
  | networkByIp ip => simp
  | shadowCopyDeletion =>
      refine iff_of_true (fun text htext => hfixed text ?_) (by simp)
      exact List.mem_append_left ["."] htext
  | fileRenameBurst hostname =>
      rw [List.forall_mem_cons, List.forall_mem_singleton, List.forall_mem_singleton]
      exact and_iff_left (hfixed "." (by simp))
  | _ => exact Iff.rfl

theorem splQuotable_of_benign {value : String} (h : Benign value) : SplQuotable value := by
  refine quotable_of_plain fun c hc => ?_
  constructor
  · rintro rfl
    exact absurd (h.2 _ hc) (by decide)
  · rintro rfl
    exact absurd (h.2 _ hc) (by decide)

/-- The literals of a query are the intended ones exactly when the values can stand in one. -/
theorem splLiterals_iff (q : SplQuery) (hoursBack : ℤ) :
    splLiterals (q.text hoursBack) = q.intendedLiterals ↔ ∀ v ∈ q.values, SplQuotable v := by
  have hread : splLiterals (q.text hoursBack) = q.intendedLiterals ↔
      literals none (marks splConvention ⟨false, false⟩
          (render splConvention String.toList (q.parts hoursBack))) =
        contents String.toList (q.parts hoursBack) := by
    rw [contents_parts, ← text_toList]
    unfold splLiterals splMarks
    constructor
    · intro h
      rw [← h, List.map_map]
      simp
    · intro h
      rw [h, List.map_map]
      simp
  rw [hread, ← intendedLiterals_quotable_iff]
  have hclosed : (∀ p ∈ q.parts hoursBack, p.Closed splConvention String.toList) ↔
      ∀ text ∈ q.intendedLiterals, SplQuotable text := by
    rw [closed_iff, contents_parts]
    exact List.forall_mem_map
  rw [← hclosed]
  constructor
  · exact closed_of_literals (parts_wellFormed q hoursBack)
  · exact fun h => (render_closed (parts_wellFormed q hoursBack) h).2

/-- With such values, what is outside of the literals is the template's. -/
theorem splOutside_of_quotable {q : SplQuery} (h : ∀ v ∈ q.values, SplQuotable v)
    (hoursBack : ℤ) :
    splOutside (q.text hoursBack) = (q.parts hoursBack).flatMap Part.skeleton := by
  unfold splOutside splMarks
  rw [text_toList]
  refine (render_closed (parts_wellFormed q hoursBack) ?_).1
  rw [closed_iff, contents_parts]
  exact List.forall_mem_map.mpr ((intendedLiterals_quotable_iff q).mpr h)

theorem values_withValue {value : String} (hne : value ≠ "") (q : SplQuery) :
    ∀ v ∈ (q.withValue value).values, v = value := by
  cases q with
  | processByHost hostname processName =>
      unfold SplQuery.withValue SplQuery.values
      dsimp only
      cases filledText processName with
      | none => simp [filledText]
      | some name => simp [filledText, hne]
  | _ => simp [SplQuery.withValue, SplQuery.values]

theorem uninjected_iff (q : SplQuery) (hoursBack : ℤ) :
    Uninjected q hoursBack ↔ ∀ v ∈ q.values, SplQuotable v := by
  constructor
  · intro h
    exact (splLiterals_iff q hoursBack).mp h.literals
  · intro h
    have houtside (value : String) (hvalue : Benign value) : splOutside (q.text hoursBack) =
        splOutside ((q.withValue value).text hoursBack) := by
      have hbenign : ∀ v ∈ (q.withValue value).values, SplQuotable v := by
        intro v hv
        rw [values_withValue hvalue.1 q v hv]
        exact splQuotable_of_benign hvalue
      rw [splOutside_of_quotable h, splOutside_of_quotable hbenign,
        skeleton_withValue hvalue.1]
    refine ⟨(splLiterals_iff q hoursBack).mpr h, houtside, fun value hvalue => ?_⟩
    unfold splShape
    rw [houtside value hvalue]

/-- **A built query is not injected into** exactly when each of its values can stand in a literal,
and `_build_spl` returns such queries. -/
theorem built_spl_uninjected_iff (q : SplQuery) (hoursBack : ℤ) :
    (Uninjected q hoursBack ↔ ∀ v ∈ q.values, SplQuotable v) ∧
      ∀ params : SplunkQuery, params.queryType ≠ "raw_spl" →
        buildSpl params = params.call.map (SplQuery.text params.hoursBack) :=
  ⟨uninjected_iff q hoursBack, fun _ hraw => buildSpl_eq hraw⟩

/-- The logons of a user whose name has a backslash in it. -/
def logonQuery : SplunkQuery :=
  ⟨"auth_events_by_user", none, some "CORP\\jsmith", none, 336, none⟩

theorem logons_uninjected : Uninjected (.authEventsByUser "CORP\\jsmith") 336 ∧
    buildSpl logonQuery = logonQuery.call.map (SplQuery.text 336) := by
  obtain ⟨hiff, hbuild⟩ := built_spl_uninjected_iff (.authEventsByUser "CORP\\jsmith") 336
  exact ⟨hiff.mpr (by decide +kernel), hbuild logonQuery (by decide)⟩

/-- A host name that ends its literal and goes on with a command. -/
theorem delete_injected : ¬ ∀ (q : SplQuery) (hoursBack : ℤ), Uninjected q hoursBack := by
  intro h
  have hliterals := (h (.scheduledTasks "web\" | delete \"") 72).literals
  revert hliterals
  decide +kernel

end AlertTriage
