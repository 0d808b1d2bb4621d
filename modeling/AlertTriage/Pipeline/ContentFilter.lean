import AlertTriage.Runtime.JwtService

/-!
# `security/content_filter.py`

The check of a tool call's parameters. The keyword search is the regular
expression `\b(delete|…|sendemail)\b` under `IGNORECASE`: a keyword in any
letter case, with no word character right before or after it. Which characters
outside ASCII are word characters is Unicode's to say (`isWordUnicode`).

The check raises on parameters of a shape it does not expect.
-/

namespace AlertTriage

open Library

/-! ## §1  The keyword search -/

/-- The letter that a character matches when case is ignored: beyond ASCII,
the dotted and dotless i, the long s and the Kelvin sign. -/
def foldCase (c : Char) : Char :=
  if c.toNat = 0x130 ∨ c.toNat = 0x131 then 'i'
  else if c.toNat = 0x17F then 's'
  else if c.toNat = 0x212A then 'k'
  else c.toLower

/-- `\w`. -/
def isWord (isWordUnicode : Char → Bool) (c : Char) : Bool :=
  c.isAlphanum || c == '_' || (decide (128 ≤ c.toNat) && isWordUnicode c)

/-- The word stands at the front of the text, and no word goes on behind it. -/
def startsWord (isWordUnicode : Char → Bool) (word : List Char) :
    List Char → Bool
  | cs =>
      (cs.take word.length).map foldCase == word &&
        !((cs.drop word.length).head?.any (isWord isWordUnicode))

/-- `search`: one of the words stands somewhere in the text, `inWord` telling
whether the character before is a word character. -/
def findsWord (isWordUnicode : Char → Bool) (words : List (List Char)) :
    Bool → List Char → Bool
  | _, [] => false
  | inWord, c :: cs =>
      (!inWord && words.any fun w => startsWord isWordUnicode w (c :: cs)) ||
        findsWord isWordUnicode words (isWord isWordUnicode c) cs

/-- The keywords of `_DANGEROUS_SPL_RE`. -/
def dangerousSpl : List String :=
  ["delete", "drop", "insert", "update", "output", "sendemail"]

def isDangerousSpl (isWordUnicode : Char → Bool) (spl : String) : Bool :=
  findsWord isWordUnicode (dangerousSpl.map String.toList) false spl.toList

example : isDangerousSpl (fun _ => false) "index=main | Delete" = true := by
  decide +kernel

example : isDangerousSpl (fun _ => false) "index=main undeleted" = false := by
  decide +kernel

/-! ## §2  The check -/

/-- `_SSRF_TARGETS`. -/
def ssrfTargets : List String :=
  ["169.254.169.254", "metadata.google.internal", "localhost", "127.0.0.1",
    "0.0.0.0"]

/-- `target in value`: a substring of text, an item of a list, a key of an
object; other values raise. -/
def pyContains (target : String) : Json → Except PyExn Bool
  | .str s => .ok (decide (target.toList <:+: s.toList))
  | .arr items =>
      .ok (items.any fun | .str s => s == target | _ => false)
  | .obj fields => .ok (fields.any fun f => f.1 == target)
  | _ => .error (.other "argument is not iterable")

/-- `in` works on the value. -/
def searchable : Json → Bool
  | .str _ => true
  | .arr _ => true
  | .obj _ => true
  | _ => false

theorem pyContains_ok {v : Json} (h : searchable v = true) (target : String) :
    ∃ found, pyContains target v = .ok found := by
  cases v with
  | str s => exact ⟨_, rfl⟩
  | arr items => exact ⟨_, rfl⟩
  | obj fields => exact ⟨_, rfl⟩
  | _ => cases h

theorem pyContains_raises {v : Json} (h : searchable v = false) (target : String) :
    ∃ e, pyContains target v = .error e := by
  cases v with
  | str s => cases h
  | arr items => cases h
  | obj fields => cases h
  | _ => exact ⟨_, rfl⟩

/-- `any(target in value for target in targets)`. -/
def containsAny (value : Json) : List String → Except PyExn Bool
  | [] => .ok false
  | target :: rest => do
      if ← pyContains target value then return true
      containsAny value rest

/-- `params.get(a) or params.get(b) or … or ""`. -/
def firstTruthy (params : Params) : List String → Json
  | [] => .str ""
  | key :: keys =>
      match Json.lookup key params with
      | some v => if v.truthy then v else firstTruthy params keys
      | none => firstTruthy params keys

/-- The integer that a value is for `isinstance(value, int)`: a bool is one. -/
def asPyInt? : Json → Option ℤ
  | .int i => some i
  | .bool b => some (if b then 1 else 0)
  | _ => none

/-- The `raw_spl` of a Splunk query holds a keyword; a search in anything but
text raises. -/
def splRefused (isWordUnicode : Char → Bool) (params : Params) :
    Except PyExn (Option String) :=
  match Json.lookup "raw_spl" params with
  | none => .ok none
  | some (.str spl) =>
      .ok (if isDangerousSpl isWordUnicode spl then
        some ("Dangerous SPL keyword detected in raw_spl: " ++
          String.ofList (spl.toList.take 100))
      else none)
  | some raw =>
      if raw.truthy then .error (.other "expected string or bytes-like object")
      else .ok none

/-- `validate_tool_params`: safe or not, and the reason. -/
def validateToolParams (isWordUnicode : Char → Bool) (toolName : String)
    (params : Params) : Except PyExn (Bool × String) := do
  if toolName = "query_splunk" then
    if let some reason ← splRefused isWordUnicode params then
      return (false, reason)
  if toolName = "lookup_threat_intel" ∨ toolName = "query_netflow" then
    let ip := firstTruthy params ["ioc_value", "src_ip", "dst_ip"]
    if ← containsAny ip ssrfTargets then
      return (false, "SSRF target detected in IP parameter: " ++ pyStr ip)
  match (Json.lookup "hours_back" params).bind asPyInt? with
  | some hours =>
      if 8760 < hours then
        return (false, "hours_back=" ++ pyStr (.int hours) ++
          " exceeds maximum (8760h)")
      else return (true, "ok")
  | none => return (true, "ok")

/-- The filter lets the call through. -/
def passesFilter (isWordUnicode : Char → Bool) (toolName : String)
    (params : Params) : Bool :=
  match validateToolParams isWordUnicode toolName params with
  | .ok (safe, _) => safe
  | .error _ => false

end AlertTriage
