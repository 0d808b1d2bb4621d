import AlertTriage.Pipeline.ContentFilter
import Mathlib.Logic.Equiv.Basic

/-!
# The values of a payload

A payload is decoded JSON, and the parsers read it with `.get`, `or`, `str`,
`int` and `float`; each raises on the values that it is not made for. What
these make of texts, and the digest of an identifier, is the language's
(`PyBuiltins`).
-/

namespace AlertTriage

open Library

/-! ## §1  Builtins -/

/-- The builtins that the parsers use on texts: `sha256(text).hexdigest()[:16]`,
`str`, and `int` and `float` of a text, which may refuse it. -/
structure PyBuiltins where
  sha256Hex16 : String → String
  str : Json → String
  intOfText : String → Option ℤ
  floatOfText : String → Option Json
  str_text : ∀ s, str (.str s) = s
  str_ne_empty : ∀ j, str j = "" → j = .str ""

def validationError : PyExn := .other "validation error"

def attributeError : PyExn := .other "object has no attribute"

def overflowError : PyExn := .other "cannot convert float infinity to integer"

/-- The letters whose lower case is an ASCII letter: `A` to `Z` and the Kelvin
sign. -/
def lowerChar (c : Char) : Char :=
  if c.toNat = 0x212A then 'k' else c.toLower

/-- `s.lower()`, as far as it is compared with ASCII texts. -/
def lowered (s : String) : String := String.ofList (s.toList.map lowerChar)

/-- `s[:n]`. -/
def textTake (n : ℕ) (s : String) : String := String.ofList (s.toList.take n)

/-! ## §2  Access -/

/-- `.get` is a method of objects only. -/
def fieldsOf : Json → Except PyExn Params
  | .obj fields => .ok fields
  | _ => .error attributeError

/-- `fields.get(key, default)`. -/
def getOr (fields : Params) (key : String) (default : Json) : Json :=
  (Json.lookup key fields).getD default

/-- `fields.get(key)`. -/
def get (fields : Params) (key : String) : Json := getOr fields key .null

/-- `a or b`. -/
def pyOr (a b : Json) : Json := if a.truthy then a else b

/-- A field of type `str | None`. -/
def optionalStr : Json → Except PyExn (Option String)
  | .null => .ok none
  | .str s => .ok (some s)
  | _ => .error validationError

/-- A field of type `str`. -/
def requiredStr : Json → Except PyExn String
  | .str s => .ok s
  | _ => .error validationError

/-! ## §3  Numbers -/

/-- The decimal is beyond the doubles. -/
def floatOverflows (mantissa exponent : ℤ) : Bool :=
  match exponent with
  | .ofNat k => decide (2 ^ 1024 - 2 ^ 970 ≤ mantissa.natAbs * 10 ^ k)
  | .negSucc k => decide ((2 ^ 1024 - 2 ^ 970) * 10 ^ (k + 1) ≤ mantissa.natAbs)

/-- `_int_or_none`: an infinity raises, which nothing catches. -/
def intOrNone (py : PyBuiltins) : Json → Except PyExn (Option ℤ)
  | .int i => .ok (some i)
  | .bool b => .ok (some (if b then 1 else 0))
  | .str s => .ok (py.intOfText s)
  | .float m e =>
      if floatOverflows m e then .error overflowError
      else .ok (pyInt (.float m e))
  | .infinity _ => .error overflowError
  | _ => .ok none

/-- `int(x)` where nothing is caught. -/
def pyIntOf (py : PyBuiltins) (j : Json) : Except PyExn ℤ := do
  match ← intOrNone py j with
  | some i => return i
  | none => throw (.other "int() argument")

/-- `float(x)`: a number. -/
def pyFloatOf (py : PyBuiltins) : Json → Except PyExn Json
  | .int i =>
      if 2 ^ 1024 - 2 ^ 970 ≤ i.natAbs then
        .error (.other "int too large to convert to float")
      else .ok (.int i)
  | .bool b => .ok (.int (if b then 1 else 0))
  | .float m e => .ok (.float m e)
  | .nan => .ok .nan
  | .infinity negative => .ok (.infinity negative)
  | .str s =>
      match py.floatOfText s with
      | some x => .ok x
      | none => .error (.other "could not convert string to float")
  | _ => .error (.other "float() argument")

/-- `n <= x` for a number. -/
def atLeast (n : ℤ) : Json → Bool
  | .int i => decide (n ≤ i)
  | .bool b => decide (n ≤ if b then 1 else 0)
  | .float m (.ofNat k) => decide (n ≤ m * 10 ^ k)
  | .float m (.negSucc k) => decide (n * 10 ^ (k + 1) ≤ m)
  | .infinity negative => !negative
  | _ => false

/-- `x == n` for a number. -/
def isNumber (n : ℤ) : Json → Bool
  | .int i => decide (i = n)
  | .bool b => decide ((if b then 1 else 0) = n)
  | .float m (.ofNat k) => decide (m * 10 ^ k = n)
  | .float m (.negSucc k) => decide (m = n * 10 ^ (k + 1))
  | _ => false

/-! ## §4  Sorted texts -/

mutual
/-- The keys of every object in order, as `sort_keys` writes them. -/
def sortKeys : Json → Json
  | .arr items => .arr (sortItems items)
  | .obj fields =>
      .obj ((sortFields fields).insertionSort fun a b => a.1 ≤ b.1)
  | j => j

def sortItems : List Json → List Json
  | [] => []
  | v :: vs => sortKeys v :: sortItems vs

def sortFields : List (String × Json) → List (String × Json)
  | [] => []
  | (k, v) :: fs => (k, sortKeys v) :: sortFields fs
end

/-- `json.dumps(fields)`. -/
def jsonDumps (fields : Params) : String := Json.dumps pythonStyle (.obj fields)

/-- `json.dumps(fields, sort_keys=True)`. -/
def jsonDumpsSorted (fields : Params) : String :=
  Json.dumps pythonStyle (sortKeys (.obj fields))

/-! ## §5  Builtins for examples -/

theorem pyStr_ne_empty (j : Json) (h : pyStr j = "") : j = .str "" := by
  have hdumps : ∀ j, Json.dumps pythonStyle j ≠ "" := by
    intro j hj
    obtain ⟨c, rest, hc, -⟩ := Json.render_head pythonStyle j
    have hlist : Json.render pythonStyle j = [] := by
      simpa [Json.dumps] using hj
    rw [hc] at hlist
    exact absurd hlist (by simp)
  cases j with
  | str s => exact congrArg Json.str h
  | null => exact absurd h (by decide)
  | bool b => cases b <;> exact absurd h (by decide)
  | int i => exact absurd h (hdumps _)
  | float m e => exact absurd h (hdumps _)
  | nan => exact absurd h (hdumps _)
  | infinity negative => exact absurd h (hdumps _)
  | arr items => exact absurd h (hdumps _)
  | obj fields => exact absurd h (hdumps _)

/-- Builtins with the digests of the examples. -/
def plainBuiltins : PyBuiltins where
  sha256Hex16 s :=
    Equiv.swap "splunk:idx:12345" "15ef9bbecabd794f"
      (Equiv.swap "splunk:" "ca77b4ad7cc6e8e8" s)
  str := pyStr
  intOfText s := pyInt (.str s)
  floatOfText s :=
    match Json.loads s with
    | some (.int i) => some (.int i)
    | some (.float m e) => some (.float m e)
    | _ => none
  str_text _ := rfl
  str_ne_empty := pyStr_ne_empty

theorem plainBuiltins_injective :
    Function.Injective plainBuiltins.sha256Hex16 :=
  (Equiv.injective _).comp (Equiv.injective _)

end AlertTriage
