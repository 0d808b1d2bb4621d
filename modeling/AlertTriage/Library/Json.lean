import Mathlib.Data.Int.Notation
import Mathlib.Data.List.Nodup
import Mathlib.Tactic.Common

/-!
# JSON values and their text

JSON as the standard libraries of scripting languages read and write it: a
value type, the decoder (`loads`) and the encoder (`dumps`), both on lists of
characters so that they evaluate in the kernel.

- Integers are unbounded and kept apart from numbers written with a fraction
  or an exponent, which are kept as the exact decimal they spell.
- Objects are association lists in insertion order; a repeated key keeps its
  place and takes the last value.
- A `\u` escape of half a surrogate pair has no character of its own and is
  read as U+FFFD.

The decoder runs on fuel; `loads` supplies more than any text can use, one
unit at most being spent for each half character. `JsonRoundTrip` proves that
it reads back everything the encoder writes.
-/

namespace AlertTriage.Library

/-- A JSON value, with the non-finite numbers that decoders commonly let through. -/
inductive Json where
  | null
  | bool (b : Bool)
  | int (i : ℤ)
  | float (mantissa exponent : ℤ)
  | nan
  | infinity (negative : Bool)
  | str (s : String)
  | arr (items : List Json)
  | obj (fields : List (String × Json))
deriving Repr

namespace Json

/-! ## Objects as dictionaries -/

/-- `d[key] = value`: a present key keeps its place. -/
def upsert {α : Type} (key : String) (value : α) :
    List (String × α) → List (String × α)
  | [] => [(key, value)]
  | (k, v) :: rest =>
      if k = key then (k, value) :: rest else (k, v) :: upsert key value rest

/-- The dictionary built from decoded pairs, in order. -/
def ofPairs (pairs : List (String × Json)) : List (String × Json) :=
  pairs.foldl (fun d p => upsert p.1 p.2 d) []

/-- `d.get(key)`. -/
def lookup {α : Type} (key : String) (fields : List (String × α)) : Option α :=
  (fields.find? (fun p => decide (p.1 = key))).map Prod.snd

/-- `d.pop(key, None)`. -/
def remove {α : Type} (key : String) (fields : List (String × α)) :
    List (String × α) :=
  fields.filter (fun p => decide (p.1 ≠ key))

theorem lookup_upsert {α : Type} (key : String) (value : α)
    (fields : List (String × α)) :
    lookup key (upsert key value fields) = some value := by
  induction fields with
  | nil => simp [upsert, lookup]
  | cons f fields ih =>
      obtain ⟨k, v⟩ := f
      by_cases h : k = key
      · simp [upsert, lookup, h]
      · simpa [upsert, lookup, h] using ih

theorem lookup_cons {α : Type} (key k : String) (v : α)
    (fields : List (String × α)) :
    lookup key ((k, v) :: fields) = if k = key then some v else lookup key fields := by
  by_cases h : k = key
  · simp [lookup, h]
  · simp [lookup, h]

theorem lookup_upsert_ne {α : Type} {key key' : String} (h : key' ≠ key)
    (value : α) (fields : List (String × α)) :
    lookup key' (upsert key value fields) = lookup key' fields := by
  induction fields with
  | nil => simp [upsert, lookup, Ne.symm h]
  | cons f fields ih =>
      obtain ⟨k, v⟩ := f
      by_cases hk : k = key
      · subst hk
        simp only [upsert, if_true, lookup_cons]
        rw [if_neg (Ne.symm h), if_neg (Ne.symm h)]
      · simp only [upsert, if_neg hk, lookup_cons, ih]

theorem mem_of_lookup {α : Type} {key : String} {value : α} {l : List (String × α)}
    (h : lookup key l = some value) : (key, value) ∈ l := by
  unfold lookup at h
  obtain ⟨p, hp, rfl⟩ := Option.map_eq_some_iff.mp h
  have hkey : p.1 = key := by simpa using List.find?_some hp
  rw [← hkey]
  exact List.mem_of_find?_eq_some hp

theorem lookup_remove {α : Type} (key : String) (fields : List (String × α)) :
    lookup key (remove key fields) = none := by
  unfold lookup remove
  rw [Option.map_eq_none_iff, List.find?_eq_none]
  intro p hp
  simpa using (List.mem_filter.mp hp).2

theorem lookup_remove_ne {α : Type} {key key' : String} (h : key' ≠ key)
    (fields : List (String × α)) :
    lookup key' (remove key fields) = lookup key' fields := by
  induction fields with
  | nil => rfl
  | cons f fields ih =>
      obtain ⟨k, v⟩ := f
      by_cases hk : k = key
      · subst hk
        rw [lookup_cons, if_neg (Ne.symm h), ← ih]
        simp [remove]
      · have hcons : remove key ((k, v) :: fields) = (k, v) :: remove key fields := by
          simp [remove, hk]
        rw [hcons, lookup_cons, lookup_cons, ih]

/-- A key is written in its place, or after the others. -/
theorem keys_upsert {α : Type} (key : String) (v : α) (fields : List (String × α)) :
    (upsert key v fields).map Prod.fst =
      if key ∈ fields.map Prod.fst then fields.map Prod.fst else fields.map Prod.fst ++ [key] := by
  induction fields with
  | nil => simp [upsert]
  | cons f fs ih =>
      obtain ⟨k, w⟩ := f
      by_cases hk : k = key
      · simp [upsert, hk]
      · simp only [upsert, if_neg hk, List.map_cons, List.mem_cons, Ne.symm hk, false_or, ih]
        split
        · rfl
        · rfl

theorem mem_upsert {α : Type} {key : String} {v : α} {fields : List (String × α)}
    {f : String × α} (h : f ∈ upsert key v fields) : f = (key, v) ∨ f ∈ fields := by
  induction fields with
  | nil => exact .inl (by simpa [upsert] using h)
  | cons g fs ih =>
      obtain ⟨k, w⟩ := g
      by_cases hk : k = key
      · subst hk
        simp only [upsert, if_true, List.mem_cons] at h
        exact h.imp_right (List.mem_cons_of_mem _)
      · simp only [upsert, if_neg hk, List.mem_cons] at h
        rcases h with rfl | h
        · exact .inr List.mem_cons_self
        · exact (ih h).imp_right (List.mem_cons_of_mem _)

/-- The string in a JSON string. -/
def asStr? : Json → Option String
  | .str s => some s
  | _ => none

/-- The fields of a JSON object. -/
def asObj? : Json → Option (List (String × Json))
  | .obj fields => some fields
  | _ => none

/-- Is the decimal `mantissa * 10 ^ exponent` nonzero as a double? Below half
of the least subnormal it reads as zero. -/
def floatNonzero (mantissa exponent : ℤ) : Bool :=
  let m := mantissa.natAbs
  match exponent with
  | .ofNat _ => decide (m ≠ 0)
  | .negSucc k => decide (Nat.pow 10 (k + 1) < m * Nat.pow 2 1075)

/-- Truth of a value in a condition: empty and zero values are false. -/
def truthy : Json → Bool
  | .null => false
  | .bool b => b
  | .int i => decide (i ≠ 0)
  | .float m e => floatNonzero m e
  | .nan => true
  | .infinity _ => true
  | .str s => decide (s ≠ "")
  | .arr items => !items.isEmpty
  | .obj fields => !fields.isEmpty

/-! ## Characters -/

/-- The whitespace between tokens. -/
def isWs (c : Char) : Bool :=
  c == ' ' || c == '\t' || c == '\n' || c == '\r'

def skipWs (cs : List Char) : List Char := cs.dropWhile isWs

/-- The lower-case hexadecimal digit of a number below 16. -/
def hexDigit (n : ℕ) : Char :=
  if n < 10 then Char.ofNat (48 + n) else Char.ofNat (87 + n)

/-- The value of a hexadecimal digit of either case. -/
def hexVal (c : Char) : Option ℕ :=
  let n := c.toNat
  if 48 ≤ n ∧ n ≤ 57 then some (n - 48)
  else if 97 ≤ n ∧ n ≤ 102 then some (n - 87)
  else if 65 ≤ n ∧ n ≤ 70 then some (n - 55)
  else none

/-- The value of the four digits of a `\u` escape. -/
def hex4 (a b c d : Char) : Option ℕ := do
  let a ← hexVal a
  let b ← hexVal b
  let c ← hexVal c
  let d ← hexVal d
  return ((a * 16 + b) * 16 + c) * 16 + d

def isHigh (n : ℕ) : Bool := decide (0xD800 ≤ n ∧ n < 0xDC00)

def isLow (n : ℕ) : Bool := decide (0xDC00 ≤ n ∧ n < 0xE000)

/-- The character of one code unit that belongs to no pair. -/
def unitChar (n : ℕ) : Char :=
  if isHigh n || isLow n then Char.ofNat 0xFFFD else Char.ofNat n

/-- The character of a surrogate pair. -/
def pairChar (hi lo : ℕ) : Char :=
  Char.ofNat (0x10000 + (hi - 0xD800) * 0x400 + (lo - 0xDC00))

/-- The characters of a sequence of code points and escaped code units. -/
def joinUnits : List ℕ → List Char
  | [] => []
  | [n] => [unitChar n]
  | n :: m :: rest =>
      if isHigh n && isLow m then pairChar n m :: joinUnits rest
      else unitChar n :: joinUnits (m :: rest)

/-- The character named by the letter after a backslash. -/
def simpleEscape (c : Char) : Option Char :=
  if c = '"' then some '"'
  else if c = '\\' then some '\\'
  else if c = '/' then some '/'
  else if c = 'b' then some (Char.ofNat 8)
  else if c = 'f' then some (Char.ofNat 12)
  else if c = 'n' then some '\n'
  else if c = 'r' then some '\r'
  else if c = 't' then some '\t'
  else none

/-! ## The decoder -/

/-- The rest of a string literal after its opening quote: its code points and
what follows the closing quote. Raw control characters are refused. -/
def unescape : List Char → Option (List ℕ × List Char)
  | [] => none
  | '"' :: rest => some ([], rest)
  | '\\' :: 'u' :: a :: b :: c :: d :: rest =>
      match hex4 a b c d with
      | none => none
      | some n => (unescape rest).map fun r => (n :: r.1, r.2)
  | '\\' :: c :: rest =>
      match simpleEscape c with
      | none => none
      | some c' => (unescape rest).map fun r => (c'.toNat :: r.1, r.2)
  | c :: rest =>
      if c.toNat < 0x20 ∨ c = '\\' then none
      else (unescape rest).map fun r => (c.toNat :: r.1, r.2)

/-- The string of a literal's code points. -/
def unitsStr (units : List ℕ) : String := String.ofList (joinUnits units)

/-- Digits at the head of a text, and the rest. -/
def digits (cs : List Char) : List Char × List Char :=
  (cs.takeWhile Char.isDigit, cs.dropWhile Char.isDigit)

/-- The exponent part, if one is there. -/
def exponentPart : List Char → Option (ℤ × List Char)
  | e :: rest =>
      if e = 'e' ∨ e = 'E' then
        match rest with
        | '-' :: r =>
            match digits r with
            | ([], _) => none
            | (ds, r') => some (-(Nat.ofDigitChars 10 ds 0 : ℤ), r')
        | '+' :: r =>
            match digits r with
            | ([], _) => none
            | (ds, r') => some ((Nat.ofDigitChars 10 ds 0 : ℤ), r')
        | r =>
            match digits r with
            | ([], _) => none
            | (ds, r') => some ((Nat.ofDigitChars 10 ds 0 : ℤ), r')
      else none
  | [] => none

/-- The fraction part, if one is there: its digits and the rest. -/
def fractionPart : List Char → List Char × List Char
  | '.' :: rest =>
      match digits rest with
      | ([], _) => ([], '.' :: rest)
      | (ds, r) => (ds, r)
  | cs => ([], cs)

/-- The integer part: a lone `0` or a digit run that does not start with it. -/
def integerPart (cs : List Char) : Option (List Char × List Char) :=
  match cs with
  | '0' :: rest => some (['0'], rest)
  | _ =>
      match digits cs with
      | ([], _) => none
      | (ds, r) => some (ds, r)

/-- An unsigned number, given its sign. It is an integer unless a fraction or
an exponent follows. -/
def unsigned (sign : ℤ) (cs : List Char) : Option (Json × List Char) :=
  match integerPart cs with
  | none => none
  | some (ds, r) =>
      let (fs, r') := fractionPart r
      let mantissa : ℤ := sign * (Nat.ofDigitChars 10 (ds ++ fs) 0 : ℤ)
      match exponentPart r' with
      | some (e, r'') => some (.float mantissa (e - fs.length), r'')
      | none =>
          if fs = [] then some (.int mantissa, r')
          else some (.float mantissa (-(fs.length : ℤ)), r')

def number : List Char → Option (Json × List Char)
  | '-' :: cs => unsigned (-1) cs
  | cs => unsigned 1 cs

/-- The literal names, with the three non-finite numbers. -/
def literal : List Char → Option (Json × List Char)
  | 'n' :: 'u' :: 'l' :: 'l' :: r => some (.null, r)
  | 't' :: 'r' :: 'u' :: 'e' :: r => some (.bool true, r)
  | 'f' :: 'a' :: 'l' :: 's' :: 'e' :: r => some (.bool false, r)
  | 'N' :: 'a' :: 'N' :: r => some (.nan, r)
  | 'I' :: 'n' :: 'f' :: 'i' :: 'n' :: 'i' :: 't' :: 'y' :: r =>
      some (.infinity false, r)
  | '-' :: 'I' :: 'n' :: 'f' :: 'i' :: 'n' :: 'i' :: 't' :: 'y' :: r =>
      some (.infinity true, r)
  | _ => none

mutual
/-- One value at the head of a text without leading whitespace. -/
def value : ℕ → List Char → Option (Json × List Char)
  | 0, _ => none
  | n + 1, cs =>
      match cs with
      | '"' :: r => (unescape r).map fun p => (.str (unitsStr p.1), p.2)
      | '[' :: r =>
          match skipWs r with
          | ']' :: r' => some (.arr [], r')
          | r' => (items n r').map fun p => (.arr p.1, p.2)
      | '{' :: r =>
          match skipWs r with
          | '}' :: r' => some (.obj [], r')
          | r' => (members n r').map fun p => (.obj (ofPairs p.1), p.2)
      | cs =>
          match literal cs with
          | some p => some p
          | none => number cs

/-- The items of an array up to its closing bracket. -/
def items : ℕ → List Char → Option (List Json × List Char)
  | 0, _ => none
  | n + 1, cs =>
      match value n cs with
      | none => none
      | some (v, r) =>
          match skipWs r with
          | ',' :: r' => (items n (skipWs r')).map fun p => (v :: p.1, p.2)
          | ']' :: r' => some ([v], r')
          | _ => none

/-- The members of an object up to its closing brace. -/
def members : ℕ → List Char → Option (List (String × Json) × List Char)
  | 0, _ => none
  | n + 1, cs =>
      match cs with
      | '"' :: r =>
          match unescape r with
          | none => none
          | some (k, r1) =>
              match skipWs r1 with
              | ':' :: r2 =>
                  match value n (skipWs r2) with
                  | none => none
                  | some (v, r3) =>
                      match skipWs r3 with
                      | ',' :: r4 =>
                          (members n (skipWs r4)).map fun p =>
                            ((unitsStr k, v) :: p.1, p.2)
                      | '}' :: r4 => some ([(unitsStr k, v)], r4)
                      | _ => none
              | _ => none
      | _ => none
end

/-- Decode a whole text; `none` is the decoder's error. -/
def loadsChars (cs : List Char) : Option Json :=
  match value (2 * cs.length + 2) (skipWs cs) with
  | some (v, r) => if skipWs r = [] then some v else none
  | none => none

def loads (s : String) : Option Json := loadsChars s.toList

/-! ## The encoder -/

/-- How an encoder writes: whether it escapes everything outside printable
ASCII, and whether it puts a blank after separators. -/
structure Style where
  asciiOnly : Bool
  spaced : Bool
deriving DecidableEq, Repr

/-- `\uXXXX`. -/
def escapeUnit (n : ℕ) : List Char :=
  ['\\', 'u', hexDigit (n / 4096), hexDigit (n / 256 % 16),
    hexDigit (n / 16 % 16), hexDigit (n % 16)]

/-- A character above the basic plane as two escaped code units. -/
def escapePair (n : ℕ) : List Char :=
  escapeUnit (0xD800 + (n - 0x10000) / 0x400) ++
    escapeUnit (0xDC00 + (n - 0x10000) % 0x400)

def escapeChar (style : Style) (c : Char) : List Char :=
  if c = '"' then ['\\', '"']
  else if c = '\\' then ['\\', '\\']
  else if c = '\n' then ['\\', 'n']
  else if c = '\r' then ['\\', 'r']
  else if c = '\t' then ['\\', 't']
  else if c = Char.ofNat 8 then ['\\', 'b']
  else if c = Char.ofNat 12 then ['\\', 'f']
  else if c.toNat < 0x20 then escapeUnit c.toNat
  else if style.asciiOnly ∧ 0x7F ≤ c.toNat then
    if c.toNat < 0x10000 then escapeUnit c.toNat else escapePair c.toNat
  else [c]

def renderStr (style : Style) (s : String) : List Char :=
  '"' :: (s.toList.flatMap (escapeChar style) ++ ['"'])

def renderInt : ℤ → List Char
  | .ofNat n => Nat.toDigits 10 n
  | .negSucc n => '-' :: Nat.toDigits 10 (n + 1)

def blank (style : Style) : List Char := if style.spaced then [' '] else []

mutual
def render (style : Style) : Json → List Char
  | .null => ['n', 'u', 'l', 'l']
  | .bool true => ['t', 'r', 'u', 'e']
  | .bool false => ['f', 'a', 'l', 's', 'e']
  | .int i => renderInt i
  | .float m e => renderInt m ++ 'e' :: renderInt e
  | .nan => ['N', 'a', 'N']
  | .infinity false => ['I', 'n', 'f', 'i', 'n', 'i', 't', 'y']
  | .infinity true => ['-', 'I', 'n', 'f', 'i', 'n', 'i', 't', 'y']
  | .str s => renderStr style s
  | .arr items => '[' :: (renderItems style items ++ [']'])
  | .obj fields => '{' :: (renderFields style fields ++ ['}'])

def renderItems (style : Style) : List Json → List Char
  | [] => []
  | [v] => render style v
  | v :: w :: vs =>
      render style v ++ ',' :: (blank style ++ renderItems style (w :: vs))

def renderFields (style : Style) : List (String × Json) → List Char
  | [] => []
  | [(k, v)] => renderStr style k ++ ':' :: (blank style ++ render style v)
  | (k, v) :: f :: fs =>
      renderStr style k ++ ':' :: (blank style ++ (render style v ++
        ',' :: (blank style ++ renderFields style (f :: fs))))
end

def dumps (style : Style) (j : Json) : String := String.ofList (render style j)

mutual
/-- No object in the value repeats a key. -/
def Distinct : Json → Prop
  | .arr items => DistinctItems items
  | .obj fields => (fields.map Prod.fst).Nodup ∧ DistinctFields fields
  | _ => True

def DistinctItems : List Json → Prop
  | [] => True
  | v :: vs => Distinct v ∧ DistinctItems vs

def DistinctFields : List (String × Json) → Prop
  | [] => True
  | (_, v) :: fs => Distinct v ∧ DistinctFields fs
end

end Json

end AlertTriage.Library
