import AlertTriage.Library.Json
import Mathlib.Algebra.BigOperators.Group.List.Basic
import Mathlib.Algebra.GroupWithZero.Nat
import Mathlib.Algebra.Order.BigOperators.Group.List

/-!
# The path of a URL

What the URL Standard makes of an absolute path under a base of a special
scheme: dot segments go, a backslash is a slash, `?` and `#` end the path, and
the characters of the path percent-encode set are written as escapes.

The text comes in the 16-bit units of a script's strings and is read as scalar
values first. Decoding a segment undoes the encoding exactly when the text held
no escape of its own (`percentDecode_encode`, `length_percentDecode_encode`).
The parser never makes more of a text than was there: `pathState_cost` bounds
the decoded path by the text, and says what a text that loses nothing looks
like.
-/

namespace AlertTriage.Library.Url

/-! ## 16-bit units -/

abbrev Utf16 := List UInt16

def isLead (u : UInt16) : Bool := decide (0xD800 ≤ u.toNat ∧ u.toNat < 0xDC00)

def isTrail (u : UInt16) : Bool := decide (0xDC00 ≤ u.toNat ∧ u.toNat < 0xE000)

/-- A unit on its own: half of a pair is read as the replacement character. -/
def unitChar (u : UInt16) : Char :=
  if isLead u || isTrail u then Char.ofNat 0xFFFD else Char.ofNat u.toNat

def pairChar (u v : UInt16) : Char :=
  Char.ofNat (0x10000 + (u.toNat - 0xD800) * 0x400 + (v.toNat - 0xDC00))

/-- The scalar values of a string. -/
def scalarValues : Utf16 → List Char
  | u :: v :: rest =>
      if isLead u && isTrail v then pairChar u v :: scalarValues rest
      else unitChar u :: scalarValues (v :: rest)
  | [u] => [unitChar u]
  | [] => []

def charUnits (c : Char) : Utf16 :=
  if c.toNat < 0x10000 then [UInt16.ofNat c.toNat]
  else
    [UInt16.ofNat (0xD800 + (c.toNat - 0x10000) / 0x400),
      UInt16.ofNat (0xDC00 + (c.toNat - 0x10000) % 0x400)]

/-- The string of a text. -/
def utf16 (text : List Char) : Utf16 := text.flatMap charUnits

theorem toNat_not_surrogate (c : Char) :
    c.toNat < 0xD800 ∨ 0xE000 ≤ c.toNat ∧ c.toNat < 0x110000 := by
  rcases c.valid with h | ⟨h, h'⟩
  · exact .inl h
  · exact .inr ⟨by simpa using Nat.succ_le_of_lt h, h'⟩

theorem scalarValues_cons {u : UInt16} (h : isLead u = false) (rest : Utf16) :
    scalarValues (u :: rest) = unitChar u :: scalarValues rest := by
  cases rest with
  | nil => rfl
  | cons v rest => simp [scalarValues, h]

theorem scalarValues_pair {u v : UInt16} (hu : isLead u = true)
    (hv : isTrail v = true) (rest : Utf16) :
    scalarValues (u :: v :: rest) = pairChar u v :: scalarValues rest := by
  simp [scalarValues, hu, hv]

/-- A string is read up to a unit that completes no pair, and from there. -/
theorem scalarValues_append (us : Utf16) {v : UInt16} (h : isTrail v = false)
    (rest : Utf16) :
    scalarValues (us ++ v :: rest) = scalarValues us ++ scalarValues (v :: rest) := by
  induction us using scalarValues.induct with
  | case1 u w us hpair ih => simp [scalarValues, hpair, ih]
  | case2 u w us hpair ih =>
      rw [List.cons_append] at ih
      simp [scalarValues, hpair, ih]
  | case3 u => simp [scalarValues, h]
  | case4 => rfl

theorem scalarValues_charUnits (c : Char) (rest : Utf16) :
    scalarValues (charUnits c ++ rest) = c :: scalarValues rest := by
  have hc := toNat_not_surrogate c
  unfold charUnits
  split
  · rename_i hlt
    have hu : (UInt16.ofNat c.toNat).toNat = c.toNat :=
      UInt16.toNat_ofNat_of_lt hlt
    have hlead : isLead (UInt16.ofNat c.toNat) = false := by
      simp only [isLead, hu, decide_eq_false_iff_not]
      omega
    have htrail : isTrail (UInt16.ofNat c.toNat) = false := by
      simp only [isTrail, hu, decide_eq_false_iff_not]
      omega
    rw [List.singleton_append, scalarValues_cons hlead, unitChar, hlead, htrail]
    simp [hu]
  · -- beyond the basic plane: a surrogate pair, which joins to the character again
    rename_i hge
    have hu : (UInt16.ofNat (0xD800 + (c.toNat - 0x10000) / 0x400)).toNat =
        0xD800 + (c.toNat - 0x10000) / 0x400 :=
      UInt16.toNat_ofNat_of_lt (show _ < 65536 by omega)
    have hv : (UInt16.ofNat (0xDC00 + (c.toNat - 0x10000) % 0x400)).toNat =
        0xDC00 + (c.toNat - 0x10000) % 0x400 :=
      UInt16.toNat_ofNat_of_lt (show _ < 65536 by omega)
    have hpair : pairChar (UInt16.ofNat (0xD800 + (c.toNat - 0x10000) / 0x400))
        (UInt16.ofNat (0xDC00 + (c.toNat - 0x10000) % 0x400)) = c := by
      have hjoin : 0x10000 + (0xD800 + (c.toNat - 0x10000) / 0x400 - 0xD800) *
          0x400 + (0xDC00 + (c.toNat - 0x10000) % 0x400 - 0xDC00) = c.toNat := by
        omega
      rw [pairChar, hu, hv, hjoin, Char.ofNat_toNat]
    have hlead : isLead (UInt16.ofNat (0xD800 + (c.toNat - 0x10000) / 0x400)) =
        true := by
      simp only [isLead, hu, decide_eq_true_eq]
      omega
    have htrail : isTrail (UInt16.ofNat (0xDC00 + (c.toNat - 0x10000) % 0x400)) =
        true := by
      simp only [isTrail, hv, decide_eq_true_eq]
      omega
    rw [List.cons_append, List.singleton_append, scalarValues_pair hlead htrail,
      hpair]

theorem scalarValues_utf16_append (text : List Char) (rest : Utf16) :
    scalarValues (utf16 text ++ rest) = text ++ scalarValues rest := by
  induction text with
  | nil => rfl
  | cons c text ih =>
      rw [utf16, List.flatMap_cons, List.append_assoc, scalarValues_charUnits]
      exact congrArg (c :: ·) ih

theorem scalarValues_utf16 (text : List Char) :
    scalarValues (utf16 text) = text := by
  simpa [scalarValues] using scalarValues_utf16_append text []

/-! ## Percent-encoding -/

def utf8Bytes (text : List Char) : List UInt8 := text.flatMap String.utf8EncodeChar

/-- The path percent-encode set. -/
def pathSet (c : Char) : Bool :=
  decide (c.toNat ≤ 0x1F) || decide (0x7E < c.toNat) ||
    [' ', '"', '#', '<', '>', '?', '^', '`', '{', '}'].contains c

def hexUpper (n : ℕ) : Char :=
  if n < 10 then Char.ofNat (48 + n) else Char.ofNat (55 + n)

def percentEncodeByte (b : UInt8) : List Char :=
  ['%', hexUpper (b.toNat / 16), hexUpper (b.toNat % 16)]

def encodeChar (c : Char) : List Char :=
  if pathSet c then (String.utf8EncodeChar c).flatMap percentEncodeByte else [c]

def encode (text : List Char) : List Char := text.flatMap encodeChar

def isHex (c : Char) : Bool := (Json.hexVal c).isSome

/-- The byte of two hexadecimal digits. -/
def hexByte (h l : Char) : UInt8 :=
  UInt8.ofNat (16 * (Json.hexVal h).getD 0 + (Json.hexVal l).getD 0)

/-- The text begins with an escape. -/
def startsEscape : List Char → Bool
  | c :: h :: l :: _ => c == '%' && isHex h && isHex l
  | _ => false

def hasEscape : List Char → Bool
  | [] => false
  | c :: text => startsEscape (c :: text) || hasEscape text

/-- The bytes that a segment stands for. -/
def percentDecode : List Char → List UInt8
  | c :: h :: l :: text =>
      if c == '%' && isHex h && isHex l then hexByte h l :: percentDecode text
      else String.utf8EncodeChar c ++ percentDecode (h :: l :: text)
  | c :: text => String.utf8EncodeChar c ++ percentDecode text
  | [] => []

theorem percentDecode_cons {c : Char} {text : List Char}
    (h : startsEscape (c :: text) = false) :
    percentDecode (c :: text) = String.utf8EncodeChar c ++ percentDecode text := by
  match text with
  | [] => rfl
  | [_] => rfl
  | _ :: _ :: _ =>
      rw [percentDecode, if_neg]
      simpa [startsEscape] using h

theorem percentDecode_escape {h l : Char} (hh : isHex h = true)
    (hl : isHex l = true) (text : List Char) :
    percentDecode ('%' :: h :: l :: text) = hexByte h l :: percentDecode text := by
  rw [percentDecode, if_pos (by simp [hh, hl])]

theorem hexVal_hexUpper : ∀ n < 16, Json.hexVal (hexUpper n) = some n := by
  decide

theorem percentDecode_byte (b : UInt8) (text : List Char) :
    percentDecode (percentEncodeByte b ++ text) = b :: percentDecode text := by
  have hb : b.toNat < 256 := b.toNat_lt
  have hhi := hexVal_hexUpper (b.toNat / 16) (by omega)
  have hlo := hexVal_hexUpper (b.toNat % 16) (by omega)
  have hbyte : hexByte (hexUpper (b.toNat / 16)) (hexUpper (b.toNat % 16)) = b := by
    have hjoin : 16 * (b.toNat / 16) + b.toNat % 16 = b.toNat := by omega
    rw [hexByte, hhi, hlo, Option.getD_some, Option.getD_some, hjoin,
      UInt8.ofNat_toNat]
  have hesc := percentDecode_escape (h := hexUpper (b.toNat / 16))
    (l := hexUpper (b.toNat % 16)) (by simp [isHex, hhi]) (by simp [isHex, hlo])
    text
  rw [hbyte] at hesc
  exact hesc

theorem percentDecode_bytes (bs : List UInt8) (text : List Char) :
    percentDecode (bs.flatMap percentEncodeByte ++ text) =
      bs ++ percentDecode text := by
  induction bs with
  | nil => rfl
  | cons b bs ih =>
      rw [List.flatMap_cons, List.append_assoc, percentDecode_byte, ih]
      rfl

theorem pathSet_of_hex {c : Char} (h : isHex c = true) : pathSet c = false := by
  by_contra hset
  simp only [Bool.not_eq_false, pathSet, Bool.or_eq_true, decide_eq_true_eq,
    List.contains_iff_mem, List.mem_cons, List.not_mem_nil, or_false] at hset
  have hval : ∀ n, c.toNat = n → n ≤ 0x1F ∨ 0x7E < n → Json.hexVal c = none := by
    rintro n rfl hn
    unfold Json.hexVal
    rw [if_neg (by omega), if_neg (by omega), if_neg (by omega)]
  rcases hset with hctl | rfl | rfl | rfl | rfl | rfl | rfl | rfl | rfl | rfl | rfl
  · simp [isHex, hval c.toNat rfl hctl] at h
  all_goals exact absurd h (by decide)

theorem encodeChar_of_not_set {c : Char} (h : pathSet c = false) :
    encodeChar c = [c] := by
  rw [encodeChar, h, if_neg (by decide)]

/-- An encoded character begins with `%`. -/
theorem encodeChar_of_set {c : Char} (h : pathSet c = true) :
    ∃ rest, encodeChar c = '%' :: rest := by
  rw [encodeChar, if_pos h]
  cases hb : String.utf8EncodeChar c with
  | nil => exact absurd hb String.utf8EncodeChar_ne_nil
  | cons b bs => exact ⟨_, rfl⟩

theorem startsEscape_eq_false {c : Char} (h : c ≠ '%') (text : List Char) :
    startsEscape (c :: text) = false := by
  match text with
  | [] => rfl
  | [_] => rfl
  | _ :: _ :: _ => simp [startsEscape, h]

theorem startsEscape_cons_eq_false {c h : Char} (hh : isHex h = false)
    (text : List Char) : startsEscape (c :: h :: text) = false := by
  cases text with
  | nil => rfl
  | cons l text => simp [startsEscape, hh]

theorem startsEscape_cons_cons_eq_false {c h l : Char} (hl : isHex l = false)
    (text : List Char) : startsEscape (c :: h :: l :: text) = false := by
  simp [startsEscape, hl]

theorem isHex_of_set {c : Char} (h : pathSet c = true) : isHex c = false := by
  by_contra hhex
  simp [pathSet_of_hex (by simpa using hhex)] at h

/-- Encoding what follows makes no escape and breaks none. -/
theorem startsEscape_encode (c : Char) (text : List Char) :
    startsEscape (c :: encode text) = startsEscape (c :: text) := by
  have hpercent : isHex '%' = false := by decide
  match text with
  | [] => rfl
  | h :: text =>
      cases hh : pathSet h with
      | true =>
          obtain ⟨rest, hrest⟩ := encodeChar_of_set hh
          rw [encode, List.flatMap_cons, hrest, List.cons_append,
            startsEscape_cons_eq_false hpercent,
            startsEscape_cons_eq_false (isHex_of_set hh)]
      | false =>
          rw [encode, List.flatMap_cons, encodeChar_of_not_set hh]
          match text with
          | [] => rfl
          | l :: text =>
              cases hl : pathSet l with
              | true =>
                  obtain ⟨rest, hrest⟩ := encodeChar_of_set hl
                  rw [List.flatMap_cons, hrest, List.singleton_append,
                    List.cons_append, startsEscape_cons_cons_eq_false hpercent,
                    startsEscape_cons_cons_eq_false (isHex_of_set hl)]
              | false =>
                  rw [List.flatMap_cons, encodeChar_of_not_set hl]
                  rfl

theorem percentDecode_encode_cons {c : Char} {text : List Char}
    (h : startsEscape (c :: text) = false) :
    percentDecode (encode (c :: text)) =
      String.utf8EncodeChar c ++ percentDecode (encode text) := by
  cases hc : pathSet c with
  | true =>
      rw [encode, List.flatMap_cons, encodeChar, if_pos hc]
      exact percentDecode_bytes _ _
  | false =>
      rw [← startsEscape_encode] at h
      rw [encode, List.flatMap_cons, encodeChar_of_not_set hc]
      exact percentDecode_cons h

/-- **A text without escapes is read back.** -/
theorem percentDecode_encode {text : List Char} (h : hasEscape text = false) :
    percentDecode (encode text) = utf8Bytes text := by
  induction text with
  | nil => rfl
  | cons c text ih =>
      simp only [hasEscape, Bool.or_eq_false_iff] at h
      rw [percentDecode_encode_cons h.1, ih h.2]
      rfl

theorem utf8_cons (c : Char) (text : List Char) :
    utf8Bytes (c :: text) = String.utf8EncodeChar c ++ utf8Bytes text := rfl

theorem length_utf8EncodeChar_pos (c : Char) :
    0 < (String.utf8EncodeChar c).length :=
  List.length_pos_of_ne_nil String.utf8EncodeChar_ne_nil

theorem length_utf8_append (s t : List Char) :
    (utf8Bytes (s ++ t)).length = (utf8Bytes s).length + (utf8Bytes t).length := by
  simp [utf8Bytes]

theorem length_utf8_pos {text : List Char} (h : text ≠ []) :
    0 < (utf8Bytes text).length := by
  cases text with
  | nil => exact absurd rfl h
  | cons c text =>
      have hc := length_utf8EncodeChar_pos c
      rw [utf8_cons, List.length_append]
      omega

/-- **Escapes only make a text shorter.** -/
theorem length_percentDecode_encode (text : List Char) :
    (percentDecode (encode text)).length ≤ (utf8Bytes text).length ∧
      (hasEscape text = true →
        (percentDecode (encode text)).length < (utf8Bytes text).length) := by
  match text with
  | [] => simp [encode, percentDecode, hasEscape]
  | c :: text =>
      cases hesc : startsEscape (c :: text) with
      | false =>
          have ih := length_percentDecode_encode text
          rw [percentDecode_encode_cons hesc, utf8_cons]
          simp only [List.length_append, hasEscape, hesc, Bool.false_or]
          exact ⟨by omega, fun h => Nat.add_lt_add_left (ih.2 h) _⟩
      | true =>
          match text, hesc with
          | h :: l :: text, hesc =>
              simp only [startsEscape, Bool.and_eq_true, beq_iff_eq] at hesc
              obtain ⟨⟨rfl, hh⟩, hl⟩ := hesc
              have ih := (length_percentDecode_encode text).1
              have hpos := length_utf8EncodeChar_pos '%'
              have hposh := length_utf8EncodeChar_pos h
              have hposl := length_utf8EncodeChar_pos l
              have hdec : percentDecode (encode ('%' :: h :: l :: text)) =
                  hexByte h l :: percentDecode (encode text) := by
                have henc : encode ('%' :: h :: l :: text) =
                    '%' :: h :: l :: encode text := by
                  simp only [encode, List.flatMap_cons,
                    encodeChar_of_not_set (show pathSet '%' = false by decide),
                    encodeChar_of_not_set (pathSet_of_hex hh),
                    encodeChar_of_not_set (pathSet_of_hex hl),
                    List.singleton_append]
                rw [henc, percentDecode_escape hh hl]
              simp only [hdec, utf8_cons, List.length_append, List.length_cons]
              exact ⟨by omega, fun _ => by omega⟩

/-! ## The path state -/

abbrev Path := List (List Char)

/-- The text after a dot, plain or as an escape of either case. -/
def dropDot : List Char → Option (List Char)
  | '.' :: rest => some rest
  | '%' :: '2' :: 'e' :: rest => some rest
  | '%' :: '2' :: 'E' :: rest => some rest
  | _ => none

def isSingleDot (segment : List Char) : Bool := dropDot segment == some []

def isDoubleDot (segment : List Char) : Bool :=
  (dropDot segment).bind dropDot == some []

theorem percentDecode_dropDot {segment rest : List Char}
    (h : dropDot segment = some rest) :
    percentDecode segment = utf8Bytes ['.'] ++ percentDecode rest := by
  unfold dropDot at h
  split at h
  · obtain rfl := Option.some.inj h
    exact percentDecode_cons (startsEscape_eq_false (by decide) _)
  · obtain rfl := Option.some.inj h
    exact percentDecode_escape (by decide) (by decide) _
  · obtain rfl := Option.some.inj h
    exact percentDecode_escape (by decide) (by decide) _
  · cases h

theorem percentDecode_singleDot {segment : List Char}
    (h : isSingleDot segment = true) : percentDecode segment = utf8Bytes ['.'] :=
  percentDecode_dropDot (by simpa [isSingleDot] using h)

theorem percentDecode_doubleDot {segment : List Char}
    (h : isDoubleDot segment = true) :
    percentDecode segment = utf8Bytes ['.', '.'] := by
  simp only [isDoubleDot, beq_iff_eq, Option.bind_eq_some_iff] at h
  obtain ⟨rest, hrest, hdot⟩ := h
  rw [percentDecode_dropDot hrest, percentDecode_dropDot hdot]
  rfl

theorem utf8_injective : Function.Injective utf8Bytes := by
  intro s t h
  have henc : s.utf8Encode = t.utf8Encode := congrArg List.toByteArray h
  have hdec := congrArg ByteArray.utf8Decode? henc
  rw [List.utf8Decode?_utf8Encode, List.utf8Decode?_utf8Encode] at hdec
  exact congrArg Array.toList (Option.some.inj hdec)

/-- What the end of a segment does to the path; a slash may follow. -/
def closeSegment (slash : Bool) (segment : List Char) (path : Path) : Path :=
  if isDoubleDot segment then
    if slash then path.dropLast else path.dropLast ++ [[]]
  else if isSingleDot segment then
    if slash then path else path ++ [[]]
  else path ++ [segment]

def isSlash (c : Char) : Bool := c == '/' || c == '\\'

def endsPath (c : Char) : Bool := c == '?' || c == '#'

/-- The path state of the parser, with its buffer. -/
def pathState : List Char → List Char → Path → Path
  | [], buffer, path => closeSegment false buffer path
  | c :: rest, buffer, path =>
      if isSlash c then pathState rest [] (closeSegment true buffer path)
      else if endsPath c then closeSegment false buffer path
      else pathState rest (buffer ++ encodeChar c) path

/-- The decoded length of a path, a slash before each segment. -/
def cost (path : Path) : ℕ :=
  (path.map fun segment => (percentDecode segment).length + 1).sum

theorem cost_append (path : Path) (segment : List Char) :
    cost (path ++ [segment]) = cost path + (percentDecode segment).length + 1 := by
  simp [cost, Nat.add_assoc]

theorem cost_dropLast (path : Path) : cost path.dropLast ≤ cost path := by
  rcases List.eq_nil_or_concat path with rfl | ⟨init, segment, rfl⟩
  · exact Nat.le_refl _
  · rw [List.concat_eq_append, List.dropLast_concat, cost_append]
    omega

/-- **One segment** costs at most its text, and dots cost less. -/
theorem closeSegment_cost (slash : Bool) (text : List Char) (path : Path) :
    cost (closeSegment slash (encode text) path) ≤
        cost path + (utf8Bytes text).length + 1 ∧
      (cost (closeSegment slash (encode text) path) =
          cost path + (utf8Bytes text).length + 1 →
        closeSegment slash (encode text) path = path ++ [encode text]) := by
  have hdrop := cost_dropLast path
  have hpos : (isDoubleDot (encode text) = true ∨ isSingleDot (encode text) = true) →
      0 < (utf8Bytes text).length := by
    intro hdots
    apply length_utf8_pos
    rintro rfl
    exact absurd hdots (by decide)
  have hempty (p : Path) : cost (p ++ [[]]) = cost p + 1 := by
    simp [cost_append, percentDecode]
  unfold closeSegment
  -- a dot segment leaves less in the path than its own text
  cases hdouble : isDoubleDot (encode text) with
  | true =>
      have hlen := hpos (.inl hdouble)
      cases slash with
      | true => exact ⟨by simp; omega, fun h => by simp at h; omega⟩
      | false =>
          simp only [if_true, Bool.false_eq_true, if_false, hempty]
          exact ⟨by omega, fun h => by omega⟩
  | false =>
      cases hsingle : isSingleDot (encode text) with
      | true =>
          have hlen := hpos (.inr hsingle)
          cases slash with
          | true => exact ⟨by simp; omega, fun h => by simp at h; omega⟩
          | false =>
              simp only [if_true, Bool.false_eq_true, if_false, hempty]
              exact ⟨by omega, fun h => by omega⟩
      | false =>
          have hle := (length_percentDecode_encode text).1
          simp only [Bool.false_eq_true, if_false, cost_append]
          exact ⟨by omega, fun _ => trivial⟩

/-- A slash makes a new segment of whatever is not dots. -/
theorem closeSegment_eq_append {segment s : List Char} {path : Path}
    (h : closeSegment true segment path = path ++ [s]) :
    isDoubleDot segment = false ∧ isSingleDot segment = false ∧ segment = s := by
  have hlen := congrArg List.length h
  unfold closeSegment at h hlen
  cases hd : isDoubleDot segment with
  | true =>
      simp only [hd, if_true, List.length_dropLast, List.length_append,
        List.length_singleton] at hlen
      omega
  | false =>
      cases hs : isSingleDot segment with
      | true => simp [hd, hs] at hlen
      | false =>
          simp only [hd, hs, Bool.false_eq_true, if_false] at h
          exact ⟨rfl, rfl, by simpa using h⟩

theorem encode_append (s t : List Char) : encode (s ++ t) = encode s ++ encode t := by
  simp [encode]

theorem length_encodeUtf8_singleton (c : Char) :
    (utf8Bytes [c]).length = (String.utf8EncodeChar c).length := by
  simp [utf8Bytes]

/-- **A path costs at most its text.** One that costs all of it lost nothing:
no character ended it, and each slash made a segment. -/
theorem pathState_cost (rest : List Char) : ∀ (text : List Char) (path : Path),
    cost (pathState rest (encode text) path) ≤
        cost path + (utf8Bytes text).length + (utf8Bytes rest).length + 1 ∧
      (cost (pathState rest (encode text) path) =
          cost path + (utf8Bytes text).length + (utf8Bytes rest).length + 1 →
        (∀ c ∈ rest, endsPath c = false) ∧
        (pathState rest (encode text) path).length =
          path.length + rest.countP isSlash + 1) := by
  induction rest with
  | nil =>
      intro text path
      obtain ⟨hle, heq⟩ := closeSegment_cost false text path
      refine ⟨hle, fun h => ⟨by simp, ?_⟩⟩
      rw [pathState, heq h, List.length_append]
      rfl
  | cons c rest ih =>
      intro text path
      have hc := length_utf8EncodeChar_pos c
      rw [utf8_cons, List.length_append, pathState]
      -- a slash closes a segment, and any other character that ends no path joins it
      cases hslash : isSlash c with
      | true =>
          obtain ⟨hle, heq⟩ := closeSegment_cost true text path
          obtain ⟨ihle, iheq⟩ := ih [] (closeSegment true (encode text) path)
          simp only [if_true]
          rw [show encode [] = [] from rfl, show (utf8Bytes []).length = 0 from rfl]
            at ihle iheq
          refine ⟨by omega, fun h => ?_⟩
          obtain ⟨hends, hlen⟩ := iheq (by omega)
          rw [heq (by omega)] at hlen ⊢
          refine ⟨fun x hx => ?_, ?_⟩
          · rcases List.mem_cons.mp hx with rfl | hx
            · revert hslash
              simp only [isSlash, endsPath, Bool.or_eq_true, beq_iff_eq]
              rintro (rfl | rfl) <;> decide
            · exact hends x hx
          · rw [hlen, List.countP_cons_of_pos hslash, List.length_append,
              List.length_singleton]
            omega
      | false =>
          simp only [Bool.false_eq_true, if_false]
          cases hends : endsPath c with
          | true =>
              obtain ⟨hle, -⟩ := closeSegment_cost false text path
              simp only [if_true]
              exact ⟨by omega, fun h => by omega⟩
          | false =>
              obtain ⟨ihle, iheq⟩ := ih (text ++ [c]) path
              rw [encode_append, length_utf8_append, length_encodeUtf8_singleton]
                at ihle iheq
              simp only [Bool.false_eq_true, if_false]
              rw [show encodeChar c = encode [c] by simp [encode]]
              refine ⟨by omega, fun h => ?_⟩
              obtain ⟨hall, hlen⟩ := iheq (by omega)
              refine ⟨fun x hx => ?_, ?_⟩
              · rcases List.mem_cons.mp hx with rfl | hx
                · exact hends
                · exact hall x hx
              · rw [hlen, List.countP_cons_of_neg (by simp [hslash])]

/-- A text that ends no segment goes into the buffer. -/
theorem pathState_chunk {text : List Char}
    (h : ∀ c ∈ text, isSlash c = false ∧ endsPath c = false)
    (rest buffer : List Char) (path : Path) :
    pathState (text ++ rest) buffer path =
      pathState rest (buffer ++ encode text) path := by
  induction text generalizing buffer with
  | nil => simp [encode]
  | cons c text ih =>
      obtain ⟨hslash, hends⟩ := h c List.mem_cons_self
      rw [List.cons_append, pathState, hslash, hends]
      simp only [Bool.false_eq_true, if_false]
      rw [ih fun x hx => h x (List.mem_cons_of_mem _ hx)]
      simp [encode]

theorem closeSegment_plain {segment : List Char} (hs : isSingleDot segment = false)
    (hd : isDoubleDot segment = false) (slash : Bool) (path : Path) :
    closeSegment slash segment path = path ++ [segment] := by
  simp [closeSegment, hs, hd]

/-! ## Absolute paths under a base -/

/-- A URL as far as it is read here. -/
structure Location where
  origin : String
  path : Path
deriving DecidableEq, Repr

def isC0OrSpace (c : Char) : Bool := decide (c.toNat ≤ 0x20)

def isTabOrNewline (c : Char) : Bool := c == '\t' || c == '\n' || c == '\r'

/-- Control characters and spaces at the ends go, tabs and newlines anywhere. -/
def preprocess (input : List Char) : List Char :=
  (((input.dropWhile isC0OrSpace).reverse.dropWhile isC0OrSpace).reverse).filter
    fun c => !isTabOrNewline c

theorem preprocess_of_ends {c d : Char} (hc : isC0OrSpace c = false)
    (hd : isC0OrSpace d = false) (input : List Char) :
    preprocess (c :: input ++ [d]) =
      (c :: input ++ [d]).filter fun c => !isTabOrNewline c := by
  have hfront : (c :: input ++ [d]).dropWhile isC0OrSpace = c :: input ++ [d] := by
    simp [hc]
  have hback : (c :: input ++ [d]).reverse.dropWhile isC0OrSpace =
      (c :: input ++ [d]).reverse := by
    simp [hd]
  rw [preprocess, hfront, hback, List.reverse_reverse]

/-- `new URL(input, base)` for a base of a special scheme other than `file` and
an input that is one slash and a path; other inputs are not covered. -/
def resolve (base : Location) (input : Utf16) : Option Location :=
  match preprocess (scalarValues input) with
  | '/' :: c :: rest =>
      if isSlash c then none
      else some { base with path := pathState (c :: rest) [] [] }
  | _ => none

end AlertTriage.Library.Url
