import AlertTriage.Library.Json
import Mathlib.Tactic

/-!
# The decoder reads what the encoder writes

`loads_dumps`: for every style and every value whose objects repeat no key,
decoding the encoded text gives the value back. The proof follows the value:
characters (§1), strings (§2), numbers (§3), then values, items and members
together by induction on the fuel (§4), of which twice the length of the text
is enough. Whatever the text, what is decoded repeats no key (§5).
-/

namespace AlertTriage.Library.Json

/-! ## §1  Characters -/

theorem hexVal_hexDigit : ∀ n < 16, hexVal (hexDigit n) = some n := by decide

theorem hex4_digits {n : ℕ} (h : n < 65536) :
    hex4 (hexDigit (n / 4096)) (hexDigit (n / 256 % 16))
      (hexDigit (n / 16 % 16)) (hexDigit (n % 16)) = some n := by
  have h1 := hexVal_hexDigit (n / 4096) (by omega)
  have h2 := hexVal_hexDigit (n / 256 % 16) (by omega)
  have h3 := hexVal_hexDigit (n / 16 % 16) (by omega)
  have h4 := hexVal_hexDigit (n % 16) (by omega)
  simp only [hex4, h1, h2, h3, h4, bind, Option.bind, pure]
  congr 1
  omega

/-- Reading back one escaped code unit. -/
theorem unescape_escapeUnit {n : ℕ} (h : n < 65536) (r : List Char) :
    unescape (escapeUnit n ++ r) =
      (unescape r).map fun p => (n :: p.1, p.2) := by
  simp only [escapeUnit, List.cons_append, List.nil_append, unescape,
    hex4_digits h]

/-- The code units the encoder writes for a character. -/
def codes (style : Style) (c : Char) : List ℕ :=
  if style.asciiOnly ∧ 0x10000 ≤ c.toNat then
    [0xD800 + (c.toNat - 0x10000) / 0x400, 0xDC00 + (c.toNat - 0x10000) % 0x400]
  else [c.toNat]

theorem toNat_valid (c : Char) :
    c.toNat < 0xD800 ∨ (0xDFFF < c.toNat ∧ c.toNat < 0x110000) := c.valid

/-- A character that is neither quoted, escaped nor controlled stands for
itself. -/
theorem unescape_plain {c : Char} (hq : c ≠ '"') (hb : c ≠ '\\')
    (hc : ¬ c.toNat < 0x20) (r : List Char) :
    unescape (c :: r) = (unescape r).map fun p => (c.toNat :: p.1, p.2) := by
  rw [unescape.eq_def]
  split
  · simp_all
  · simp_all
  · simp_all
  · simp_all
  · rename_i heq
    obtain ⟨rfl, rfl⟩ := List.cons.inj heq
    rw [if_neg (by simp [hc, hb])]

/-- A character that is escaped by a name. -/
theorem unescape_named {c named : Char} (hu : c ≠ 'u') (h : simpleEscape c = some named)
    (r : List Char) : unescape ('\\' :: c :: r) =
      (unescape r).map fun p => (named.toNat :: p.1, p.2) := by
  rw [unescape.eq_def]
  split
  · rename_i heq
    cases heq
  · rename_i heq
    cases heq
  · rename_i heq
    exact absurd (List.cons.inj (List.cons.inj heq).2).1 hu
  · rename_i heq
    obtain ⟨rfl, rfl⟩ := List.cons.inj (List.cons.inj heq).2
    rw [h]
  · rename_i hescape heq
    obtain ⟨rfl, rfl⟩ := List.cons.inj heq
    exact (hescape c r rfl rfl).elim

/-- Reading back one character. -/
theorem unescape_escapeChar (style : Style) (c : Char) (r : List Char) :
    unescape (escapeChar style c ++ r) =
      (unescape r).map fun p => (codes style c ++ p.1, p.2) := by
  have short (h : c.toNat < 0x10000) : codes style c = [c.toNat] := by
    rw [codes, if_neg (by omega)]
  have named {e : Char} (hc : c.toNat < 0x10000) (hu : e ≠ 'u')
      (he : simpleEscape e = some c) : unescape (['\\', e] ++ r) =
        (unescape r).map fun p => (codes style c ++ p.1, p.2) := by
    rw [short hc]
    exact unescape_named hu he r
  unfold escapeChar
  -- named escapes, then control characters, then what is not ASCII
  by_cases h1 : c = '"'
  · rw [if_pos h1]
    subst h1
    exact named (by decide) (by decide) rfl
  rw [if_neg h1]
  by_cases h2 : c = '\\'
  · rw [if_pos h2]
    subst h2
    exact named (by decide) (by decide) rfl
  rw [if_neg h2]
  by_cases h3 : c = '\n'
  · rw [if_pos h3]
    subst h3
    exact named (by decide) (by decide) rfl
  rw [if_neg h3]
  by_cases h4 : c = '\r'
  · rw [if_pos h4]
    subst h4
    exact named (by decide) (by decide) rfl
  rw [if_neg h4]
  by_cases h5 : c = '\t'
  · rw [if_pos h5]
    subst h5
    exact named (by decide) (by decide) rfl
  rw [if_neg h5]
  by_cases h6 : c = Char.ofNat 8
  · rw [if_pos h6]
    subst h6
    exact named (by decide) (by decide) rfl
  rw [if_neg h6]
  by_cases h7 : c = Char.ofNat 12
  · rw [if_pos h7]
    subst h7
    exact named (by decide) (by decide) rfl
  rw [if_neg h7]
  by_cases h8 : c.toNat < 0x20
  · rw [if_pos h8, unescape_escapeUnit (by omega), short (by omega)]
    rfl
  rw [if_neg h8]
  by_cases h9 : style.asciiOnly ∧ 0x7F ≤ c.toNat
  · rw [if_pos h9]
    by_cases h10 : c.toNat < 0x10000
    · rw [if_pos h10, unescape_escapeUnit (by omega), short h10]
      rfl
    · have hv := toNat_valid c
      have hcodes : codes style c = [0xD800 + (c.toNat - 0x10000) / 0x400,
          0xDC00 + (c.toNat - 0x10000) % 0x400] := by
        rw [codes, if_pos ⟨h9.1, by omega⟩]
      rw [if_neg h10, escapePair, List.append_assoc, unescape_escapeUnit (by omega),
        unescape_escapeUnit (by omega), hcodes, Option.map_map]
      rfl
  · have hcodes : codes style c = [c.toNat] := by
      rw [codes, if_neg fun h => h9 ⟨h.1, by omega⟩]
    rw [if_neg h9, hcodes]
    exact unescape_plain h1 h2 h8 r

/-! ## §2  Strings -/

theorem unescape_chars (style : Style) (r : List Char) : ∀ cs : List Char,
    unescape (cs.flatMap (escapeChar style) ++ '"' :: r) =
      some (cs.flatMap (codes style), r)
  | [] => rfl
  | c :: cs => by
      rw [List.flatMap_cons, List.append_assoc, unescape_escapeChar,
        unescape_chars style r cs]
      rfl

theorem joinUnits_single {n : ℕ} (h : isHigh n = false) (rest : List ℕ) :
    joinUnits (n :: rest) = unitChar n :: joinUnits rest := by
  cases rest with
  | nil => rfl
  | cons m rest => simp [joinUnits, h]

theorem unitChar_toNat (c : Char) : unitChar c.toNat = c := by
  have hv := toNat_valid c
  have h : (isHigh c.toNat || isLow c.toNat) = false := by
    simp only [isHigh, isLow, Bool.or_eq_false_iff, decide_eq_false_iff_not]
    omega
  simp [unitChar, h]

theorem pairChar_toNat {c : Char} (h : 0x10000 ≤ c.toNat) :
    pairChar (0xD800 + (c.toNat - 0x10000) / 0x400)
      (0xDC00 + (c.toNat - 0x10000) % 0x400) = c := by
  have hn : 0x10000 + (0xD800 + (c.toNat - 0x10000) / 0x400 - 0xD800) * 0x400 +
      (0xDC00 + (c.toNat - 0x10000) % 0x400 - 0xDC00) = c.toNat := by omega
  rw [pairChar, hn, Char.ofNat_toNat]

theorem joinUnits_codes (style : Style) (c : Char) (rest : List ℕ) :
    joinUnits (codes style c ++ rest) = c :: joinUnits rest := by
  have hv := toNat_valid c
  unfold codes
  split
  · rename_i h
    have hh : isHigh (0xD800 + (c.toNat - 0x10000) / 0x400) = true := by
      simp only [isHigh, decide_eq_true_eq]; omega
    have hl : isLow (0xDC00 + (c.toNat - 0x10000) % 0x400) = true := by
      simp only [isLow, decide_eq_true_eq]; omega
    simp only [List.cons_append, List.nil_append, joinUnits, hh, hl,
      Bool.and_self, if_true, pairChar_toNat h.2]
  · have hh : isHigh c.toNat = false := by
      simp only [isHigh, decide_eq_false_iff_not]; omega
    rw [List.cons_append, List.nil_append, joinUnits_single hh, unitChar_toNat]

theorem joinUnits_flatMap (style : Style) : ∀ cs : List Char,
    joinUnits (cs.flatMap (codes style)) = cs
  | [] => rfl
  | c :: cs => by
      rw [List.flatMap_cons, joinUnits_codes, joinUnits_flatMap style cs]

/-- A string literal reads back as its string. -/
theorem unescape_str (style : Style) (s : String) (r : List Char) :
    (unescape (s.toList.flatMap (escapeChar style) ++ '"' :: r)).map
      (fun p => (unitsStr p.1, p.2)) = some (s, r) := by
  rw [unescape_chars, Option.map_some, unitsStr, joinUnits_flatMap,
    String.ofList_toList]

/-! ## §3  Numbers -/

/-- The text does not continue a number. -/
def Stops (r : List Char) : Prop :=
  ∀ c ∈ r.head?, c.isDigit = false ∧ c ≠ '.' ∧ c ≠ 'e' ∧ c ≠ 'E'

theorem stops_cons {c : Char} {r : List Char}
    (h : c.isDigit = false ∧ c ≠ '.' ∧ c ≠ 'e' ∧ c ≠ 'E') : Stops (c :: r) := by
  intro d hd
  obtain rfl : c = d := by simpa using hd
  exact h

theorem digits_append {ds r : List Char} (hd : ∀ c ∈ ds, c.isDigit = true)
    (hr : ∀ c ∈ r.head?, c.isDigit = false) : digits (ds ++ r) = (ds, r) := by
  have htake : r.takeWhile Char.isDigit = [] := by
    cases r with
    | nil => rfl
    | cons c r => simp [hr c (by simp)]
  have hdrop : r.dropWhile Char.isDigit = r := by
    cases r with
    | nil => rfl
    | cons c r => simp [hr c (by simp)]
  rw [digits, List.takeWhile_append_of_pos hd, htake, List.append_nil,
    List.dropWhile_append_of_pos hd, hdrop]

theorem toDigits_isDigit {n : ℕ} {c : Char} (h : c ∈ Nat.toDigits 10 n) :
    c.isDigit = true :=
  Nat.isDigit_of_mem_toDigits (by decide) (by decide) h

/-- Integers are told apart by their texts. -/
theorem renderInt_injective {i j : ℤ} (h : renderInt i = renderInt j) : i = j := by
  have hdigits {m n : ℕ} (h : Nat.toDigits 10 m = Nat.toDigits 10 n) : m = n := by
    have hparsed := congrArg (fun digits => Nat.ofDigitChars 10 digits 0) h
    simpa only [Nat.ofDigitChars_ten_toDigits] using hparsed
  have hsign {m n : ℕ} (h : Nat.toDigits 10 m = '-' :: Nat.toDigits 10 n) : False := by
    have hminus : '-' ∈ Nat.toDigits 10 m := h ▸ List.mem_cons_self
    exact absurd (toDigits_isDigit hminus) (by decide)
  cases i with
  | ofNat m =>
      cases j with
      | ofNat n => exact congrArg Int.ofNat (hdigits h)
      | negSucc n => exact (hsign h).elim
  | negSucc m =>
      cases j with
      | ofNat n => exact (hsign h.symm).elim
      | negSucc n =>
          have hsucc := hdigits (List.cons.inj h).2
          exact congrArg Int.negSucc (Nat.succ.inj hsucc)

/-- A positive number is not written with a leading zero. -/
theorem toDigits_head {n : ℕ} (hn : 0 < n) :
    ∃ c cs, Nat.toDigits 10 n = c :: cs ∧ c ≠ '0' := by
  induction n using Nat.strong_induction_on with
  | _ n ih =>
      by_cases h : n < 10
      · refine ⟨n.digitChar, [], Nat.toDigits_of_lt_base h, ?_⟩
        intro h0
        have := congrArg Char.toNat h0
        rw [Nat.toNat_digitChar_of_lt_ten h] at this
        simp at this
        omega
      · obtain ⟨c, cs, hc, hne⟩ := ih (n / 10) (by omega) (by omega)
        refine ⟨c, cs ++ [(n % 10).digitChar], ?_, hne⟩
        rw [Nat.toDigits_of_base_le (by decide) (by omega), hc, List.cons_append]

theorem integerPart_toDigits (n : ℕ) {r : List Char}
    (hr : ∀ c ∈ r.head?, c.isDigit = false) :
    integerPart (Nat.toDigits 10 n ++ r) = some (Nat.toDigits 10 n, r) := by
  rcases Nat.eq_zero_or_pos n with rfl | hn
  · rfl
  · obtain ⟨c, cs, hc, hne⟩ := toDigits_head hn
    have hd : digits (Nat.toDigits 10 n ++ r) = (Nat.toDigits 10 n, r) :=
      digits_append (fun _ h => toDigits_isDigit h) hr
    rw [hc] at hd ⊢
    unfold integerPart
    split
    · rename_i heq
      exact absurd (List.cons.inj heq).1 hne
    · rw [hd]

/-- The head of a decimal numeral is a digit. -/
theorem toDigits_cons (n : ℕ) :
    ∃ c cs, Nat.toDigits 10 n = c :: cs ∧ c.isDigit = true := by
  cases h : Nat.toDigits 10 n with
  | nil => exact absurd h Nat.toDigits_ne_nil
  | cons c cs => exact ⟨c, cs, rfl, toDigits_isDigit (n := n) (by simp [h])⟩

theorem ne_of_isDigit {c d : Char} (h : c.isDigit = true)
    (hd : d.isDigit = false) : c ≠ d := by
  rintro rfl
  rw [h] at hd
  exact Bool.noConfusion hd

theorem fractionPart_of_ne_dot {r : List Char} (h : ∀ c ∈ r.head?, c ≠ '.') :
    fractionPart r = ([], r) := by
  unfold fractionPart
  split
  · exact absurd rfl (h '.' (by simp))
  · rfl

theorem exponentPart_of_stops {r : List Char} (h : Stops r) :
    exponentPart r = none := by
  cases r with
  | nil => rfl
  | cons c r =>
      have hc := h c (by simp)
      simp [exponentPart, hc.2.2.1, hc.2.2.2]

/-- The exponent an encoder writes after `e` reads back. -/
theorem exponentPart_renderInt (e : ℤ) {r : List Char} (h : Stops r) :
    exponentPart ('e' :: (renderInt e ++ r)) = some (e, r) := by
  have hr : ∀ c ∈ r.head?, c.isDigit = false := fun c hc => (h c hc).1
  have hdig (n : ℕ) :
      digits (Nat.toDigits 10 n ++ r) = (Nat.toDigits 10 n, r) :=
    digits_append (fun _ hm => toDigits_isDigit hm) hr
  cases e with
  | ofNat n =>
      obtain ⟨c, cs, hc, hd⟩ := toDigits_cons n
      have hg := hdig n
      have hval := Nat.ofDigitChars_ten_toDigits (n := n)
      rw [hc, List.cons_append] at hg
      rw [hc] at hval
      simp only [exponentPart, renderInt, hc, List.cons_append, true_or, if_true]
      split
      · rename_i heq
        exact absurd (List.cons.inj heq).1 (ne_of_isDigit hd (by decide))
      · rename_i heq
        exact absurd (List.cons.inj heq).1 (ne_of_isDigit hd (by decide))
      · rw [hg]
        simp only [hval, Int.ofNat_eq_natCast]
  | negSucc n =>
      have hg := hdig (n + 1)
      have hval := Nat.ofDigitChars_ten_toDigits (n := n + 1)
      obtain ⟨c, cs, hc, -⟩ := toDigits_cons (n + 1)
      rw [hc] at hg hval
      simp only [exponentPart, renderInt, List.cons_append, true_or, if_true,
        hc]
      rw [List.cons_append] at hg
      rw [hg]
      simp only [hval, Option.some.injEq, Prod.mk.injEq, and_true]
      omega

theorem unsigned_int (sign : ℤ) (n : ℕ) {r : List Char} (h : Stops r) :
    unsigned sign (Nat.toDigits 10 n ++ r) = some (.int (sign * n), r) := by
  have hr : ∀ c ∈ r.head?, c.isDigit = false := fun c hc => (h c hc).1
  have hf := fractionPart_of_ne_dot (fun c hc => (h c hc).2.1)
  have he := exponentPart_of_stops h
  simp [unsigned, integerPart_toDigits n hr, hf, he]

theorem unsigned_float (sign : ℤ) (n : ℕ) (e : ℤ) {r : List Char}
    (h : Stops r) :
    unsigned sign (Nat.toDigits 10 n ++ 'e' :: (renderInt e ++ r)) =
      some (.float (sign * n) e, r) := by
  have hr : ∀ c ∈ ('e' :: (renderInt e ++ r)).head?, c.isDigit = false := by
    simp
  have hf : fractionPart ('e' :: (renderInt e ++ r)) =
      ([], 'e' :: (renderInt e ++ r)) :=
    fractionPart_of_ne_dot (by simp)
  have he := exponentPart_renderInt e h
  simp [unsigned, integerPart_toDigits n hr, hf, he]

theorem number_toDigits (n : ℕ) (r : List Char) :
    number (Nat.toDigits 10 n ++ r) = unsigned 1 (Nat.toDigits 10 n ++ r) := by
  obtain ⟨c, cs, hc, hd⟩ := toDigits_cons n
  rw [hc, List.cons_append]
  unfold number
  split
  · rename_i heq
    exact absurd (List.cons.inj heq).1 (ne_of_isDigit hd (by decide))
  · rfl

theorem number_int (i : ℤ) {r : List Char} (h : Stops r) :
    number (renderInt i ++ r) = some (.int i, r) := by
  cases i with
  | ofNat n =>
      rw [renderInt, number_toDigits, unsigned_int 1 n h, one_mul]
      rfl
  | negSucc n =>
      rw [renderInt, List.cons_append, number, unsigned_int (-1) (n + 1) h,
        neg_one_mul]
      rfl

theorem number_float (m e : ℤ) {r : List Char} (h : Stops r) :
    number (renderInt m ++ 'e' :: (renderInt e ++ r)) = some (.float m e, r) := by
  cases m with
  | ofNat n =>
      rw [renderInt, number_toDigits, unsigned_float 1 n e h, one_mul]
      rfl
  | negSucc n =>
      rw [renderInt, List.cons_append, number, unsigned_float (-1) (n + 1) e h,
        neg_one_mul]
      rfl

/-- A number starts with a digit, or with a minus and a digit. -/
theorem renderInt_head (i : ℤ) :
    (∃ c cs, renderInt i = c :: cs ∧ c.isDigit = true) ∨
      ∃ c cs, renderInt i = '-' :: c :: cs ∧ c.isDigit = true := by
  cases i with
  | ofNat n => exact Or.inl (toDigits_cons n)
  | negSucc n =>
      obtain ⟨c, cs, hc, hd⟩ := toDigits_cons (n + 1)
      exact Or.inr ⟨c, cs, by rw [renderInt, hc], hd⟩

theorem literal_of_digit {c : Char} (h : c.isDigit = true) (cs : List Char) :
    literal (c :: cs) = none := by
  unfold literal
  split <;> first
    | rfl
    | exact absurd (List.cons.inj (by assumption)).1 (ne_of_isDigit h (by decide))

theorem literal_of_minus_digit {c : Char} (h : c.isDigit = true)
    (cs : List Char) : literal ('-' :: c :: cs) = none := by
  unfold literal
  split <;> first
    | rfl
    | simp_all

/-- On a text that starts a number the decoder reads a number. -/
theorem value_number {cs : List Char}
    (h : (∃ c t, cs = c :: t ∧ c.isDigit = true) ∨
      ∃ c t, cs = '-' :: c :: t ∧ c.isDigit = true) (n : ℕ) :
    value (n + 1) cs = number cs := by
  rcases h with ⟨c, t, rfl, hd⟩ | ⟨c, t, rfl, hd⟩
  · have h1 : c ≠ '"' := ne_of_isDigit hd (by decide)
    have h2 : c ≠ '[' := ne_of_isDigit hd (by decide)
    have h3 : c ≠ '{' := ne_of_isDigit hd (by decide)
    rw [value.eq_def]
    simp only
    split
    · exact absurd (List.cons.inj (by assumption)).1 h1
    · exact absurd (List.cons.inj (by assumption)).1 h2
    · exact absurd (List.cons.inj (by assumption)).1 h3
    · rw [literal_of_digit hd]
  · rw [value.eq_def]
    simp [literal_of_minus_digit hd]

/-! ## §4  Values -/

/-- A character that is printed, and no blank. -/
def Visible (c : Char) : Prop := 0x20 < c.toNat ∧ c.toNat < 0x7F

instance (c : Char) : Decidable (Visible c) :=
  inferInstanceAs (Decidable (_ ∧ _))

theorem Visible.of_isDigit {c : Char} (h : c.isDigit = true) : Visible c := by
  simp only [Char.isDigit, Bool.and_eq_true, decide_eq_true_eq, ge_iff_le,
    UInt32.le_iff_toNat_le, Char.toNat_val] at h
  constructor
  · exact lt_of_lt_of_le (by decide) h.1
  · exact lt_of_le_of_lt h.2 (by decide)

theorem Visible.not_isWs {c : Char} (h : Visible c) : isWs c = false := by
  have hne (d : Char) (hd : ¬ Visible d) : c ≠ d := by
    rintro rfl
    exact hd h
  simp [isWs, hne ' ' (by decide), hne '\t' (by decide), hne '\n' (by decide),
    hne '\r' (by decide)]

/-- The first character of a value: a visible one, and no closing bracket. -/
theorem render_head_visible (style : Style) (j : Json) :
    ∃ c cs, render style j = c :: cs ∧ Visible c ∧ c ≠ ']' := by
  have hint (i : ℤ) (r : List Char) :
      ∃ c cs, renderInt i ++ r = c :: cs ∧ Visible c ∧ c ≠ ']' := by
    rcases renderInt_head i with ⟨c, cs, hc, hd⟩ | ⟨c, cs, hc, -⟩
    · exact ⟨c, cs ++ r, by rw [hc]; rfl, .of_isDigit hd,
        ne_of_isDigit hd (by decide)⟩
    · exact ⟨'-', c :: cs ++ r, by rw [hc]; rfl, by decide, by decide⟩
  cases j with
  | null => exact ⟨_, _, by rw [render], by decide, by decide⟩
  | bool b => cases b <;> exact ⟨_, _, by rw [render], by decide, by decide⟩
  | int i =>
      obtain ⟨c, cs, hc, h⟩ := hint i []
      exact ⟨c, cs, by rw [render]; simpa using hc, h⟩
  | float m e =>
      obtain ⟨c, cs, hc, h⟩ := hint m ('e' :: renderInt e)
      exact ⟨c, cs, by rw [render]; exact hc, h⟩
  | nan => exact ⟨_, _, by rw [render], by decide, by decide⟩
  | infinity b => cases b <;> exact ⟨_, _, by rw [render], by decide, by decide⟩
  | str s => exact ⟨_, _, by rw [render, renderStr], by decide, by decide⟩
  | arr items => exact ⟨_, _, by rw [render], by decide, by decide⟩
  | obj fields => exact ⟨_, _, by rw [render], by decide, by decide⟩

/-- The first character of a value: not a blank, and no closing bracket. -/
theorem render_head (style : Style) (j : Json) :
    ∃ c cs, render style j = c :: cs ∧ isWs c = false ∧ c ≠ ']' := by
  obtain ⟨c, cs, hc, hvisible, hne⟩ := render_head_visible style j
  exact ⟨c, cs, hc, hvisible.not_isWs, hne⟩

theorem skipWs_cons {c : Char} (h : isWs c = false) (r : List Char) :
    skipWs (c :: r) = c :: r := by
  simp [skipWs, h]

theorem skipWs_render (style : Style) (j : Json) (r : List Char) :
    skipWs (render style j ++ r) = render style j ++ r := by
  obtain ⟨c, cs, hc, hw, -⟩ := render_head style j
  rw [hc, List.cons_append, skipWs_cons hw]

/-- The optional blank after a separator is skipped. -/
theorem skipWs_blank (style : Style) (r : List Char) :
    skipWs (blank style ++ r) = skipWs r := by
  unfold blank
  split
  · simp [skipWs, isWs]
  · rfl

theorem upsert_new {k : String} {v : Json} : ∀ {d : List (String × Json)},
    k ∉ d.map Prod.fst → upsert k v d = d ++ [(k, v)]
  | [], _ => rfl
  | (k', v') :: d, h => by
      simp only [List.map_cons, List.mem_cons, not_or] at h
      rw [upsert, if_neg (Ne.symm h.1), upsert_new h.2, List.cons_append]

/-- Pairs without a repeated key are already a dictionary. -/
theorem ofPairs_of_nodup {pairs : List (String × Json)}
    (h : (pairs.map Prod.fst).Nodup) : ofPairs pairs = pairs := by
  induction pairs using List.reverseRecOn with
  | nil => rfl
  | append_singleton ps p ih =>
      rw [List.map_append, List.map_singleton, List.nodup_append] at h
      have hnew : p.1 ∉ ps.map Prod.fst := by
        intro hm
        exact h.2.2 _ hm _ (by simp) rfl
      have hps := ih h.1
      unfold ofPairs at hps ⊢
      rw [List.foldl_append, hps, List.foldl_cons, List.foldl_nil,
        upsert_new hnew]

theorem renderItems_head (style : Style) (v : Json) (vs : List Json) :
    ∃ c cs, renderItems style (v :: vs) = c :: cs ∧
      isWs c = false ∧ c ≠ ']' := by
  obtain ⟨c, cs, hc, h⟩ := render_head style v
  cases vs with
  | nil => exact ⟨c, cs, by rw [renderItems, hc], h⟩
  | cons w vs => exact ⟨c, _, by rw [renderItems, hc, List.cons_append], h⟩

theorem renderFields_head (style : Style) (f : String × Json)
    (fs : List (String × Json)) :
    ∃ cs, renderFields style (f :: fs) = '"' :: cs := by
  obtain ⟨k, v⟩ := f
  cases fs with
  | nil => exact ⟨_, by rw [renderFields, renderStr, List.cons_append]⟩
  | cons f fs => exact ⟨_, by rw [renderFields, renderStr, List.cons_append]⟩

theorem value_arr (style : Style) {n : ℕ} {v : Json} {vs : List Json}
    {r : List Char}
    (h : items n (renderItems style (v :: vs) ++ ']' :: r) =
      some (v :: vs, r)) :
    value (n + 1) (render style (.arr (v :: vs)) ++ r) =
      some (.arr (v :: vs), r) := by
  obtain ⟨c, cs, hc, hw, hne⟩ := renderItems_head style v vs
  rw [render]
  simp only [List.cons_append, List.append_assoc, List.nil_append]
  rw [hc, List.cons_append] at h ⊢
  simp only [value, skipWs_cons hw]
  split
  · rename_i heq
    exact absurd (List.cons.inj heq).1 hne
  · rw [h]
    rfl

theorem value_obj (style : Style) {n : ℕ} {f : String × Json}
    {fs : List (String × Json)} {r : List Char}
    (hd : ((f :: fs).map Prod.fst).Nodup)
    (h : members n (renderFields style (f :: fs) ++ '}' :: r) =
      some (f :: fs, r)) :
    value (n + 1) (render style (.obj (f :: fs)) ++ r) =
      some (.obj (f :: fs), r) := by
  obtain ⟨cs, hc⟩ := renderFields_head style f fs
  rw [render]
  simp only [List.cons_append, List.append_assoc, List.nil_append]
  rw [hc, List.cons_append] at h ⊢
  simp only [value, skipWs_cons (show isWs '"' = false by decide)]
  split
  · rename_i heq
    exact absurd (List.cons.inj heq).1 (by decide)
  · rw [h, Option.map_some, ofPairs_of_nodup hd]

/-- One member: its key, the colon and its value are read, what follows is
left. -/
theorem members_step (style : Style) {n : ℕ} {k : String} {v : Json}
    {r : List Char} (hv : value n (render style v ++ r) = some (v, r)) :
    members (n + 1) (renderStr style k ++
        ':' :: (blank style ++ (render style v ++ r))) =
      match skipWs r with
      | ',' :: r4 =>
          (members n (skipWs r4)).map fun p => ((k, v) :: p.1, p.2)
      | '}' :: r4 => some ([(k, v)], r4)
      | _ => none := by
  have hs := unescape_str style k
    (':' :: (blank style ++ (render style v ++ r)))
  rcases hu : unescape (k.toList.flatMap (escapeChar style) ++
      '"' :: ':' :: (blank style ++ (render style v ++ r))) with _ | ⟨us, r1⟩
  · rw [hu] at hs
    exact absurd hs (by simp)
  · rw [hu] at hs
    simp only [Option.map_some, Option.some.injEq, Prod.mk.injEq] at hs
    obtain ⟨hk, rfl⟩ := hs
    rw [renderStr, List.cons_append, List.append_assoc, List.cons_append,
      List.nil_append]
    simp only [members, hu, hk, skipWs_cons (show isWs ':' = false by decide),
      skipWs_blank, skipWs_render, hv]
    all_goals rfl

private theorem comma_stops (r : List Char) : Stops (',' :: r) :=
  stops_cons (by decide)

/-- With fuel `n` the decoder reads back every value whose text is short
enough, in any context that does not continue a number. -/
def ReadsValue (style : Style) (n : ℕ) : Prop :=
  ∀ (j : Json) (r : List Char), Distinct j → Stops r →
    2 * (render style j).length ≤ n → value n (render style j ++ r) = some (j, r)

/-- The same for the items of an array. -/
def ReadsItems (style : Style) (n : ℕ) : Prop :=
  ∀ (v : Json) (vs : List Json) (r : List Char), DistinctItems (v :: vs) →
    2 * (renderItems style (v :: vs)).length + 1 ≤ n →
      items n (renderItems style (v :: vs) ++ ']' :: r) = some (v :: vs, r)

/-- The same for the members of an object. -/
def ReadsMembers (style : Style) (n : ℕ) : Prop :=
  ∀ (f : String × Json) (fs : List (String × Json)) (r : List Char),
    DistinctFields (f :: fs) →
    2 * (renderFields style (f :: fs)).length + 1 ≤ n →
      members n (renderFields style (f :: fs) ++ '}' :: r) = some (f :: fs, r)

theorem readsValue_succ {style : Style} {n : ℕ} (hi : ReadsItems style n)
    (hm : ReadsMembers style n) : ReadsValue style (n + 1) := by
  intro j r hd hr hn
  cases j with
  | null => rw [render]; simp [value, literal]
  | bool b => cases b <;> (rw [render]; simp [value, literal])
  | int i =>
      rw [render, value_number ?_ n, number_int i hr]
      rcases renderInt_head i with ⟨c, t, h, hdig⟩ | ⟨c, t, h, hdig⟩
      · exact Or.inl ⟨c, t ++ r, by rw [h]; rfl, hdig⟩
      · exact Or.inr ⟨c, t ++ r, by rw [h]; rfl, hdig⟩
  | float m e =>
      rw [render, List.append_assoc, List.cons_append, value_number ?_ n,
        number_float m e hr]
      rcases renderInt_head m with ⟨c, t, h, hdig⟩ | ⟨c, t, h, hdig⟩
      · exact Or.inl ⟨c, _, by rw [h, List.cons_append], hdig⟩
      · exact Or.inr ⟨c, _, by rw [h, List.cons_append, List.cons_append], hdig⟩
  | nan => rw [render]; simp [value, literal]
  | infinity b => cases b <;> (rw [render]; simp [value, literal])
  | str s =>
      have hs := unescape_str style s r
      rw [render, renderStr, List.cons_append, List.append_assoc,
        List.cons_append, List.nil_append]
      rcases hu : unescape (s.toList.flatMap (escapeChar style) ++ '"' :: r)
        with _ | ⟨us, r1⟩
      · rw [hu] at hs
        exact absurd hs (by simp)
      · rw [hu] at hs
        simp only [Option.map_some, Option.some.injEq, Prod.mk.injEq] at hs
        obtain ⟨hk, rfl⟩ := hs
        simp [value, hu, hk]
  | arr vs =>
      -- an empty array is read in one step, any other through its items
      cases vs with
      | nil =>
          rw [render, renderItems]
          simp [value, skipWs_cons (show isWs ']' = false by decide)]
      | cons v vs =>
          rw [Distinct] at hd
          rw [render] at hn
          simp only [List.length_cons, List.length_append,
            List.length_nil] at hn
          exact value_arr style (hi v vs r hd (by omega))
  | obj fs =>
      cases fs with
      | nil =>
          rw [render, renderFields]
          simp [value, skipWs_cons (show isWs '}' = false by decide)]
      | cons f fs =>
          rw [Distinct] at hd
          rw [render] at hn
          simp only [List.length_cons, List.length_append,
            List.length_nil] at hn
          exact value_obj style hd.1 (hm f fs r hd.2 (by omega))

theorem readsItems_succ {style : Style} {n : ℕ} (hv : ReadsValue style n)
    (hi : ReadsItems style n) : ReadsItems style (n + 1) := by
  intro v vs r hd hn
  rw [DistinctItems] at hd
  cases vs with
  | nil =>
      rw [renderItems] at hn ⊢
      rw [items, hv v _ hd.1 (stops_cons (by decide)) (by omega)]
      simp [skipWs_cons (show isWs ']' = false by decide)]
  | cons w vs =>
      rw [renderItems] at hn ⊢
      simp only [List.length_cons, List.length_append] at hn
      rw [List.append_assoc, List.cons_append, items,
        hv v _ hd.1 (comma_stops _) (by omega)]
      obtain ⟨c, cs, hc, hw, -⟩ := renderItems_head style w vs
      have hrest := hi w vs r hd.2 (by omega)
      have hskip : skipWs (blank style ++ renderItems style (w :: vs) ++
          ']' :: r) = renderItems style (w :: vs) ++ ']' :: r := by
        rw [List.append_assoc, skipWs_blank, hc, List.cons_append,
          skipWs_cons hw]
      simp only [skipWs_cons (show isWs ',' = false by decide), hskip, hrest,
        Option.map_some]

theorem readsMembers_succ {style : Style} {n : ℕ} (hv : ReadsValue style n)
    (hm : ReadsMembers style n) : ReadsMembers style (n + 1) := by
  rintro ⟨k, v⟩ fs r hd hn
  rw [DistinctFields] at hd
  cases fs with
  | nil =>
      rw [renderFields] at hn ⊢
      simp only [List.length_cons, List.length_append] at hn
      have hval := hv v ('}' :: r) hd.1 (stops_cons (by decide)) (by omega)
      rw [List.append_assoc, List.cons_append, List.append_assoc,
        members_step style hval]
      simp [skipWs_cons (show isWs '}' = false by decide)]
  | cons g gs =>
      rw [renderFields] at hn ⊢
      simp only [List.length_cons, List.length_append] at hn
      have hval := hv v
        (',' :: (blank style ++ (renderFields style (g :: gs) ++ '}' :: r)))
        hd.1 (comma_stops _) (by omega)
      have hrest := hm g gs r hd.2 (by omega)
      obtain ⟨cs, hc⟩ := renderFields_head style g gs
      have hskip : skipWs (blank style ++ (renderFields style (g :: gs) ++
          '}' :: r)) = renderFields style (g :: gs) ++ '}' :: r := by
        rw [skipWs_blank, hc, List.cons_append, skipWs_cons (by decide)]
      simp only [List.append_assoc, List.cons_append]
      rw [members_step style hval]
      simp only [skipWs_cons (show isWs ',' = false by decide), hskip, hrest,
        Option.map_some]

/-- Induction on the fuel, which every call of the decoder lowers by one. -/
theorem reads (style : Style) : ∀ n : ℕ,
    ReadsValue style n ∧ ReadsItems style n ∧ ReadsMembers style n
  | 0 => by
      refine ⟨?_, ?_, ?_⟩
      · intro j r _ _ hn
        obtain ⟨c, cs, hc, -⟩ := render_head style j
        simp [hc] at hn
      · intro v vs r _ hn
        omega
      · intro f fs r _ hn
        omega
  | n + 1 => by
      obtain ⟨hv, hi, hm⟩ := reads style n
      exact ⟨readsValue_succ hi hm, readsItems_succ hv hi,
        readsMembers_succ hv hm⟩

/-- **The decoder inverts the encoder.** -/
theorem loadsChars_render (style : Style) {j : Json} (h : Distinct j) :
    loadsChars (render style j) = some j := by
  have hv := (reads style (2 * (render style j).length + 2)).1 j [] h
    (by simp [Stops]) (by omega)
  have hs := skipWs_render style j []
  rw [List.append_nil] at hv hs
  rw [loadsChars, hs, hv]
  rfl

theorem loads_dumps (style : Style) {j : Json} (h : Distinct j) :
    loads (dumps style j) = some j := by
  rw [loads, dumps, String.toList_ofList, loadsChars_render style h]

/-! ## §5  What the decoder builds -/

theorem distinctItems_iff : ∀ {items : List Json},
    DistinctItems items ↔ ∀ v ∈ items, Distinct v := by
  intro items
  induction items with
  | nil => simp [DistinctItems]
  | cons v vs ih => simp [DistinctItems, ih]

theorem distinctFields_iff : ∀ {fields : List (String × Json)},
    DistinctFields fields ↔ ∀ f ∈ fields, Distinct f.2 := by
  intro fields
  induction fields with
  | nil => simp [DistinctFields]
  | cons f fs ih => simp [DistinctFields, ih]

theorem distinct_upsert {key : String} {v : Json} {fields : List (String × Json)}
    (hv : Distinct v) (h : Distinct (.obj fields)) : Distinct (.obj (upsert key v fields)) := by
  refine ⟨?_, distinctFields_iff.mpr fun f hf => ?_⟩
  · rw [keys_upsert]
    split
    · exact h.1
    · rename_i hnew
      exact List.nodup_append.mpr ⟨h.1, by simp, fun a ha b hb => by
        rw [List.mem_singleton.mp hb]
        rintro rfl
        exact hnew ha⟩
  · rcases mem_upsert hf with rfl | hf
    · exact hv
    · exact distinctFields_iff.mp h.2 f hf

/-- The dictionary of pairs of distinct values is one without a repeated key. -/
theorem distinct_ofPairs {pairs : List (String × Json)} (h : ∀ p ∈ pairs, Distinct p.2) :
    Distinct (.obj (ofPairs pairs)) := by
  have hfold : ∀ (pairs d : List (String × Json)), (∀ p ∈ pairs, Distinct p.2) →
      Distinct (.obj d) → Distinct (.obj (pairs.foldl (fun d p => upsert p.1 p.2 d) d)) := by
    intro pairs
    induction pairs with
    | nil => exact fun d _ hd => hd
    | cons p ps ih =>
        intro d hps hd
        refine ih _ (fun q hq => hps q (List.mem_cons_of_mem _ hq)) ?_
        exact distinct_upsert (hps p List.mem_cons_self) hd
  exact hfold pairs [] h ⟨List.nodup_nil, trivial⟩

/-- What `value`, `items` and `members` build with so much fuel. -/
structure BuildsDistinct (n : ℕ) : Prop where
  value : ∀ cs v r, value n cs = some (v, r) → Distinct v
  items : ∀ cs vs r, items n cs = some (vs, r) → ∀ v ∈ vs, Distinct v
  members : ∀ cs ps r, members n cs = some (ps, r) → ∀ p ∈ ps, Distinct p.2

theorem number_distinct {cs : List Char} {v : Json} {r : List Char}
    (h : number cs = some (v, r)) : Distinct v := by
  have hunsigned {sign : ℤ} {cs : List Char} (h : unsigned sign cs = some (v, r)) :
      Distinct v := by
    unfold unsigned at h
    split at h
    · cases h
    · dsimp only at h
      split at h
      · obtain ⟨rfl, -⟩ := Prod.mk.inj (Option.some.inj h)
        trivial
      · split at h
        · obtain ⟨rfl, -⟩ := Prod.mk.inj (Option.some.inj h)
          trivial
        · obtain ⟨rfl, -⟩ := Prod.mk.inj (Option.some.inj h)
          trivial
  unfold number at h
  split at h
  · exact hunsigned h
  · exact hunsigned h

theorem literal_distinct {cs : List Char} {v : Json} {r : List Char}
    (h : literal cs = some (v, r)) : Distinct v := by
  unfold literal at h
  split at h
  all_goals cases h
  all_goals trivial

theorem buildsDistinct : ∀ n, BuildsDistinct n := by
  intro n
  -- one induction on the fuel for values, items and members together
  induction n with
  | zero =>
      constructor
      · intro cs v r h
        simp [Json.value] at h
      · intro cs vs r h
        simp [Json.items] at h
      · intro cs ps r h
        simp [Json.members] at h
  | succ n ih =>
      constructor
      · intro cs v r h
        unfold Json.value at h
        split at h
        · obtain ⟨p, -, hp⟩ := Option.map_eq_some_iff.mp h
          obtain ⟨rfl, -⟩ := Prod.mk.inj hp
          trivial
        · split at h
          · obtain ⟨rfl, -⟩ := Prod.mk.inj (Option.some.inj h)
            trivial
          · obtain ⟨p, hitems, hp⟩ := Option.map_eq_some_iff.mp h
            obtain ⟨rfl, -⟩ := Prod.mk.inj hp
            exact distinctItems_iff.mpr (ih.items _ p.1 p.2 hitems)
        · split at h
          · obtain ⟨rfl, -⟩ := Prod.mk.inj (Option.some.inj h)
            exact ⟨List.nodup_nil, trivial⟩
          · obtain ⟨p, hmembers, hp⟩ := Option.map_eq_some_iff.mp h
            obtain ⟨rfl, -⟩ := Prod.mk.inj hp
            exact distinct_ofPairs (ih.members _ p.1 p.2 hmembers)
        · split at h
          · rename_i p hliteral
            obtain rfl := Option.some.inj h
            exact literal_distinct hliteral
          · exact number_distinct h
      · intro cs vs r h
        unfold Json.items at h
        split at h
        · cases h
        · rename_i v rest hv
          have hvalue := ih.value _ _ _ hv
          split at h
          · obtain ⟨p, hitems, hp⟩ := Option.map_eq_some_iff.mp h
            obtain ⟨rfl, -⟩ := Prod.mk.inj hp
            exact List.forall_mem_cons.mpr ⟨hvalue, ih.items _ p.1 p.2 hitems⟩
          · obtain ⟨rfl, -⟩ := Prod.mk.inj (Option.some.inj h)
            simpa using hvalue
          · cases h
      · intro cs ps r h
        unfold Json.members at h
        split at h
        · split at h
          · cases h
          · split at h
            · split at h
              · cases h
              · rename_i v rest hv
                have hvalue := ih.value _ _ _ hv
                split at h
                · obtain ⟨p, hmembers, hp⟩ := Option.map_eq_some_iff.mp h
                  obtain ⟨rfl, -⟩ := Prod.mk.inj hp
                  exact List.forall_mem_cons.mpr ⟨hvalue, ih.members _ p.1 p.2 hmembers⟩
                · obtain ⟨rfl, -⟩ := Prod.mk.inj (Option.some.inj h)
                  simpa using hvalue
                · cases h
            · cases h
        · cases h

/-- **What is decoded repeats no key.** -/
theorem loads_distinct {s : String} {j : Json} (h : loads s = some j) : Distinct j := by
  unfold loads loadsChars at h
  split at h
  · rename_i v r hv
    split at h
    · obtain rfl := Option.some.inj h
      exact (buildsDistinct _).value _ _ _ hv
    · cases h
  · cases h

end AlertTriage.Library.Json
