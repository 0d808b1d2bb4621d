import Mathlib.Data.List.DropRight
import Mathlib.Data.Nat.Notation
import Mathlib.Tactic.Common

/-!
# Base64 and its URL-safe form

Bytes as groups of six bits and as characters. `atob` is the forgiving decoder
of the web platform: it ignores whitespace, takes a text with or without its
padding and drops leftover bits. The URL-safe form has `-` and `_` for the last
two characters and no padding; its decoder translates and pads a text before it
hands it to `atob`, and reads back what the encoder writes
(`urlDecode_urlEncode`).
-/

namespace AlertTriage.Library.Base64

/-! ## Groups of six bits -/

/-- The six-bit groups of a byte string, the last one filled with zeros. -/
def sextets : List UInt8 → List ℕ
  | a :: b :: c :: rest =>
      let n := a.toNat * 65536 + b.toNat * 256 + c.toNat
      n / 262144 :: n / 4096 % 64 :: n / 64 % 64 :: n % 64 :: sextets rest
  | [a, b] =>
      let n := a.toNat * 256 + b.toNat
      [n / 1024, n / 16 % 64, n % 16 * 4]
  | [a] => [a.toNat / 4, a.toNat % 4 * 16]
  | [] => []

/-- The bytes of six-bit groups; leftover bits are dropped. -/
def octets : List ℕ → List UInt8
  | a :: b :: c :: d :: rest =>
      let n := a * 262144 + b * 4096 + c * 64 + d
      UInt8.ofNat (n / 65536) :: UInt8.ofNat (n / 256 % 256) ::
        UInt8.ofNat (n % 256) :: octets rest
  | [a, b, c] =>
      let n := (a * 4096 + b * 64 + c) / 4
      [UInt8.ofNat (n / 256), UInt8.ofNat (n % 256)]
  | [a, b] => [UInt8.ofNat ((a * 64 + b) / 16)]
  | _ => []

theorem ofNat_of_eq {n : ℕ} {b : UInt8} (h : n = b.toNat) :
    UInt8.ofNat n = b := by
  rw [h, UInt8.ofNat_toNat]

/-- Four groups cut from a number give its three bytes. -/
theorem octets_group (n : ℕ) (rest : List ℕ) :
    octets (n / 262144 :: n / 4096 % 64 :: n / 64 % 64 :: n % 64 :: rest) =
      UInt8.ofNat (n / 65536) :: UInt8.ofNat (n / 256 % 256) ::
        UInt8.ofNat (n % 256) :: octets rest := by
  have hjoin : n / 262144 * 262144 + n / 4096 % 64 * 4096 + n / 64 % 64 * 64 +
      n % 64 = n := by omega
  simp only [octets, hjoin]

theorem octets_three (n : ℕ) :
    octets [n / 1024, n / 16 % 64, n % 16 * 4] =
      [UInt8.ofNat (n / 256), UInt8.ofNat (n % 256)] := by
  have hjoin : (n / 1024 * 4096 + n / 16 % 64 * 64 + n % 16 * 4) / 4 = n := by
    omega
  simp only [octets, hjoin]

theorem octets_sextets (bs : List UInt8) : octets (sextets bs) = bs := by
  induction bs using sextets.induct with
  | case1 a b c rest ih =>
      have ha := a.toNat_lt
      have hb := b.toNat_lt
      have hc := c.toNat_lt
      rw [sextets, octets_group, ih, ofNat_of_eq (b := a) (by omega),
        ofNat_of_eq (b := b) (by omega), ofNat_of_eq (b := c) (by omega)]
  | case2 a b =>
      have ha := a.toNat_lt
      have hb := b.toNat_lt
      rw [sextets, octets_three, ofNat_of_eq (b := a) (by omega),
        ofNat_of_eq (b := b) (by omega)]
  | case3 a =>
      simp only [sextets, octets]
      rw [ofNat_of_eq (b := a) (by omega)]
  | case4 => rfl

theorem lt_of_mem_sextets {bs : List UInt8} {n : ℕ} (h : n ∈ sextets bs) :
    n < 64 := by
  induction bs using sextets.induct with
  | case1 a b c rest ih =>
      have ha := a.toNat_lt
      have hb := b.toNat_lt
      have hc := c.toNat_lt
      simp only [sextets, List.mem_cons] at h
      rcases h with rfl | rfl | rfl | rfl | h
      · omega
      · omega
      · omega
      · omega
      · exact ih h
  | case2 a b =>
      have ha := a.toNat_lt
      have hb := b.toNat_lt
      simp only [sextets, List.mem_cons, List.not_mem_nil, or_false] at h
      omega
  | case3 a =>
      have ha := a.toNat_lt
      simp only [sextets, List.mem_cons, List.not_mem_nil, or_false] at h
      omega
  | case4 => simp [sextets] at h

/-- A text of six-bit groups is never one over a multiple of four long. -/
theorem length_sextets (bs : List UInt8) : (sextets bs).length % 4 ≠ 1 := by
  induction bs using sextets.induct with
  | case1 a b c rest ih =>
      simp only [sextets, List.length_cons]
      omega
  | case2 a b => simp [sextets]
  | case3 a => simp [sextets]
  | case4 => simp [sextets]

/-! ## Characters -/

def stdChar (n : ℕ) : Char :=
  if n < 26 then Char.ofNat (65 + n)
  else if n < 52 then Char.ofNat (71 + n)
  else if n < 62 then Char.ofNat (n - 4)
  else if n = 62 then '+'
  else '/'

def urlChar (n : ℕ) : Char :=
  if n = 62 then '-' else if n = 63 then '_' else stdChar n

/-- The group that a character of the standard alphabet stands for. -/
def sextet (c : Char) : Option ℕ :=
  let n := c.toNat
  if 65 ≤ n ∧ n ≤ 90 then some (n - 65)
  else if 97 ≤ n ∧ n ≤ 122 then some (n - 71)
  else if 48 ≤ n ∧ n ≤ 57 then some (n + 4)
  else if c = '+' then some 62
  else if c = '/' then some 63
  else none

def fromUrl (c : Char) : Char :=
  if c = '-' then '+' else if c = '_' then '/' else c

/-- The whitespace that `atob` ignores. -/
def isSpace (c : Char) : Bool :=
  c == ' ' || c == '\t' || c == '\n' || c == '\r' || c == Char.ofNat 12

/-! ## Decoding and encoding -/

/-- One or two `=` at the end of a text. -/
def stripPadding (cs : List Char) : List Char :=
  if cs.drop (cs.length - 2) = ['=', '='] then cs.take (cs.length - 2)
  else if cs.drop (cs.length - 1) = ['='] then cs.take (cs.length - 1)
  else cs

/-- `btoa`: full groups of four characters. -/
def btoa (bs : List UInt8) : List Char :=
  (sextets bs).map stdChar ++ List.replicate ((3 - bs.length % 3) % 3) '='

/-- `atob`. -/
def atob (cs : List Char) : Option (List UInt8) :=
  let cs := cs.filter fun c => !isSpace c
  let cs := if cs.length % 4 = 0 then stripPadding cs else cs
  if cs.length % 4 = 1 then none
  else (cs.mapM sextet).map octets

def urlEncode (bs : List UInt8) : List Char := (sextets bs).map urlChar

/-- What `"===".slice((n + 3) % 4)` appends to a text of length `n`. -/
def padding (n : ℕ) : List Char := ['=', '=', '='].drop ((n + 3) % 4)

def urlDecode (cs : List Char) : Option (List UInt8) :=
  atob (cs.map fromUrl ++ padding cs.length)

/-! ## What is written is read back -/

theorem char_facts : ∀ n < 64, fromUrl (urlChar n) = stdChar n ∧
    sextet (stdChar n) = some n ∧ isSpace (stdChar n) = false ∧
    stdChar n ≠ '=' ∧ urlChar n ≠ '.' := by
  decide

theorem dot_notMem_urlEncode (bs : List UInt8) : '.' ∉ urlEncode bs := by
  intro h
  obtain ⟨n, hn, hc⟩ := List.mem_map.mp h
  exact (char_facts n (lt_of_mem_sextets hn)).2.2.2.2 hc

theorem mapM_sextet {ns : List ℕ} (h : ∀ n ∈ ns, n < 64) :
    (ns.map stdChar).mapM sextet = some ns := by
  induction ns with
  | nil => rfl
  | cons n ns ih =>
      have hn := (char_facts n (h n List.mem_cons_self)).2.1
      have hrest := ih fun m hm => h m (List.mem_cons_of_mem _ hm)
      rw [List.map_cons, List.mapM_cons, hn, hrest]
      rfl

theorem stripPadding_padded {cs pad : List Char} (h : ∀ c ∈ cs, c ≠ '=')
    (hp : pad = [] ∨ pad = ['='] ∨ pad = ['=', '=']) :
    stripPadding (cs ++ pad) = cs := by
  have hlast : ∀ k, '=' ∉ cs.drop k := fun k hc =>
    h '=' (List.mem_of_mem_drop hc) rfl
  rcases hp with rfl | rfl | rfl
  · have h2 : cs.drop (cs.length - 2) ≠ ['=', '='] := fun he =>
      hlast (cs.length - 2) (by rw [he]; decide)
    have h1 : cs.drop (cs.length - 1) ≠ ['='] := fun he =>
      hlast (cs.length - 1) (by rw [he]; decide)
    simp [stripPadding, h1, h2]
  · have h2 : (cs ++ ['=']).drop ((cs ++ ['=']).length - 2) ≠ ['=', '='] := by
      intro he
      rcases cs.eq_nil_or_concat with rfl | ⟨init, c, rfl⟩
      · simp at he
      · have hc : c ≠ '=' := h c (by simp)
        simp [hc] at he
    simp only [stripPadding, if_neg h2]
    simp
  · simp [stripPadding]

theorem padding_cases (k : ℕ) (h : k % 4 ≠ 1) :
    padding k = [] ∨ padding k = ['='] ∨ padding k = ['=', '='] := by
  have hmod : (k + 3) % 4 = 3 ∨ (k + 3) % 4 = 2 ∨ (k + 3) % 4 = 1 := by omega
  rcases hmod with h | h | h
  · exact .inl (by rw [padding, h]; rfl)
  · exact .inr (.inl (by rw [padding, h]; rfl))
  · exact .inr (.inr (by rw [padding, h]; rfl))

/-- `atob` reads what is padded to a multiple of four. -/
theorem atob_padded (bs : List UInt8) :
    atob ((sextets bs).map stdChar ++ padding (sextets bs).length) = some bs := by
  have hlt : ∀ n ∈ sextets bs, n < 64 := fun n => lt_of_mem_sextets
  have hmod := length_sextets bs
  set k := (sextets bs).length with hk
  have hpad := padding_cases k hmod
  have hspace : ((sextets bs).map stdChar ++ padding k).filter
      (fun c => !isSpace c) = (sextets bs).map stdChar ++ padding k := by
    rw [List.filter_eq_self]
    intro c hc
    rcases List.mem_append.mp hc with hc | hc
    · obtain ⟨n, hn, rfl⟩ := List.mem_map.mp hc
      simp [(char_facts n (hlt n hn)).2.2.1]
    · have : c = '=' := by
        rcases hpad with h | h | h
        · simp [h] at hc
        · simpa [h] using hc
        · simpa [h] using hc
      subst this
      decide
  have hplen : (k + (padding k).length) % 4 = 0 := by
    simp only [padding, List.length_drop, List.length_cons, List.length_nil]
    omega
  have hstrip : stripPadding ((sextets bs).map stdChar ++ padding k) =
      (sextets bs).map stdChar := by
    refine stripPadding_padded (fun c hc => ?_) hpad
    obtain ⟨n, hn, rfl⟩ := List.mem_map.mp hc
    exact (char_facts n (hlt n hn)).2.2.2.1
  rw [atob, hspace]
  simp only [List.length_append, List.length_map, ← hk, hplen, if_true, hstrip]
  rw [if_neg (by simpa using hmod), mapM_sextet hlt]
  exact congrArg some (octets_sextets bs)

/-- **Round trip**: the decoder reads back every byte string. -/
theorem urlDecode_urlEncode (bs : List UInt8) :
    urlDecode (urlEncode bs) = some bs := by
  have hstd : (urlEncode bs).map fromUrl = (sextets bs).map stdChar := by
    rw [urlEncode, List.map_map]
    exact List.map_congr_left fun n hn => (char_facts n (lt_of_mem_sextets hn)).1
  have hlen : (urlEncode bs).length = (sextets bs).length := by
    simp [urlEncode]
  rw [urlDecode, hstd, hlen]
  exact atob_padded bs

/-! ## The URL-safe form from the standard one -/

def replaceChar (old new c : Char) : Char := if c = old then new else c

/-- `s.replace(/old/g, new)`. -/
def replaceAll (old new : Char) (cs : List Char) : List Char :=
  cs.map (replaceChar old new)

theorem replaceChar_stdChar : ∀ n < 64,
    replaceChar '/' '_' (replaceChar '+' '-' (stdChar n)) = urlChar n ∧
      urlChar n ≠ '=' := by
  decide

theorem replaceAll_fromUrl (cs : List Char) :
    replaceAll '_' '/' (replaceAll '-' '+' cs) = cs.map fromUrl := by
  unfold replaceAll
  rw [List.map_map]
  apply List.map_congr_left
  intro c _
  unfold Function.comp replaceChar fromUrl
  by_cases hdash : c = '-'
  · rw [if_pos hdash, if_pos hdash, if_neg (by decide)]
  · rw [if_neg hdash, if_neg hdash]

/-- No `=` of the padding is left. -/
theorem rdropWhile_urlEncode (bs : List UInt8) (k : ℕ) :
    (urlEncode bs ++ List.replicate k '=').rdropWhile (· == '=') = urlEncode bs := by
  induction k with
  | zero =>
      rw [List.replicate_zero, List.append_nil, List.rdropWhile_eq_self_iff]
      intro hne hlast
      obtain ⟨n, hn, heq⟩ := List.mem_map.mp (List.getLast_mem hne)
      rw [← heq, beq_iff_eq] at hlast
      exact (replaceChar_stdChar n (lt_of_mem_sextets hn)).2 hlast
  | succ k ih =>
      rw [List.replicate_succ', ← List.append_assoc, List.rdropWhile_concat_pos _ _ _ rfl]
      exact ih

/-- The standard form with its last two characters replaced and its padding cut off
is the URL-safe form. -/
theorem urlEncode_eq (bs : List UInt8) :
    (replaceAll '/' '_' (replaceAll '+' '-' (btoa bs))).rdropWhile (· == '=') =
      urlEncode bs := by
  have hchars : replaceAll '/' '_' (replaceAll '+' '-' ((sextets bs).map stdChar)) =
      urlEncode bs := by
    unfold replaceAll urlEncode
    rw [List.map_map, List.map_map]
    apply List.map_congr_left
    intro n hn
    exact (replaceChar_stdChar n (lt_of_mem_sextets hn)).1
  have hpad : ∀ k, replaceAll '/' '_' (replaceAll '+' '-' (List.replicate k '=')) =
      List.replicate k '=' := by
    intro k
    unfold replaceAll
    rw [List.map_replicate, List.map_replicate]
    rfl
  have happend : ∀ cs ds, replaceAll '/' '_' (replaceAll '+' '-' (cs ++ ds)) =
      replaceAll '/' '_' (replaceAll '+' '-' cs) ++
        replaceAll '/' '_' (replaceAll '+' '-' ds) := by
    intro cs ds
    unfold replaceAll
    rw [List.map_append, List.map_append]
  rw [btoa, happend, hchars, hpad]
  exact rdropWhile_urlEncode bs _

end AlertTriage.Library.Base64
