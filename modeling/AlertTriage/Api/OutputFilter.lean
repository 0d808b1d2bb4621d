import AlertTriage.Api.InputGuard
import AlertTriage.Runtime.BlankTenants
import Mathlib.Data.List.Infix

/-!
# The patterns of `security/output_filter.py`

`scrub_string` replaces the values of credentials and then card numbers. What it returns has
neither (`clean_scrubString`): a credential that is found there is a redacted one, and no digits
were brought together. So it stays as it is when it is scrubbed again (`scrubString_scrubString`).
-/

namespace AlertTriage

open Library Library.Json

/-! ## §1  The patterns -/

/-- The tables of characters beyond ASCII: `isalnum` and `isdecimal`. -/
structure CharClasses where
  isAlnum : Char → Bool
  isDecimal : Char → Bool
  alnum_of_decimal : ∀ c, isDecimal c = true → isAlnum c = true
  space_of_decimal : ∀ c, isDecimal c = true → isPySpace c = false

/-- `\d`. -/
def CharClasses.digit (classes : CharClasses) (c : Char) : Bool :=
  c.isDigit || (decide (128 ≤ c.toNat) && classes.isDecimal c)

/-- `(password|passwd|pwd|secret|token|api[_-]?key)`, in any case. -/
def keywordPattern : Pattern Char :=
  .oneOf (["password", "passwd", "pwd", "secret", "token"].map anyCase ++
    [.seq (anyCase "api") (.seq (.opt (.one fun c => c == '_' || c == '-')) (anyCase "key"))])

/-- `[=:]`. -/
def isSeparator (c : Char) : Bool := c == '=' || c == ':'

/-- `\S`. -/
def isVisible (c : Char) : Bool := !isPySpace c

/-- `\s*[=:]\s*\S+`. -/
def valuePattern : Pattern Char :=
  .seq (.star true (.one isPySpace)) (.seq (.one isSeparator)
    (.seq (.star true (.one isPySpace)) (.seq (.one isVisible) (.star true (.one isVisible)))))

def redaction : List Char := "=***REDACTED***".toList

/-- `_PASSWORD_RE`, replaced by `\1=***REDACTED***`. -/
def credentials : Matcher Char := keywordPattern.replacingAfter valuePattern redaction

/-- `(?:\d[ -]?){13,16}`. -/
def cardNumber (classes : CharClasses) : Pattern Char :=
  let group : Pattern Char := .seq (.one classes.digit) (.opt (.one fun c => c == ' ' || c == '-'))
  .seq (.times 13 group) (.upTo 3 group)

/-- `_CREDIT_CARD_RE`. -/
def cardPattern (classes : CharClasses) : Pattern Char :=
  let wordEnd := .boundary (isWord classes.isAlnum)
  .seq wordEnd (.seq (cardNumber classes) wordEnd)

def cardMark : List Char := "***CC_REDACTED***".toList

/-- `_CREDIT_CARD_RE`, replaced by `***CC_REDACTED***`. -/
def cards (classes : CharClasses) : Matcher Char := (cardPattern classes).replacing cardMark

/-- `scrub_string`. -/
def scrubString (classes : CharClasses) (value : String) : String :=
  String.ofList (sub (cards classes) (sub credentials value.toList))

/-- A card number is found in the text. -/
def hasCard (classes : CharClasses) (text : String) : Bool :=
  (cardPattern classes).found text.toList

/-- A credential is found in the text that is not what it would be replaced by. -/
def hasCredential (text : String) : Bool :=
  (places [] text.toList).any fun c =>
    (credentials c).any fun found => c.after != found.2 ++ found.1.after

/-- Nothing to scrub. -/
structure Clean (classes : CharClasses) (text : String) : Prop where
  card : hasCard classes text = false
  credential : hasCredential text = false

/-- No digits and letters beyond ASCII. -/
def asciiClasses : CharClasses where
  isAlnum _ := false
  isDecimal _ := false
  alnum_of_decimal _ h := h
  space_of_decimal _ h := absurd h Bool.false_ne_true

/-! ## §2  What the patterns take -/

/-- The characters of keywords are among these. -/
def keyChar (c : Char) : Bool := !isPySpace c && c != '=' && c != ':' && c != '*'

/-- The characters of the letter codes, and the few beyond ASCII that fold to letters. -/
theorem keyChar_of_toNat {a : Char} (h : 65 ≤ a.toNat ∧ a.toNat ≤ 122 ∨
    0x130 ≤ a.toNat ∧ a.toNat ≤ 0x17F ∨ a.toNat = 0x212A) : keyChar a = true := by
  have hne (d : Char) (hd : a.toNat ≠ d.toNat) : (a != d) = true :=
    bne_iff_ne.mpr fun heq => hd (congrArg _ heq)
  have hspace : isPySpace a = false := by
    simp only [isPySpace, Bool.or_eq_false_iff, Bool.and_eq_false_iff, decide_eq_false_iff_not,
      beq_eq_false_iff_ne]
    omega
  have heq : ('=' : Char).toNat = 61 := rfl
  have hcolon : (':' : Char).toNat = 58 := rfl
  have hstar : ('*' : Char).toNat = 42 := rfl
  unfold keyChar
  rw [hspace, hne '=' (by omega), hne ':' (by omega), hne '*' (by omega)]
  rfl

theorem keyChar_of_foldCase {a l : Char} (hl : 97 ≤ l.toNat ∧ l.toNat ≤ 122)
    (h : foldCase a = l) : keyChar a = true := by
  apply keyChar_of_toNat
  unfold foldCase at h
  split at h
  · omega
  · split at h
    · omega
    · split at h
      · omega
      · -- an ASCII letter: an upper case one, or itself
        unfold Char.toLower at h
        split at h
        · rename_i hupper
          have hlow : 65 ≤ a.toNat := hupper.1
          have hhigh : a.toNat ≤ 90 := hupper.2
          omega
        · rw [h]
          omega

theorem anyCase_free {text : String} (htext : text.toList.all Char.isLower = true) :
    (anyCase text).Free keyChar := by
  refine Pattern.free_word fun q hq a ha => ?_
  obtain ⟨l, hl, rfl⟩ := List.mem_map.mp hq
  obtain ⟨hlow, hhigh⟩ := Bool.and_eq_true_iff.mp (List.all_eq_true.mp htext l hl)
  exact keyChar_of_foldCase ⟨of_decide_eq_true hlow, of_decide_eq_true hhigh⟩ (eq_of_beq ha)

theorem keyword_free : keywordPattern.Free keyChar := by
  have hwords : ["password", "passwd", "pwd", "secret", "token"].all
      (fun text => text.toList.all Char.isLower) = true := rfl
  refine Pattern.free_oneOf fun r hr => ?_
  rcases List.mem_append.mp hr with hr | hr
  · obtain ⟨text, htext, rfl⟩ := List.mem_map.mp hr
    exact anyCase_free (List.all_eq_true.mp hwords text htext)
  · obtain rfl := List.mem_singleton.mp hr
    refine (anyCase_free rfl).seq (.seq (.opt (Pattern.free_one fun a ha => ?_))
      (anyCase_free rfl))
    rcases Bool.or_eq_true_iff.mp ha with ha | ha
    · rw [eq_of_beq ha]
      rfl
    · rw [eq_of_beq ha]
      rfl

theorem keyword_consumes : keywordPattern.Consumes := by
  have hletter (p : Char → Bool) (ps : List (Char → Bool)) :
      (Pattern.word (p :: ps)).Consumes := (Pattern.consumes_one p).seq (.word ps)
  refine Pattern.consumes_oneOf fun r hr => ?_
  rcases List.mem_append.mp hr with hr | hr
  · obtain ⟨text, htext, rfl⟩ := List.mem_map.mp hr
    fin_cases htext <;> exact hletter _ _
  · obtain rfl := List.mem_singleton.mp hr
    exact (hletter _ _).seq _

/-- A separator comes, and then a value, each after any number of spaces. -/
def Opens (text : List Char) : Prop :=
  ∃ before sep after value rest, text = before ++ sep :: (after ++ value :: rest) ∧
    (∀ a ∈ before, isPySpace a = true) ∧ isSeparator sep = true ∧
      (∀ a ∈ after, isPySpace a = true) ∧ isVisible value = true

/-- The text ends, or a space comes. -/
def Breaks (text : List Char) : Prop := text.head?.any isVisible = false

theorem unspaced_sep {sep : Char} (h : isSeparator sep = true) :
    isPySpace sep = false := by
  rcases Bool.or_eq_true_iff.mp h with h | h
  · rw [eq_of_beq h]
    rfl
  · rw [eq_of_beq h]
    rfl

theorem opens_of_mem_value {c d : Cursor Char} (h : d ∈ valuePattern.ends c) :
    Opens c.after := by
  obtain ⟨c₁, h₁, h⟩ := Pattern.mem_ends_seq.mp h
  obtain ⟨c₂, h₂, h⟩ := Pattern.mem_ends_seq.mp h
  obtain ⟨c₃, h₃, h⟩ := Pattern.mem_ends_seq.mp h
  obtain ⟨c₄, h₄, -⟩ := Pattern.mem_ends_seq.mp h
  obtain ⟨before, hbefore, h₁⟩ := Pattern.mem_ends_run.mp h₁
  obtain ⟨sep, hsep, h₂⟩ := Pattern.mem_ends_one.mp h₂
  obtain ⟨after, hafter, h₃⟩ := Pattern.mem_ends_run.mp h₃
  obtain ⟨value, hvalue, h₄⟩ := Pattern.mem_ends_one.mp h₄
  refine ⟨before, sep, after, value, c₄.after, ?_, hbefore, hsep, hafter, hvalue⟩
  rw [h₁.1, h₂.1, h₃.1, h₄.1]
  rfl

/-- The value that is found goes on up to a space. -/
theorem value_found {c : Cursor Char} {before after rest : List Char} {sep value : Char}
    (h : c.after = before ++ sep :: (after ++ value :: rest))
    (hbefore : ∀ a ∈ before, isPySpace a = true) (hsep : isSeparator sep = true)
    (hafter : ∀ a ∈ after, isPySpace a = true) (hvalue : isVisible value = true) :
    ∃ d, (valuePattern.ends c).head? = some d ∧
      d.after = rest.dropWhile isVisible := by
  obtain ⟨start, text⟩ := c
  obtain rfl : text = _ := h
  have hsep' := unspaced_sep hsep
  have hvisible (a : Char) (ha : isVisible a = true) : isPySpace a = false :=
    (Bool.not_eq_true' _).mp ha
  have hrun {spaces : List Char} {a : Char} {text : List Char} (start : List Char)
      (hspaces : ∀ a ∈ spaces, isPySpace a = true) (ha : isPySpace a = false) :
      Pattern.run isPySpace ⟨start, spaces ++ a :: text⟩ =
        ⟨spaces.reverse ++ start, a :: text⟩ := by
    unfold Pattern.run
    rw [List.takeWhile_append_of_pos hspaces, List.dropWhile_append_of_pos hspaces,
      List.takeWhile_cons_of_neg (by simp [ha]), List.dropWhile_cons_of_neg (by simp [ha]),
      List.append_nil]
  -- no separator and no value begins with a space, so that a shorter run of spaces never matters
  have hshort {p : Char → Bool} {s : Pattern Char} (hp : ∀ a, p a = true → isPySpace a = false)
      (d : Cursor Char) (hd : d.after.head?.any isPySpace = true) :
      (Pattern.seq (.one p) s).ends d = [] := by
    apply Pattern.ends_one_seq_eq_nil
    obtain ⟨before, text⟩ := d
    cases text with
    | nil => rfl
    | cons a text =>
        have ha : isPySpace a = true := hd
        refine Bool.eq_false_of_not_eq_true fun hpa => ?_
        rw [hp a hpa] at ha
        cases ha
  unfold valuePattern
  rw [Pattern.ends_run_seq (hshort fun _ => unspaced_sep), hrun start hbefore hsep',
    Pattern.ends_one_seq hsep, Pattern.ends_run_seq (hshort hvisible),
    hrun _ hafter (hvisible value hvalue), Pattern.ends_one_seq hvalue]
  obtain ⟨shorter, hends, -⟩ := Pattern.ends_run isVisible
    ⟨value :: (after.reverse ++ sep :: (before.reverse ++ start)), rest⟩
  rw [hends]
  exact ⟨_, rfl, rfl⟩

theorem value_ne_nil {c : Cursor Char} (h : Opens c.after) : valuePattern.ends c ≠ [] := by
  obtain ⟨before, sep, after, value, rest, htext, hbefore, hsep, hafter, hvalue⟩ := h
  obtain ⟨d, hd, -⟩ := value_found htext hbefore hsep hafter hvalue
  intro hnil
  rw [hnil] at hd
  cases hd

theorem breaks_dropWhile (text : List Char) : Breaks (text.dropWhile isVisible) := by
  have h := List.head?_dropWhile_not isVisible text
  unfold Breaks
  cases hhead : (text.dropWhile isVisible).head? with
  | none => rfl
  | some a =>
      rw [hhead] at h
      exact h

/-! ## §3  What a mark leaves open -/

/-- The spaces and separators between a keyword and a value. -/
def gapChar (c : Char) : Bool := isPySpace c || isSeparator c

/-- What is put in begins with no space or separator, and takes no text that begins with a space. -/
structure Marker (m : Matcher Char) : Prop where
  advances : m.Advances
  marks : m.Marks gapChar
  visible : ∀ before a after, isPySpace a = true → m ⟨before, a :: after⟩ = none

variable {m : Matcher Char} {c : Cursor Char} {out : List Char}

/-- A match begins with a visible character. -/
theorem Marker.head (hm : Marker m) {d : Cursor Char} {new : List Char}
    (h : m c = some (d, new)) : ∃ a after, c.after = a :: after ∧ isVisible a = true := by
  obtain ⟨text, hne, hreads⟩ := hm.advances c d new h
  obtain ⟨a, text, rfl⟩ := List.exists_cons_of_ne_nil hne
  refine ⟨a, text ++ d.after, hreads.1, ?_⟩
  obtain ⟨before, after⟩ := c
  obtain rfl : after = a :: (text ++ d.after) := hreads.1
  refine (Bool.not_eq_true' _).mpr (Bool.eq_false_of_not_eq_true fun hspace => ?_)
  rw [hm.visible before a _ hspace] at h
  cases h

/-- A value that comes after rewriting came before it. -/
theorem Marker.opens (hm : Marker m) (h : Rewrites m c out) (hopens : Opens out) :
    Opens c.after := by
  obtain ⟨before, sep, after, value, rest, rfl, hbefore, hsep, hafter, hvalue⟩ := hopens
  have hgap : ∀ a ∈ before ++ sep :: after, gapChar a = true := by
    have hspace (a : Char) (ha : isPySpace a = true) : gapChar a = true :=
      Bool.or_eq_true_iff.mpr (.inl ha)
    rw [List.forall_mem_append, List.forall_mem_cons]
    exact ⟨fun a ha => hspace a (hbefore a ha), Bool.or_eq_true_iff.mpr (.inr hsep),
      fun a ha => hspace a (hafter a ha)⟩
  have hsplit : before ++ sep :: (after ++ value :: rest) =
      (before ++ sep :: after) ++ value :: rest := by simp
  rw [hsplit] at h
  obtain ⟨d, hreads, hd⟩ := h.copied hm.marks hgap
  have hvisible : ∃ a text, d.after = a :: text ∧ isVisible a = true := by
    generalize hout : value :: rest = out at hd
    cases hd with
    | done => cases hout
    | @copy _ text _ a _ _ =>
        obtain ⟨rfl, -⟩ := List.cons.inj hout
        exact ⟨value, text, rfl, hvalue⟩
    | replace hsome _ => exact hm.head hsome
  obtain ⟨a, text, htext, ha⟩ := hvisible
  refine ⟨before, sep, after, a, text, ?_, hbefore, hsep, hafter, ha⟩
  rw [hreads.1, htext]
  simp

/-- A break stays one. -/
theorem Marker.breaks (hm : Marker m) (h : Rewrites m c out) (hbreaks : Breaks c.after) :
    Breaks out := by
  cases h with
  | done => exact hbreaks
  | copy _ _ => exact hbreaks
  | replace hsome _ =>
      obtain ⟨a, after, hafter, ha⟩ := hm.head hsome
      unfold Breaks at hbreaks
      rw [hafter] at hbreaks
      exact absurd (hbreaks.symm.trans ha) Bool.false_ne_true

theorem gapChar_of_keyChar {a : Char} (h : keyChar a = true) : gapChar a = false := by
  unfold keyChar at h
  unfold gapChar isSeparator
  simp only [Bool.and_eq_true, bne_iff_ne, Bool.not_eq_true'] at h
  simp [h]

/-- What is found of a credential. -/
theorem credentials_found {d : Cursor Char} {new : List Char}
    (h : credentials c = some (d, new)) :
    ∃ k e, c.Reads k e ∧ (∀ a ∈ k, keyChar a = true) ∧ k ≠ [] ∧ new = k ++ redaction ∧
      e ∈ keywordPattern.ends c ∧ (valuePattern.ends e).head? = some d := by
  obtain ⟨e, he, hd, text, hreads, rfl⟩ := Pattern.replacingAfter_eq_some h
  obtain ⟨k, hkey, hk, -⟩ := keyword_free c e he
  obtain rfl : k = text := List.append_cancel_right (hk.1.symm.trans hreads.1)
  refine ⟨k, e, hk, hkey, ?_, rfl, he, hd⟩
  rintro rfl
  have hlt := keyword_consumes c e he
  rw [Cursor.reads_nil.mp hk] at hlt
  exact Nat.lt_irrefl _ hlt

theorem credentials_marker : Marker credentials where
  advances := keyword_consumes.replacingAfter _ _
  marks := by
    intro c d new h
    obtain ⟨k, e, -, hkey, hne, rfl, -⟩ := credentials_found h
    obtain ⟨a, k, rfl⟩ := List.exists_cons_of_ne_nil hne
    exact ⟨a, k ++ redaction, rfl, gapChar_of_keyChar (hkey a List.mem_cons_self)⟩
  visible := by
    intro before a after hspace
    refine Option.eq_none_iff_forall_ne_some.mpr fun found h => ?_
    obtain ⟨d, new⟩ := found
    obtain ⟨k, e, hreads, hkey, hne, -⟩ := credentials_found h
    obtain ⟨b, k, rfl⟩ := List.exists_cons_of_ne_nil hne
    obtain ⟨rfl, -⟩ := List.cons.inj hreads.1
    have hgap := gapChar_of_keyChar (hkey a List.mem_cons_self)
    unfold gapChar at hgap
    rw [hspace] at hgap
    cases hgap

/-! ## §4  Redacted credentials -/

theorem breaks_of_found {e d : Cursor Char} (h : (valuePattern.ends e).head? = some d) :
    Breaks d.after := by
  obtain ⟨before, sep, after, value, rest, htext, hbefore, hsep, hafter, hvalue⟩ :=
    opens_of_mem_value (List.mem_of_head? h)
  obtain ⟨d', hd', hrest⟩ := value_found htext hbefore hsep hafter hvalue
  obtain rfl := Option.some.inj (hd'.symm.trans h)
  rw [hrest]
  exact breaks_dropWhile rest

/-- A redacted value is found as such. -/
theorem redaction_found {e d : Cursor Char} {rest : List Char}
    (h : e.after = redaction ++ rest) (hrest : Breaks rest)
    (hd : (valuePattern.ends e).head? = some d) : e.Reads redaction d := by
  have hsplit : e.after = [] ++ '=' :: ([] ++ '*' :: ("**REDACTED***".toList ++ rest)) := h
  obtain ⟨d', hd', hafter⟩ :=
    value_found hsplit (List.forall_mem_nil _) rfl (List.forall_mem_nil _) rfl
  obtain rfl := Option.some.inj (hd'.symm.trans hd)
  have hstop : rest.dropWhile isVisible = rest := by
    cases rest with
    | nil => rfl
    | cons a rest => exact List.dropWhile_cons_of_neg (Bool.eq_false_iff.mp hrest)
  have hall : "**REDACTED***".toList.all isVisible = true := rfl
  rw [List.dropWhile_append_of_pos (List.all_eq_true.mp hall), hstop] at hafter
  obtain ⟨text, htext⟩ := Pattern.reads_of_mem_ends (List.mem_of_head? hd)
  obtain rfl : text = redaction := by
    refine List.append_cancel_right (htext.1.symm.trans ?_)
    rw [h, hafter]
  exact htext

/-- Each value of a keyword in the text is a redacted one. -/
def Redacted (text : List Char) : Prop :=
  ∀ c e : Cursor Char, c.after <:+ text → e ∈ keywordPattern.ends c → Opens e.after →
    ∃ rest, e.after = redaction ++ rest ∧ Breaks rest

theorem Redacted.suffix {xs ys : List Char} (h : Redacted ys) (hsuffix : xs <:+ ys) :
    Redacted xs := fun c e hc => h c e (hc.trans hsuffix)

/-- What separates a keyword from its value is not of a keyword. -/
theorem Opens.head {text : List Char} (h : Opens text) :
    ∃ a rest, text = a :: rest ∧ keyChar a = false ∧ a ≠ '*' := by
  have hgap {a : Char} (ha : gapChar a = true) : keyChar a = false ∧ a ≠ '*' := by
    constructor
    · refine Bool.eq_false_of_not_eq_true fun hkey => ?_
      rw [gapChar_of_keyChar hkey] at ha
      cases ha
    · rintro rfl
      exact absurd ha (by decide)
  obtain ⟨before, sep, after, value, rest, rfl, hbefore, hsep, -, -⟩ := h
  cases before with
  | nil => exact ⟨sep, _, rfl, hgap (Bool.or_eq_true_iff.mpr (.inr hsep))⟩
  | cons a before =>
      exact ⟨a, _, rfl, hgap (Bool.or_eq_true_iff.mpr (.inl (hbefore a List.mem_cons_self)))⟩

/-- A text that comes to a star before any separator has no value. -/
theorem not_opens_of_star {k text rest xs ys : List Char} (hk : ∀ a ∈ k, keyChar a = true)
    (hopens : Opens rest) (h : k ++ rest = text ++ ys)
    (hstar : text = xs ++ '*' :: text.drop (xs.length + 1)) (hxs : ∀ a ∈ xs, keyChar a = true) :
    False := by
  obtain ⟨a, rest, rfl, ha, hne⟩ := hopens.head
  rw [hstar, List.append_assoc, List.cons_append] at h
  obtain ⟨-, hrest⟩ := span_unique hk hxs ha rfl h
  exact hne (List.cons.inj hrest).1

/-- Up to a value that comes after the substitution, the text is what it was, or the value is a
redacted one. -/
theorem credentials_copied {k rest : List Char} (h : Rewrites credentials c (k ++ rest))
    (hk : ∀ a ∈ k, keyChar a = true) (hopens : Opens rest) :
    (∃ d, c.Reads k d ∧ Rewrites credentials d rest) ∨
      ∃ more, rest = redaction ++ more ∧ Breaks more := by
  induction k generalizing c with
  | nil => exact .inl ⟨c, .refl c, h⟩
  | cons a k ih =>
      have hk' := hk
      obtain ⟨-, hk⟩ := List.forall_mem_cons.mp hk
      generalize hout : a :: k ++ rest = out at h
      cases h with
      | done => cases hout
      | @copy before after _ b hnone hrest =>
          obtain ⟨rfl, rfl⟩ := List.cons.inj hout
          rcases ih hrest hk with ⟨d, hreads, hd⟩ | hredacted
          · have hstep : Cursor.Reads ⟨before, a :: after⟩ [a] ⟨a :: before, after⟩ := ⟨rfl, rfl⟩
            exact .inl ⟨d, hstep.trans hreads, hd⟩
          · exact .inr hredacted
      | @replace _ d new more hsome hrest =>
          obtain ⟨k', e, -, hkey, -, rfl, -, hfound⟩ := credentials_found hsome
          obtain ⟨b, rest, rfl, hb, -⟩ := hopens.head
          have hspan : a :: k ++ b :: rest = k' ++ '=' :: ("***REDACTED***".toList ++ more) := by
            rw [hout, List.append_assoc]
            rfl
          obtain ⟨-, hvalue⟩ := span_unique hk' hkey hb rfl hspan
          exact .inr ⟨more, hvalue, credentials_marker.breaks hrest (breaks_of_found hfound)⟩

/-- The ends of a mark, up to its next star. -/
theorem redaction_tails : ∀ more ∈ redaction.tails, more = redaction ∨ more = [] ∨
    more = more.takeWhile keyChar ++ '*' :: more.drop ((more.takeWhile keyChar).length + 1) := by
  decide

theorem cardMark_tails : ∀ more ∈ cardMark.tails, more = [] ∨
    more = more.takeWhile keyChar ++ '*' :: more.drop ((more.takeWhile keyChar).length + 1) := by
  decide

theorem mem_takeWhile_keyChar {text : List Char} :
    ∀ a ∈ text.takeWhile keyChar, keyChar a = true := by
  intro a ha
  exact List.mem_takeWhile_imp ha

/-- After the substitution of credentials, all are redacted. -/
theorem redacted_credentials (h : Rewrites credentials c out) : Redacted out := by
  intro c' e hsuffix he hopens
  obtain ⟨k, hk, hreads, hagain⟩ := keyword_free c' e he
  have hpos := keyword_consumes c' e he
  have htext := hreads.1
  induction h with
  | done before =>
      rw [List.suffix_nil.mp hsuffix] at hpos
      exact absurd hpos (Nat.not_lt_zero _)
  | @copy before after out a hnone hrest ih =>
      rcases List.suffix_cons_iff.mp hsuffix with hwhole | hsuffix
      · rw [hwhole] at htext
        have hcopy : Rewrites credentials ⟨before, a :: after⟩ (k ++ e.after) :=
          htext ▸ .copy hnone hrest
        rcases credentials_copied hcopy hk hopens with ⟨d, hd, hrest⟩ | hredacted
        · -- the credential was there, and would have been found
          have hvalue := value_ne_nil (credentials_marker.opens hrest hopens)
          exact absurd (Pattern.replacingAfter_eq_none.mp hnone d (hagain _ d hd)) hvalue
        · exact hredacted
      · exact ih hsuffix
  | @replace c d new out hsome hrest ih =>
      obtain ⟨k', e', -, hkey, -, rfl, -, hfound⟩ := credentials_found hsome
      have hbreaks := credentials_marker.breaks hrest (breaks_of_found hfound)
      have hinside {more : List Char} (hmore : ∀ a ∈ more, keyChar a = true)
          (hc' : c'.after = more ++ (redaction ++ out)) :
          ∃ rest, e.after = redaction ++ rest ∧ Breaks rest := by
        obtain ⟨b, rest, hrest, hb, -⟩ := hopens.head
        rw [hc', hrest] at htext
        obtain ⟨-, hvalue⟩ := span_unique hk hmore hb rfl htext.symm
        exact ⟨out, hrest.trans hvalue, hbreaks⟩
      rw [List.append_assoc] at hsuffix
      rcases suffix_append_cases hsuffix with ⟨more, hmore, hc'⟩ | hsuffix
      · exact hinside (fun a ha => hkey a (hmore.subset ha)) hc'
      · rcases suffix_append_cases hsuffix with ⟨more, hmore, hc'⟩ | hsuffix
        · rcases redaction_tails more ((List.mem_tails _ _).mpr hmore) with rfl | rfl | hstar
          · exact hinside (List.forall_mem_nil _) hc'
          · exact ih (hc' ▸ List.suffix_refl _)
          · exact (not_opens_of_star hk hopens (htext.symm.trans hc') hstar
              mem_takeWhile_keyChar).elim
        · exact ih hsuffix

/-! ## §5  Card numbers -/

variable {classes : CharClasses}

/-- The characters of card numbers. -/
def CharClasses.cardChar (classes : CharClasses) (c : Char) : Bool :=
  classes.digit c || (c == ' ' || c == '-')

theorem cardNumber_free : (cardNumber classes).Free classes.cardChar := by
  have hgroup : (Pattern.seq (.one classes.digit)
      (.opt (.one fun c => c == ' ' || c == '-'))).Free classes.cardChar :=
    (Pattern.free_one fun a ha => Bool.or_eq_true_iff.mpr (.inl ha)).seq
      (Pattern.free_one fun a ha => Bool.or_eq_true_iff.mpr (.inr ha)).opt
  exact (hgroup.times 13).seq (hgroup.upTo 3)

theorem digit_of_mem_cardNumber {d : Cursor Char} (h : d ∈ (cardNumber classes).ends c) :
    ∃ a after, c.after = a :: after ∧ classes.digit a = true := by
  obtain ⟨e, he, -⟩ := Pattern.mem_ends_seq.mp h
  obtain ⟨e', he', -⟩ := Pattern.mem_ends_seq.mp he
  obtain ⟨e'', he'', -⟩ := Pattern.mem_ends_seq.mp he'
  obtain ⟨a, ha, hreads⟩ := Pattern.mem_ends_one.mp he''
  exact ⟨a, e''.after, hreads.1, ha⟩

/-- A word character comes first. -/
def CharClasses.meetsWord (classes : CharClasses) (text : List Char) : Bool :=
  text.head?.any (isWord classes.isAlnum)

/-- A card number, and word boundaries on both sides of it. -/
theorem mem_card {d : Cursor Char} : d ∈ (cardPattern classes).ends c ↔
    d ∈ (cardNumber classes).ends c ∧ classes.meetsWord c.before ≠ classes.meetsWord c.after ∧
      classes.meetsWord d.before ≠ classes.meetsWord d.after := by
  show d ∈ (Pattern.seq (.boundary _) (.seq (cardNumber classes) (.boundary _))).ends c ↔ _
  constructor
  · intro h
    obtain ⟨c', hc', hrest⟩ := Pattern.mem_ends_seq.mp h
    obtain ⟨d', hd', hlast⟩ := Pattern.mem_ends_seq.mp hrest
    obtain ⟨rfl, hstart⟩ := Pattern.mem_ends_boundary.mp hc'
    obtain ⟨rfl, hend⟩ := Pattern.mem_ends_boundary.mp hlast
    exact ⟨hd', hstart, hend⟩
  · rintro ⟨hd, hstart, hend⟩
    exact Pattern.mem_ends_seq.mpr ⟨c, Pattern.mem_ends_boundary.mpr ⟨rfl, hstart⟩,
      Pattern.mem_ends_seq.mpr ⟨d, hd, Pattern.mem_ends_boundary.mpr ⟨rfl, hend⟩⟩⟩

theorem digit_isWord {a : Char} (h : classes.digit a = true) :
    isWord classes.isAlnum a = true := by
  unfold CharClasses.digit at h
  unfold isWord Char.isAlphanum
  rcases Bool.or_eq_true_iff.mp h with h | h
  · simp [h]
  · obtain ⟨hbig, hdecimal⟩ := Bool.and_eq_true_iff.mp h
    simp [hbig, classes.alnum_of_decimal a hdecimal]

theorem digit_visible {a : Char} (h : classes.digit a = true) : isVisible a = true := by
  unfold CharClasses.digit at h
  refine (Bool.not_eq_true' _).mpr ?_
  rcases Bool.or_eq_true_iff.mp h with h | h
  · have hascii := Char.isDigit_iff_toNat.mp h
    have hzero : ('0' : Char).toNat = 48 := rfl
    have hnine : ('9' : Char).toNat = 57 := rfl
    simp only [isPySpace, Bool.or_eq_false_iff, Bool.and_eq_false_iff, decide_eq_false_iff_not,
      beq_eq_false_iff_ne]
    omega
  · exact classes.space_of_decimal a (Bool.and_eq_true_iff.mp h).2

theorem cardNumber_consumes : (cardNumber classes).Consumes := by
  have hgroup : (Pattern.seq (.one classes.digit)
      (.opt (.one fun c => c == ' ' || c == '-'))).Consumes := (Pattern.consumes_one _).seq _
  exact (hgroup.seq _).seq _

/-- Without a digit there is no card number. -/
theorem card_eq_nil (h : c.after.head?.any classes.digit = false) :
    (cardPattern classes).ends c = [] := by
  refine List.eq_nil_iff_forall_not_mem.mpr fun d hd => ?_
  obtain ⟨a, after, hafter, ha⟩ := digit_of_mem_cardNumber (mem_card.mp hd).1
  rw [hafter] at h
  exact Bool.false_ne_true (h.symm.trans ha)

/-- What is put in for a card number begins with a star. -/
theorem cards_marks {p : Char → Bool} (hp : p '*' = false) : (cards classes).Marks p := by
  intro c d new h
  obtain ⟨-, rfl⟩ := Pattern.replacing_eq_some h
  exact ⟨'*', _, rfl, hp⟩

theorem cards_marker : Marker (cards classes) where
  advances := by
    refine Pattern.Consumes.replacing (fun c d h => ?_) cardMark
    exact cardNumber_consumes c d (mem_card.mp h).1
  marks := cards_marks rfl
  visible := by
    intro before a after hspace
    refine Pattern.replacing_eq_none.mpr (card_eq_nil ?_)
    refine Bool.eq_false_of_not_eq_true fun hdigit => ?_
    have hvisible : isVisible a = true := digit_visible hdigit
    unfold isVisible at hvisible
    rw [hspace] at hvisible
    cases hvisible

/-- A card number that is there after the substitution was there before it. -/
theorem card_before (h : Rewrites (cards classes) c out) {before : List Char}
    (hsame : c.after.head?.any classes.digit = true →
      classes.meetsWord before = classes.meetsWord c.before)
    {d : Cursor Char} (hd : d ∈ (cardPattern classes).ends ⟨before, out⟩) :
    (cardPattern classes).ends c ≠ [] := by
  obtain ⟨hnumber, hstart, hend⟩ := mem_card.mp hd
  obtain ⟨a, after, rfl, ha⟩ := digit_of_mem_cardNumber hnumber
  obtain ⟨text, hall, hreads, hagain⟩ := cardNumber_free _ d hnumber
  -- the number has a first character, which is the digit
  have hpos := cardNumber_consumes _ d hnumber
  cases text with
  | nil =>
      rw [Cursor.reads_nil.mp hreads] at hpos
      exact absurd hpos (Nat.lt_irrefl _)
  | cons b text =>
      obtain ⟨rfl, rfl⟩ := List.cons.inj hreads.1
      have hcopy : Rewrites (cards classes) c ((a :: text) ++ d.after) := h
      obtain ⟨e, he, hrest⟩ := hcopy.copied (cards_marks rfl) hall
      have hsame' := hsame (by rw [he.1]; exact ha)
      have hlast : classes.meetsWord e.before = classes.meetsWord d.before := by
        unfold CharClasses.meetsWord
        rw [he.2, hreads.2, List.reverse_cons, List.append_assoc, List.append_assoc]
        cases text.reverse <;> rfl
      have hend' : classes.meetsWord e.before ≠ classes.meetsWord e.after := by
        generalize hout : d.after = out at hrest hend
        cases hrest with
        | done => exact hlast ▸ hend
        | copy _ _ => exact hlast ▸ hend
        | replace hsome _ => exact (mem_card.mp (Pattern.replacing_eq_some hsome).1).2.1
      refine List.ne_nil_of_mem (a := e) (mem_card.mpr ⟨hagain c e he, ?_, hend'⟩)
      rw [← hsame', he.1]
      exact hstart

/-- After the substitution of card numbers, there is none. -/
theorem no_card (h : Rewrites (cards classes) c out) {before : List Char}
    (hsame : c.after.head?.any classes.digit = true →
      classes.meetsWord before = classes.meetsWord c.before) :
    ∀ d ∈ places before out, (cardPattern classes).ends d = [] := by
  induction h generalizing before with
  | done =>
      intro d hd
      obtain rfl := List.mem_singleton.mp hd
      exact card_eq_nil rfl
  | @copy before' after out a hnone hrest ih =>
      intro d hd
      rcases List.mem_cons.mp hd with rfl | hd
      · refine List.eq_nil_iff_forall_not_mem.mpr fun e he => ?_
        exact card_before (.copy hnone hrest) hsame he (Pattern.replacing_eq_none.mp hnone)
      · have hlast : classes.meetsWord (a :: before) = classes.meetsWord (a :: before') := rfl
        exact ih (fun _ => hlast) d hd
  | @replace c e new out hsome hrest ih =>
      obtain ⟨hmatch, rfl⟩ := Pattern.replacing_eq_some hsome
      intro d hd
      rcases place_append hd with ⟨a, after, hafter, ha⟩ | hd
      · have hmark : cardMark.all (fun a => !classes.digit a) = true := rfl
        apply card_eq_nil
        rw [hafter]
        exact (Bool.not_eq_true' _).mp (List.all_eq_true.mp hmark a ha)
      · refine ih (fun hdigit => ?_) d hd
        -- a digit after the number: it ended in a space or a dash
        have hword : classes.meetsWord e.after = true := by
          unfold CharClasses.meetsWord
          cases hhead : e.after.head? with
          | none =>
              rw [hhead] at hdigit
              cases hdigit
          | some a =>
              rw [hhead] at hdigit
              exact digit_isWord hdigit
        have hend := (mem_card.mp hmatch).2.2
        rw [hword] at hend
        exact (Bool.eq_false_of_not_eq_true hend).symm

/-- Redacted credentials stay so when card numbers are replaced. -/
theorem redacted_cards (h : Rewrites (cards classes) c out) (hredacted : Redacted c.after) :
    Redacted out := by
  intro c' e hsuffix he hopens
  obtain ⟨k, hk, hreads, hagain⟩ := keyword_free c' e he
  have hpos := keyword_consumes c' e he
  have htext := hreads.1
  induction h with
  | done before =>
      rw [List.suffix_nil.mp hsuffix] at hpos
      exact absurd hpos (Nat.not_lt_zero _)
  | @copy before after out a hnone hrest ih =>
      rcases List.suffix_cons_iff.mp hsuffix with hwhole | hsuffix
      · rw [hwhole] at htext
        have hcopy : Rewrites (cards classes) ⟨before, a :: after⟩ (k ++ e.after) :=
          htext ▸ .copy hnone hrest
        obtain ⟨d, hd, hrest⟩ := hcopy.copied (cards_marks rfl) hk
        obtain ⟨more, hmore, hbreaks⟩ := hredacted _ d (List.suffix_refl _) (hagain _ d hd)
          (cards_marker.opens hrest hopens)
        -- the redaction has no digit, and is kept
        have hplain : redaction.all (fun a => !classes.digit a) = true := rfl
        have hvalue : d.Reads redaction ⟨redaction.reverse ++ d.before, more⟩ := ⟨hmore, rfl⟩
        obtain ⟨rest, hout, hrest⟩ := hrest.kept hvalue fun a ha before after =>
          Pattern.replacing_eq_none.mpr
            (card_eq_nil ((Bool.not_eq_true' _).mp (List.all_eq_true.mp hplain a ha)))
        exact ⟨rest, hout, cards_marker.breaks hrest hbreaks⟩
      · exact ih (hredacted.suffix (List.suffix_cons a after)) hsuffix
  | @replace c d new out hsome hrest ih =>
      obtain ⟨text, -, hcd⟩ := cards_marker.advances c d new hsome
      obtain ⟨-, rfl⟩ := Pattern.replacing_eq_some hsome
      have ih' := ih (hredacted.suffix ⟨text, hcd.1.symm⟩)
      rcases suffix_append_cases hsuffix with ⟨more, hmore, hc'⟩ | hsuffix
      · rcases cardMark_tails more ((List.mem_tails _ _).mpr hmore) with rfl | hstar
        · exact ih' (hc' ▸ List.suffix_refl _)
        · exact (not_opens_of_star hk hopens (htext.symm.trans hc') hstar
            mem_takeWhile_keyChar).elim
      · exact ih' hsuffix

/-! ## §6  Scrubbed strings -/

theorem hasCredential_eq_false {text : String} (h : hasCredential text = false)
    (hc : c ∈ places [] text.toList) {d : Cursor Char} {new : List Char}
    (hfound : credentials c = some (d, new)) : c.Reads new d := by
  have hsame := List.any_eq_false.mp h c hc
  rw [hfound] at hsame
  have htext : c.after = new ++ d.after := by simpa using hsame
  obtain ⟨read, -, hreads⟩ := credentials_marker.advances c d new hfound
  obtain rfl : read = new := List.append_cancel_right (hreads.1.symm.trans htext)
  exact hreads

/-- Redacted credentials are found as what they would be replaced by. -/
theorem Redacted.hasCredential {text : String} (h : Redacted text.toList) :
    hasCredential text = false := by
  refine List.any_eq_false.mpr fun c hc => ?_
  obtain ⟨read, hread⟩ := mem_places.mp hc
  cases hfound : credentials c with
  | none => exact Bool.false_ne_true
  | some found =>
      obtain ⟨d, new⟩ := found
      obtain ⟨k, e, hk, -, -, rfl, he, hd⟩ := credentials_found hfound
      obtain ⟨rest, hrest, hbreaks⟩ := h c e ⟨read, hread.1.symm⟩ he
        (opens_of_mem_value (List.mem_of_head? hd))
      have hreads := hk.trans (redaction_found hrest hbreaks hd)
      simpa using hreads.1

/-- As many repetitions have as many digits. -/
theorem digits_of_mem_times {n : ℕ} {r : Pattern Char} {d : Cursor Char}
    (h : d ∈ (Pattern.times n (.seq (.one classes.digit) r)).ends c) :
    n ≤ c.after.countP classes.digit := by
  induction n generalizing c with
  | zero => exact Nat.zero_le _
  | succ n ih =>
      obtain ⟨e, he, hrest⟩ := Pattern.mem_ends_seq.mp h
      obtain ⟨e', he', hr⟩ := Pattern.mem_ends_seq.mp he
      obtain ⟨a, ha, hreads⟩ := Pattern.mem_ends_one.mp he'
      obtain ⟨text, htext⟩ := Pattern.reads_of_mem_ends hr
      have hmore := ih hrest
      rw [hreads.1, htext.1, List.countP_append, List.countP_append,
        List.countP_singleton, if_pos ha]
      omega

/-- A text without separators and with few digits has nothing to scrub. -/
theorem clean_of_plain {text : String} (hplain : ∀ a ∈ text.toList, isSeparator a = false)
    (hdigits : text.toList.countP classes.digit < 13) : Clean classes text where
  card := by
    refine Pattern.found_eq_false_iff.mpr fun c hc => ?_
    obtain ⟨read, hread⟩ := mem_places.mp hc
    refine List.eq_nil_iff_forall_not_mem.mpr fun d hd => ?_
    obtain ⟨e, he, -⟩ := Pattern.mem_ends_seq.mp (mem_card.mp hd).1
    have hcount := digits_of_mem_times he
    have hwhole : text.toList = read ++ c.after := hread.1
    rw [hwhole, List.countP_append] at hdigits
    omega
  credential := by
    refine Redacted.hasCredential fun c e hsuffix he hopens => ?_
    obtain ⟨before, sep, after, value, rest, htext, -, hsep, -⟩ := hopens
    obtain ⟨k, -, hreads, -⟩ := keyword_free c e he
    have hmem : sep ∈ text.toList := by
      apply hsuffix.subset
      rw [hreads.1, htext]
      simp
    rw [hplain sep hmem] at hsep
    cases hsep

/-- **A scrubbed string is clean.** -/
theorem clean_scrubString (classes : CharClasses) (value : String) :
    Clean classes (scrubString classes value) where
  card := by
    apply Pattern.found_eq_false_iff.mpr
    unfold scrubString
    rw [String.toList_ofList]
    exact no_card (rewrites_sub cards_marker.advances _) fun _ => rfl
  credential := by
    apply Redacted.hasCredential
    unfold scrubString
    rw [String.toList_ofList]
    exact redacted_cards (rewrites_sub cards_marker.advances _)
      (redacted_credentials (rewrites_sub credentials_marker.advances _))

/-- A clean string is scrubbed to itself. -/
theorem Clean.scrubString {text : String} (h : Clean classes text) :
    scrubString classes text = text := by
  have hcredentials : sub credentials text.toList = text.toList := by
    refine (rewrites_sub credentials_marker.advances _).eq_of_same
      fun d read e new hd hfound => ?_
    exact hasCredential_eq_false h.credential (mem_places.mpr ⟨read, hd⟩) hfound
  have hcards : sub (cards classes) text.toList = text.toList := by
    refine sub_eq_self cards_marker.advances fun c hc => ?_
    exact Pattern.replacing_eq_none.mpr (Pattern.found_eq_false_iff.mp h.card c hc)
  unfold AlertTriage.scrubString
  rw [hcredentials, hcards, String.ofList_toList]

theorem scrubString_scrubString (classes : CharClasses) (value : String) :
    scrubString classes (scrubString classes value) = scrubString classes value :=
  (clean_scrubString classes value).scrubString

example : scrubString asciiClasses "API-Key : a1 card 4111-1111 1111-1111 now" =
    "API-Key=***REDACTED*** card ***CC_REDACTED***now" := by decide +kernel

end AlertTriage
