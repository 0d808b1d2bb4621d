import Mathlib.Data.List.Infix
import Mathlib.Tactic.Common

/-!
# Glob patterns

The patterns of `SCAN … MATCH`: a star is any text, a question mark any
character, brackets a set of characters and ranges (after `^` their complement),
and a backslash takes the character behind it as it is. A pattern is read into
tokens first. Text without any of these characters stands for itself, so with a
star behind it the pattern is a prefix test (`globMatch_prefix`).
-/

namespace AlertTriage.Library.Glob

inductive Token where
  | star
  | any
  | set (negated : Bool) (ranges : List (Char × Char))
  | char (c : Char)
deriving DecidableEq, Repr

/-- Where the reader of a pattern is: between tokens, or inside brackets. -/
inductive Reading where
  | plain
  | set (negated : Bool) (ranges : List (Char × Char))
deriving DecidableEq, Repr

/-- Brackets that are not closed end with the pattern. -/
def parse : Reading → List Char → List Token
  | .plain, [] => []
  | .plain, '*' :: rest => .star :: parse .plain rest
  | .plain, '?' :: rest => .any :: parse .plain rest
  | .plain, '[' :: '^' :: rest => parse (.set true []) rest
  | .plain, '[' :: rest => parse (.set false []) rest
  | .plain, '\\' :: c :: rest => .char c :: parse .plain rest
  | .plain, c :: rest => .char c :: parse .plain rest
  | .set negated ranges, [] => [.set negated ranges]
  | .set negated ranges, '\\' :: c :: rest =>
      parse (.set negated (ranges ++ [(c, c)])) rest
  | .set negated ranges, ']' :: rest => .set negated ranges :: parse .plain rest
  | .set negated ranges, a :: '-' :: b :: rest =>
      parse (.set negated (ranges ++ [(a, b)])) rest
  | .set negated ranges, a :: rest => parse (.set negated (ranges ++ [(a, a)])) rest

/-- A range may be written from either end. -/
def inRange (c : Char) (r : Char × Char) : Bool :=
  decide (r.1 ≤ c ∧ c ≤ r.2) || decide (r.2 ≤ c ∧ c ≤ r.1)

/-- The token is one character, and this one. -/
def Token.admits (c : Char) : Token → Bool
  | .star => false
  | .any => true
  | .set negated ranges => ranges.any (inRange c) != negated
  | .char d => d == c

def matchTokens : List Token → List Char → Bool
  | [], cs => cs.isEmpty
  | .star :: ts, cs => cs.tails.any (matchTokens ts)
  | _ :: _, [] => false
  | t :: ts, c :: cs => t.admits c && matchTokens ts cs

def globMatch (pattern text : String) : Bool :=
  matchTokens (parse .plain pattern.toList) text.toList

/-! ## Text that stands for itself -/

/-- The character has no meaning of its own in a pattern. -/
def isLiteral (c : Char) : Bool := !(['*', '?', '[', '\\'].contains c)

theorem parse_cons {c : Char} (h : isLiteral c = true) (rest : List Char) :
    parse .plain (c :: rest) = .char c :: parse .plain rest := by
  have hc : c ≠ '*' ∧ c ≠ '?' ∧ c ≠ '[' ∧ c ≠ '\\' := by
    simpa [isLiteral] using h
  obtain ⟨hstar, hany, hset, hescape⟩ := hc
  rw [parse]
  · exact hstar
  · exact hany
  · rintro rest' rfl -
    exact hset rfl
  · exact hset
  · rintro d rest' rfl -
    exact hescape rfl

theorem parse_append {t : List Char} (h : ∀ c ∈ t, isLiteral c = true)
    (rest : List Char) :
    parse .plain (t ++ rest) = t.map .char ++ parse .plain rest := by
  induction t with
  | nil => rfl
  | cons c t ih =>
      rw [List.cons_append, parse_cons (h c List.mem_cons_self),
        ih fun d hd => h d (List.mem_cons_of_mem c hd)]
      rfl

theorem matchTokens_append (t : List Char) (ts : List Token) (cs : List Char) :
    matchTokens (t.map .char ++ ts) cs = true ↔
      ∃ rest, cs = t ++ rest ∧ matchTokens ts rest = true := by
  induction t generalizing cs with
  | nil => simp
  | cons c t ih =>
      cases cs with
      | nil => simp [matchTokens]
      | cons d cs =>
          simp only [List.map_cons, List.cons_append, matchTokens, Token.admits,
            Bool.and_eq_true, beq_iff_eq, ih, List.cons.injEq]
          constructor
          · rintro ⟨rfl, rest, rfl, hrest⟩
            exact ⟨rest, ⟨rfl, rfl⟩, hrest⟩
          · rintro ⟨rest, ⟨rfl, rfl⟩, hrest⟩
            exact ⟨rfl, rest, rfl, hrest⟩

theorem matchTokens_star (cs : List Char) : matchTokens [.star] cs = true := by
  rw [matchTokens, List.any_eq_true]
  exact ⟨[], (List.mem_tails _ _).mpr (List.nil_suffix), rfl⟩

/-- Whatever follows, the text in front is matched as it is. -/
theorem prefix_of_globMatch {t rest text : String}
    (h : ∀ c ∈ t.toList, isLiteral c = true)
    (hmatch : globMatch (t ++ rest) text = true) : t.toList <+: text.toList := by
  rw [globMatch, String.toList_append, parse_append h, matchTokens_append] at hmatch
  obtain ⟨cs, hcs, -⟩ := hmatch
  exact ⟨cs, hcs.symm⟩

/-- **A literal text and a star** is a prefix test. -/
theorem globMatch_prefix {t text : String} (h : ∀ c ∈ t.toList, isLiteral c = true) :
    globMatch (t ++ "*") text = true ↔ t.toList <+: text.toList := by
  constructor
  · exact prefix_of_globMatch h
  · rintro ⟨cs, hcs⟩
    rw [globMatch, String.toList_append, parse_append h, matchTokens_append]
    exact ⟨cs, hcs.symm, matchTokens_star cs⟩

example : globMatch "refresh:h[a-c^]\\*?" "refresh:hb*!" = true := by decide

end AlertTriage.Library.Glob
