import Mathlib.Data.List.Forall2
import Mathlib.Logic.Relation

/-!
# Backtracking patterns

Patterns as backtracking engines run them: `ends` lists where the matches that begin at a place
can end, in the order in which they are tried, so that its head is the match that is found. A
place keeps the text before it, backwards, for the sake of word boundaries.

What a pattern matches is read off its parts (`mem_ends_seq`, `mem_ends_star` and so on). The order
matters where the longest of a greedy repetition is wanted (`ends_run`). A substitution goes from
left to right and replaces the match that is found at each place, as `Rewrites` says. Where what is
put in cannot be taken for text, the text around it is what it was (`Rewrites.copied`).
-/

namespace AlertTriage.Library

/-! ## §1  Places -/

/-- A place in a text: what is before it, backwards, and what is after it. -/
structure Cursor (α : Type) where
  before : List α
  after : List α
deriving DecidableEq, Repr

/-- The text between two places. -/
def Cursor.Reads {α : Type} (c : Cursor α) (text : List α) (d : Cursor α) : Prop :=
  c.after = text ++ d.after ∧ d.before = text.reverse ++ c.before

variable {α : Type}

theorem Cursor.Reads.refl (c : Cursor α) : c.Reads [] c := ⟨rfl, rfl⟩

theorem Cursor.Reads.trans {c d e : Cursor α} {xs ys : List α} (h : c.Reads xs d)
    (h' : d.Reads ys e) : c.Reads (xs ++ ys) e := by
  constructor
  · rw [h.1, h'.1, List.append_assoc]
  · rw [h'.2, h.2, List.reverse_append, List.append_assoc]

theorem Cursor.Reads.length {c d : Cursor α} {text : List α} (h : c.Reads text d) :
    c.after.length = text.length + d.after.length := by
  rw [h.1, List.length_append]

theorem Cursor.reads_nil {c d : Cursor α} : c.Reads [] d ↔ d = c := by
  constructor
  · rintro ⟨hafter, hbefore⟩
    cases c
    cases d
    simp_all
  · rintro rfl
    exact .refl _

theorem Cursor.Reads.split {c d : Cursor α} (xs : List α) {ys : List α} (h : c.Reads (xs ++ ys) d) :
    ∃ e, c.Reads xs e ∧ e.Reads ys d := by
  refine ⟨⟨xs.reverse ++ c.before, ys ++ d.after⟩, ⟨?_, rfl⟩, rfl, ?_⟩
  · rw [h.1, List.append_assoc]
  · rw [h.2, List.reverse_append, List.append_assoc]

/-- Two readings up to the first character without the property are one. -/
theorem span_unique {p : α → Bool} {xs ys xs' ys' : List α} {x y : α}
    (hxs : ∀ a ∈ xs, p a = true) (hys : ∀ a ∈ ys, p a = true) (hx : p x = false)
    (hy : p y = false) (h : xs ++ x :: xs' = ys ++ y :: ys') :
    xs = ys ∧ x :: xs' = y :: ys' := by
  have hspan {zs zs' : List α} {z : α} (hzs : ∀ a ∈ zs, p a = true) (hz : p z = false) :
      (zs ++ z :: zs').dropWhile p = z :: zs' := by
    rw [List.dropWhile_append_of_pos hzs, List.dropWhile_cons_of_neg (by simp [hz])]
  have hrest : x :: xs' = y :: ys' := by
    rw [← hspan hxs hx, h, hspan hys hy]
  rw [hrest] at h
  exact ⟨List.append_cancel_right h, hrest⟩

theorem suffix_append_cases {xs ys zs : List α} (h : zs <:+ xs ++ ys) :
    (∃ more, more <:+ xs ∧ zs = more ++ ys) ∨ zs <:+ ys := by
  induction xs with
  | nil => exact .inr h
  | cons x xs ih =>
      rcases List.suffix_cons_iff.mp h with rfl | h
      · exact .inl ⟨x :: xs, List.suffix_refl _, rfl⟩
      · rcases ih h with ⟨more, hmore, rfl⟩ | h
        · exact .inl ⟨more, hmore.trans (List.suffix_cons x xs), rfl⟩
        · exact .inr h

/-- The places of a text, from a given one on. -/
def places : List α → List α → List (Cursor α)
  | before, [] => [⟨before, []⟩]
  | before, a :: after => ⟨before, a :: after⟩ :: places (a :: before) after

theorem mem_places {before after : List α} {c : Cursor α} :
    c ∈ places before after ↔ ∃ text, Cursor.Reads ⟨before, after⟩ text c := by
  induction after generalizing before with
  | nil =>
      rw [places, List.mem_singleton]
      constructor
      · rintro rfl
        exact ⟨[], .refl _⟩
      · rintro ⟨text, hafter, hbefore⟩
        obtain ⟨rfl, hnil⟩ := List.append_eq_nil_iff.mp hafter.symm
        cases c
        simp_all
  | cons a after ih =>
      rw [places, List.mem_cons, ih]
      constructor
      · rintro (rfl | ⟨text, hafter, hbefore⟩)
        · exact ⟨[], .refl _⟩
        · refine ⟨a :: text, congrArg (a :: ·) hafter, ?_⟩
          rw [hbefore, List.reverse_cons, List.append_assoc]
          rfl
      · rintro ⟨text, hafter, hbefore⟩
        cases text with
        | nil =>
            left
            cases c
            simp_all
        | cons b text =>
            obtain ⟨rfl, hrest⟩ := List.cons.inj hafter
            refine .inr ⟨text, hrest, ?_⟩
            rw [hbefore, List.reverse_cons, List.append_assoc]
            rfl

/-- A place is before a character of the first text, or a place of the second. -/
theorem place_append {before xs ys : List α} {c : Cursor α} (h : c ∈ places before (xs ++ ys)) :
    (∃ a after, c.after = a :: after ∧ a ∈ xs) ∨ c ∈ places (xs.reverse ++ before) ys := by
  induction xs generalizing before with
  | nil => exact .inr h
  | cons a xs ih =>
      rcases List.mem_cons.mp h with rfl | h
      · exact .inl ⟨a, xs ++ ys, rfl, List.mem_cons_self⟩
      · rcases ih h with ⟨b, after, hafter, hb⟩ | h
        · exact .inl ⟨b, after, hafter, List.mem_cons_of_mem a hb⟩
        · rw [List.reverse_cons, List.append_assoc]
          exact .inr h

/-! ## §2  Patterns -/

inductive Pattern (α : Type) where
  | empty
  | one (p : α → Bool)
  | boundary (isWord : α → Bool)
  | seq (r s : Pattern α)
  | alt (r s : Pattern α)
  | star (greedy : Bool) (r : Pattern α)

namespace Pattern

/-- Again and again as long as it goes on, the longest first if greedy. -/
def repeats (greedy : Bool) (step : Cursor α → List (Cursor α)) :
    ℕ → Cursor α → List (Cursor α)
  | 0, c => [c]
  | n + 1, c =>
      let more := ((step c).filter fun d => decide (d.after.length < c.after.length)).flatMap
        (repeats greedy step n)
      if greedy then more ++ [c] else c :: more

/-- Where the matches that begin here end, in the order in which they are tried. -/
def ends : Pattern α → Cursor α → List (Cursor α)
  | .empty, c => [c]
  | .one p, c =>
      match c.after with
      | a :: after => if p a then [⟨a :: c.before, after⟩] else []
      | [] => []
  | .boundary isWord, c => if c.before.head?.any isWord != c.after.head?.any isWord then [c] else []
  | .seq r s, c => (r.ends c).flatMap s.ends
  | .alt r s, c => r.ends c ++ s.ends c
  | .star greedy r, c => repeats greedy r.ends c.after.length c

/-- `r?`. -/
def opt (r : Pattern α) : Pattern α := .alt r .empty

/-- `r{n}`. -/
def times : ℕ → Pattern α → Pattern α
  | 0, _ => .empty
  | n + 1, r => .seq r (times n r)

/-- `r{0,n}`. -/
def upTo : ℕ → Pattern α → Pattern α
  | 0, _ => .empty
  | n + 1, r => opt (.seq r (upTo n r))

/-- One character after the other. -/
def word : List (α → Bool) → Pattern α
  | [] => .empty
  | p :: ps => .seq (.one p) (word ps)

/-- One of several. -/
def oneOf : List (Pattern α) → Pattern α
  | [] => .one fun _ => false
  | [r] => r
  | r :: rs => .alt r (oneOf rs)

/-- `search`: a match begins somewhere in the text. -/
def found (r : Pattern α) (text : List α) : Bool :=
  (places [] text).any fun c => !(r.ends c).isEmpty

/-! ## §3  What a pattern matches -/

theorem mem_ends_empty {c d : Cursor α} : d ∈ empty.ends c ↔ d = c := List.mem_singleton

theorem mem_ends_one {p : α → Bool} {c d : Cursor α} :
    d ∈ (one p).ends c ↔ ∃ a, p a = true ∧ c.Reads [a] d := by
  obtain ⟨before, after⟩ := c
  cases after with
  | nil =>
      apply iff_of_false List.not_mem_nil
      rintro ⟨a, -, hafter, -⟩
      cases hafter
  | cons a after =>
      show d ∈ (if p a = true then _ else _) ↔ _
      constructor
      · intro h
        by_cases hp : p a = true
        · rw [if_pos hp, List.mem_singleton] at h
          exact ⟨a, hp, by rw [h]; exact ⟨rfl, rfl⟩⟩
        · rw [if_neg hp] at h
          exact absurd h List.not_mem_nil
      · rintro ⟨b, hp, hafter, hbefore⟩
        obtain ⟨rfl, hrest⟩ := List.cons.inj hafter
        rw [if_pos hp, List.mem_singleton]
        cases d
        simp_all

theorem mem_ends_boundary {isWord : α → Bool} {c d : Cursor α} :
    d ∈ (boundary isWord).ends c ↔
      d = c ∧ c.before.head?.any isWord ≠ c.after.head?.any isWord := by
  show d ∈ (if _ then _ else _) ↔ _
  split
  · rename_i h
    rw [List.mem_singleton]
    exact ⟨fun hd => ⟨hd, by simpa using h⟩, And.left⟩
  · rename_i h
    exact iff_of_false List.not_mem_nil fun hd => h (by simpa using hd.2)

theorem mem_ends_seq {r s : Pattern α} {c d : Cursor α} :
    d ∈ (seq r s).ends c ↔ ∃ e ∈ r.ends c, d ∈ s.ends e := List.mem_flatMap

theorem mem_ends_alt {r s : Pattern α} {c d : Cursor α} :
    d ∈ (alt r s).ends c ↔ d ∈ r.ends c ∨ d ∈ s.ends c := List.mem_append

/-- A match, and then not the same place. -/
def Goes (r : Pattern α) (c d : Cursor α) : Prop :=
  d ∈ r.ends c ∧ d.after.length < c.after.length

theorem mem_repeats {greedy : Bool} {r : Pattern α} {n : ℕ} {c d : Cursor α}
    (hn : c.after.length ≤ n) :
    d ∈ repeats greedy r.ends n c ↔ Relation.ReflTransGen r.Goes c d := by
  have hmore (n : ℕ) (c : Cursor α) : d ∈ repeats greedy r.ends (n + 1) c ↔
      d = c ∨ ∃ e, r.Goes c e ∧ d ∈ repeats greedy r.ends n e := by
    have hflat : d ∈ ((r.ends c).filter fun d => decide (d.after.length < c.after.length)).flatMap
        (repeats greedy r.ends n) ↔ ∃ e, r.Goes c e ∧ d ∈ repeats greedy r.ends n e := by
      rw [List.mem_flatMap]
      refine exists_congr fun e => and_congr_left fun _ => ?_
      rw [List.mem_filter, decide_eq_true_eq]
      exact Iff.rfl
    rw [repeats]
    cases greedy with
    | true =>
        show d ∈ _ ++ [c] ↔ _
        rw [List.mem_append, hflat, List.mem_singleton, or_comm]
    | false =>
        show d ∈ c :: _ ↔ _
        rw [List.mem_cons, hflat]
  induction n generalizing c with
  | zero =>
      rw [repeats, List.mem_singleton, Relation.ReflTransGen.cases_head_iff]
      constructor
      · exact fun h => .inl h.symm
      · rintro (h | ⟨e, he, -⟩)
        · exact h.symm
        · exact absurd he.2 (by omega)
  | succ n ih =>
      rw [hmore, Relation.ReflTransGen.cases_head_iff, eq_comm]
      refine or_congr_right (exists_congr fun e => and_congr_right fun he => ih ?_)
      have := he.2
      omega

theorem mem_ends_star {greedy : Bool} {r : Pattern α} {c d : Cursor α} :
    d ∈ (star greedy r).ends c ↔ Relation.ReflTransGen r.Goes c d := mem_repeats (Nat.le_refl _)

/-- A match is of some text. -/
theorem reads_of_mem_ends {r : Pattern α} {c d : Cursor α} (h : d ∈ r.ends c) :
    ∃ text, c.Reads text d := by
  induction r generalizing c d with
  | empty =>
      obtain rfl := mem_ends_empty.mp h
      exact ⟨[], .refl _⟩
  | one p =>
      obtain ⟨a, -, hreads⟩ := mem_ends_one.mp h
      exact ⟨[a], hreads⟩
  | boundary isWord =>
      obtain ⟨rfl, -⟩ := mem_ends_boundary.mp h
      exact ⟨[], .refl _⟩
  | seq r s ihr ihs =>
      obtain ⟨e, hr, hs⟩ := mem_ends_seq.mp h
      obtain ⟨xs, hxs⟩ := ihr hr
      obtain ⟨ys, hys⟩ := ihs hs
      exact ⟨xs ++ ys, hxs.trans hys⟩
  | alt r s ihr ihs => exact (mem_ends_alt.mp h).elim ihr ihs
  | star greedy r ih =>
      induction mem_ends_star.mp h with
      | refl => exact ⟨[], .refl _⟩
      | tail hmore hgoes ihmore =>
          obtain ⟨xs, hxs⟩ := ihmore (mem_ends_star.mpr hmore)
          obtain ⟨ys, hys⟩ := ih hgoes.1
          exact ⟨xs ++ ys, hxs.trans hys⟩

/-- A match of the pattern takes at least a character. -/
def Consumes (r : Pattern α) : Prop :=
  ∀ c d, d ∈ r.ends c → d.after.length < c.after.length

theorem consumes_one (p : α → Bool) : (one p).Consumes := by
  intro c d h
  obtain ⟨a, -, hreads⟩ := mem_ends_one.mp h
  have := hreads.length
  simp only [List.length_singleton] at this
  omega

theorem Consumes.seq {r : Pattern α} (h : r.Consumes) (s : Pattern α) :
    (seq r s).Consumes := by
  intro c d hd
  obtain ⟨e, hr, hs⟩ := mem_ends_seq.mp hd
  obtain ⟨text, htext⟩ := reads_of_mem_ends hs
  have := htext.length
  have := h c e hr
  omega

theorem mem_ends_run {greedy : Bool} {p : α → Bool} {c d : Cursor α} :
    d ∈ (star greedy (one p)).ends c ↔
      ∃ text, (∀ a ∈ text, p a = true) ∧ c.Reads text d := by
  rw [mem_ends_star]
  constructor
  · intro h
    induction h with
    | refl => exact ⟨[], by simp, .refl _⟩
    | tail _ hgoes ih =>
        obtain ⟨xs, hall, hxs⟩ := ih
        obtain ⟨a, ha, hreads⟩ := mem_ends_one.mp hgoes.1
        refine ⟨xs ++ [a], ?_, hxs.trans hreads⟩
        rw [List.forall_mem_append, List.forall_mem_singleton]
        exact ⟨hall, ha⟩
  · rintro ⟨text, hall, hreads⟩
    induction text generalizing c with
    | nil =>
        obtain rfl : c = d := by
          cases c
          cases d
          simp_all [Cursor.Reads]
        exact .refl
    | cons a text ih =>
        obtain ⟨ha, hall⟩ := List.forall_mem_cons.mp hall
        have hstep : c.Reads [a] ⟨a :: c.before, text ++ d.after⟩ := ⟨hreads.1, rfl⟩
        have hrest : Cursor.Reads ⟨a :: c.before, text ++ d.after⟩ text d :=
          ⟨rfl, by rw [hreads.2, List.reverse_cons, List.append_assoc]; rfl⟩
        refine .head ⟨mem_ends_one.mpr ⟨a, ha, hstep⟩, ?_⟩ (ih hall hrest)
        rw [hreads.1]
        exact Nat.lt_succ_self _

theorem mem_ends_oneOf {rs : List (Pattern α)} {c d : Cursor α} :
    d ∈ (oneOf rs).ends c ↔ ∃ r ∈ rs, d ∈ r.ends c := by
  induction rs with
  | nil =>
      rw [oneOf, mem_ends_one]
      simp
  | cons r rs ih =>
      cases rs with
      | nil => simp [oneOf]
      | cons s rs =>
          show d ∈ (alt r (oneOf (s :: rs))).ends c ↔ _
          rw [mem_ends_alt, ih]
          simp

theorem consumes_oneOf {rs : List (Pattern α)} (h : ∀ r ∈ rs, r.Consumes) :
    (oneOf rs).Consumes := by
  intro c d hd
  obtain ⟨r, hr, hd⟩ := mem_ends_oneOf.mp hd
  exact h r hr c d hd

/-- The pattern takes characters with the property only, and takes the same text wherever it stands:
it does not look around. -/
def Free (p : α → Bool) (r : Pattern α) : Prop :=
  ∀ c d, d ∈ r.ends c → ∃ text, (∀ a ∈ text, p a = true) ∧ c.Reads text d ∧
    ∀ c' d' : Cursor α, c'.Reads text d' → d' ∈ r.ends c'

theorem free_empty (p : α → Bool) : (empty : Pattern α).Free p := by
  intro c d h
  obtain rfl := mem_ends_empty.mp h
  refine ⟨[], by simp, .refl _, fun c' d' h' => ?_⟩
  exact mem_ends_empty.mpr (Cursor.reads_nil.mp h')

theorem free_one {p q : α → Bool} (h : ∀ a, q a = true → p a = true) : (one q).Free p := by
  intro c d hd
  obtain ⟨a, ha, hreads⟩ := mem_ends_one.mp hd
  refine ⟨[a], by simpa using h a ha, hreads, fun c' d' h' => ?_⟩
  exact mem_ends_one.mpr ⟨a, ha, h'⟩

theorem Free.seq {p : α → Bool} {r s : Pattern α} (hr : r.Free p) (hs : s.Free p) :
    (Pattern.seq r s).Free p := by
  intro c d hd
  obtain ⟨e, he, hd⟩ := mem_ends_seq.mp hd
  obtain ⟨xs, hxs, hce, hxs'⟩ := hr c e he
  obtain ⟨ys, hys, hed, hys'⟩ := hs e d hd
  refine ⟨xs ++ ys, List.forall_mem_append.mpr ⟨hxs, hys⟩, hce.trans hed, fun c' d' h' => ?_⟩
  obtain ⟨e', hc, hd⟩ := h'.split
  exact mem_ends_seq.mpr ⟨e', hxs' c' e' hc, hys' e' d' hd⟩

theorem Free.alt {p : α → Bool} {r s : Pattern α} (hr : r.Free p) (hs : s.Free p) :
    (Pattern.alt r s).Free p := by
  intro c d hd
  rcases mem_ends_alt.mp hd with hd | hd
  · obtain ⟨text, hall, hreads, hagain⟩ := hr c d hd
    exact ⟨text, hall, hreads, fun c' d' h' => mem_ends_alt.mpr (.inl (hagain c' d' h'))⟩
  · obtain ⟨text, hall, hreads, hagain⟩ := hs c d hd
    exact ⟨text, hall, hreads, fun c' d' h' => mem_ends_alt.mpr (.inr (hagain c' d' h'))⟩

theorem Free.opt {p : α → Bool} {r : Pattern α} (hr : r.Free p) : r.opt.Free p :=
  hr.alt (free_empty p)

theorem Free.times {p : α → Bool} {r : Pattern α} (hr : r.Free p) : ∀ n, (times n r).Free p
  | 0 => free_empty p
  | n + 1 => hr.seq (hr.times n)

theorem Free.upTo {p : α → Bool} {r : Pattern α} (hr : r.Free p) : ∀ n, (upTo n r).Free p
  | 0 => free_empty p
  | n + 1 => (hr.seq (hr.upTo n)).opt

theorem free_word {p : α → Bool} {qs : List (α → Bool)}
    (h : ∀ q ∈ qs, ∀ a, q a = true → p a = true) : (word qs).Free p := by
  induction qs with
  | nil => exact free_empty p
  | cons q qs ih =>
      obtain ⟨hq, hqs⟩ := List.forall_mem_cons.mp h
      exact (free_one hq).seq (ih hqs)

theorem free_oneOf {p : α → Bool} {rs : List (Pattern α)} (h : ∀ r ∈ rs, r.Free p) :
    (oneOf rs).Free p := by
  induction rs with
  | nil => exact free_one fun _ hnone => absurd hnone Bool.false_ne_true
  | cons r rs ih =>
      obtain ⟨hr, hrs⟩ := List.forall_mem_cons.mp h
      cases rs with
      | nil => exact hr
      | cons s rs => exact hr.alt (ih hrs)

/-! ## §4  The match that is found -/

/-- Up to the first character without the property. -/
def run (p : α → Bool) (c : Cursor α) : Cursor α :=
  ⟨(c.after.takeWhile p).reverse ++ c.before, c.after.dropWhile p⟩

/-- The longest run comes first, and all others stop before a character of the run. -/
theorem ends_run (p : α → Bool) (c : Cursor α) :
    ∃ shorter, (star true (one p)).ends c = run p c :: shorter ∧
      ∀ d ∈ shorter, d.after.head?.any p = true := by
  obtain ⟨before, after⟩ := c
  show ∃ shorter, repeats true (one p).ends after.length ⟨before, after⟩ = _ ∧ _
  induction after generalizing before with
  | nil => exact ⟨[], rfl, fun d hd => absurd hd List.not_mem_nil⟩
  | cons a after ih =>
      by_cases ha : p a = true
      · obtain ⟨shorter, hends, hshorter⟩ := ih (a :: before)
        have hstep : (one p).ends ⟨before, a :: after⟩ = [⟨a :: before, after⟩] := if_pos ha
        refine ⟨shorter ++ [⟨before, a :: after⟩], ?_, ?_⟩
        · rw [List.length_cons, repeats, hstep, List.filter_cons_of_pos (by simp),
            List.filter_nil, List.flatMap_singleton, hends]
          show run p ⟨a :: before, after⟩ :: (shorter ++ _) = _
          congr 1
          unfold run
          rw [List.takeWhile_cons_of_pos ha, List.dropWhile_cons_of_pos ha, List.reverse_cons,
            List.append_assoc]
          rfl
        · intro d hd
          rcases List.mem_append.mp hd with hd | hd
          · exact hshorter d hd
          · obtain rfl := List.mem_singleton.mp hd
            exact ha
      · have hstep : (one p).ends ⟨before, a :: after⟩ = [] := if_neg ha
        refine ⟨[], ?_, fun d hd => absurd hd List.not_mem_nil⟩
        rw [List.length_cons, repeats, hstep]
        show [_] = [_]
        unfold run
        rw [List.takeWhile_cons_of_neg ha, List.dropWhile_cons_of_neg ha]
        rfl

/-- A run, and then what cannot begin with a character of it: only the longest run counts. -/
theorem ends_run_seq {p : α → Bool} {s : Pattern α} {c : Cursor α}
    (h : ∀ d : Cursor α, d.after.head?.any p = true → s.ends d = []) :
    (seq (star true (one p)) s).ends c = s.ends (run p c) := by
  obtain ⟨shorter, hends, hshorter⟩ := ends_run p c
  show ((star true (one p)).ends c).flatMap s.ends = _
  rw [hends, List.flatMap_cons, List.flatMap_eq_nil_iff.mpr fun d hd => h d (hshorter d hd),
    List.append_nil]

theorem ends_one_seq {p : α → Bool} {s : Pattern α} {before after : List α} {a : α}
    (ha : p a = true) : (seq (one p) s).ends ⟨before, a :: after⟩ = s.ends ⟨a :: before, after⟩ := by
  have hone : (one p).ends ⟨before, a :: after⟩ = [⟨a :: before, after⟩] := if_pos ha
  show ((one p).ends _).flatMap s.ends = _
  rw [hone, List.flatMap_singleton]

theorem ends_one_seq_eq_nil {p : α → Bool} {s : Pattern α} {c : Cursor α}
    (h : c.after.head?.any p = false) : (seq (one p) s).ends c = [] := by
  refine List.eq_nil_iff_forall_not_mem.mpr fun d hd => ?_
  obtain ⟨e, he, -⟩ := mem_ends_seq.mp hd
  obtain ⟨a, ha, hreads⟩ := mem_ends_one.mp he
  rw [hreads.1] at h
  exact Bool.false_ne_true (h.symm.trans ha)

theorem found_eq_false_iff {r : Pattern α} {text : List α} :
    r.found text = false ↔ ∀ c ∈ places [] text, r.ends c = [] := by
  rw [found, List.any_eq_false]
  simp

end Pattern

/-! ## §5  Substitution -/

/-- The end of the match that is found at a place, and what it is replaced by. -/
abbrev Matcher (α : Type) := Cursor α → Option (Cursor α × List α)

/-- Each match takes some text. -/
def Matcher.Advances (m : Matcher α) : Prop :=
  ∀ c d new, m c = some (d, new) → ∃ text, text ≠ [] ∧ c.Reads text d

/-- Replace what is found, from left to right, in so many characters. A match of nothing is passed
over. -/
def subFrom (m : Matcher α) : ℕ → Cursor α → List α
  | 0, c => c.after
  | n + 1, c =>
      match c.after with
      | [] => []
      | a :: after =>
          match m c with
          | some (d, new) =>
              if d.after.length ≤ after.length then new ++ subFrom m n d
              else a :: subFrom m n ⟨a :: c.before, after⟩
          | none => a :: subFrom m n ⟨a :: c.before, after⟩

/-- `sub`. -/
def sub (m : Matcher α) (text : List α) : List α := subFrom m text.length ⟨[], text⟩

/-- What becomes of the text after a place. -/
inductive Rewrites (m : Matcher α) : Cursor α → List α → Prop where
  | done (before : List α) : Rewrites m ⟨before, []⟩ []
  | copy {before after out : List α} {a : α} : m ⟨before, a :: after⟩ = none →
      Rewrites m ⟨a :: before, after⟩ out → Rewrites m ⟨before, a :: after⟩ (a :: out)
  | replace {c d : Cursor α} {new out : List α} : m c = some (d, new) → Rewrites m d out →
      Rewrites m c (new ++ out)

theorem rewrites_subFrom {m : Matcher α} (hm : m.Advances) {n : ℕ} {c : Cursor α}
    (hn : c.after.length ≤ n) : Rewrites m c (subFrom m n c) := by
  induction n generalizing c with
  | zero =>
      obtain ⟨before, after⟩ := c
      obtain rfl := List.length_eq_zero_iff.mp (Nat.le_zero.mp hn)
      exact .done before
  | succ n ih =>
      obtain ⟨before, after⟩ := c
      rw [subFrom]
      cases after with
      | nil => exact .done before
      | cons a after =>
          cases hfound : m ⟨before, a :: after⟩ with
          | none => exact .copy hfound (ih (Nat.le_of_succ_le_succ hn))
          | some found =>
              obtain ⟨d, new⟩ := found
              obtain ⟨text, hne, hreads⟩ := hm _ _ _ hfound
              have hlength := hreads.length
              have hpos := List.length_pos_of_ne_nil hne
              have hle : d.after.length ≤ after.length := by
                simp only [List.length_cons] at hlength
                omega
              show Rewrites m _ (if d.after.length ≤ after.length then _ else _)
              rw [if_pos hle]
              refine .replace hfound (ih ?_)
              simp only [List.length_cons] at hn
              omega

theorem rewrites_sub {m : Matcher α} (hm : m.Advances) (text : List α) :
    Rewrites m ⟨[], text⟩ (sub m text) := rewrites_subFrom hm (Nat.le_refl _)

/-- Where each match is replaced by itself, nothing changes. -/
theorem Rewrites.eq_of_same {m : Matcher α} {c : Cursor α} {out : List α}
    (h : Rewrites m c out)
    (hsame : ∀ d text e new, c.Reads text d → m d = some (e, new) → d.Reads new e) :
    out = c.after := by
  have hmove {c e : Cursor α} {text : List α} (hce : c.Reads text e)
      (hsame : ∀ d text e new, c.Reads text d → m d = some (e, new) → d.Reads new e) :
      ∀ d text e' new, e.Reads text d → m d = some (e', new) → d.Reads new e' :=
    fun d more e' new hd => hsame d (text ++ more) e' new (hce.trans hd)
  induction h with
  | done before => rfl
  | @copy before after out a _ _ ih =>
      have hstep : Cursor.Reads ⟨before, a :: after⟩ [a] ⟨a :: before, after⟩ := ⟨rfl, rfl⟩
      exact congrArg (a :: ·) (ih (hmove hstep hsame))
  | @replace c d new out hfound _ ih =>
      have hreads := hsame c [] d new (.refl c) hfound
      rw [ih (hmove hreads hsame), hreads.1]

/-- What is never found is never replaced. -/
theorem sub_eq_self {m : Matcher α} (hm : m.Advances) {text : List α}
    (h : ∀ c ∈ places [] text, m c = none) : sub m text = text := by
  refine (rewrites_sub hm text).eq_of_same fun d read e new hd hfound => ?_
  rw [h d (mem_places.mpr ⟨read, hd⟩)] at hfound
  cases hfound

/-- The match that is found is replaced by a text. -/
def Pattern.replacing (r : Pattern α) (new : List α) : Matcher α := fun c =>
  (r.ends c).head?.map fun d => (d, new)

theorem Pattern.replacing_eq_some {r : Pattern α} {new out : List α} {c d : Cursor α}
    (h : r.replacing new c = some (d, out)) : d ∈ r.ends c ∧ out = new := by
  obtain ⟨e, he, heq⟩ := Option.map_eq_some_iff.mp h
  obtain ⟨rfl, rfl⟩ := Prod.mk.inj heq
  exact ⟨List.mem_of_head? he, rfl⟩

theorem Pattern.replacing_eq_none {r : Pattern α} {new : List α} {c : Cursor α} :
    r.replacing new c = none ↔ r.ends c = [] := by
  unfold Pattern.replacing
  rw [Option.map_eq_none_iff, List.head?_eq_none_iff]

/-- The match of one pattern and then another that is found is replaced by the text of the first
and a new text. -/
def Pattern.replacingAfter (r s : Pattern α) (new : List α) : Matcher α := fun c =>
  ((r.ends c).flatMap fun e => (s.ends e).map fun d =>
    (d, c.after.take (c.after.length - e.after.length) ++ new)).head?

theorem Pattern.replacingAfter_eq_some {r s : Pattern α} {new out : List α} {c d : Cursor α}
    (h : r.replacingAfter s new c = some (d, out)) :
    ∃ e ∈ r.ends c, (s.ends e).head? = some d ∧ ∃ text, c.Reads text e ∧ out = text ++ new := by
  unfold Pattern.replacingAfter at h
  rw [List.head?_flatMap, List.findSome?_eq_some_iff] at h
  obtain ⟨_, e, _, hends, hhead, -⟩ := h
  have he : e ∈ r.ends c := hends ▸ List.mem_append_right _ List.mem_cons_self
  rw [List.head?_map, Option.map_eq_some_iff] at hhead
  obtain ⟨d', hd', heq⟩ := hhead
  obtain ⟨rfl, rfl⟩ := Prod.mk.inj heq
  obtain ⟨text, htext⟩ := reads_of_mem_ends he
  refine ⟨e, he, hd', text, htext, congrArg (· ++ new) ?_⟩
  rw [htext.length, Nat.add_sub_cancel, htext.1, List.take_left]

theorem Pattern.replacingAfter_eq_none {r s : Pattern α} {new : List α} {c : Cursor α} :
    r.replacingAfter s new c = none ↔ ∀ e ∈ r.ends c, s.ends e = [] := by
  unfold Pattern.replacingAfter
  rw [List.head?_eq_none_iff, List.flatMap_eq_nil_iff]
  simp only [List.map_eq_nil_iff]

theorem Pattern.Consumes.replacingAfter {r : Pattern α} (hr : r.Consumes) (s : Pattern α)
    (new : List α) : (r.replacingAfter s new).Advances := by
  intro c d out h
  obtain ⟨e, he, hhead, -⟩ := Pattern.replacingAfter_eq_some h
  have hd : d ∈ (Pattern.seq r s).ends c :=
    Pattern.mem_ends_seq.mpr ⟨e, he, List.mem_of_head? hhead⟩
  obtain ⟨text, htext⟩ := Pattern.reads_of_mem_ends hd
  refine ⟨text, ?_, htext⟩
  rintro rfl
  have hlt := hr.seq s c d hd
  rw [Cursor.reads_nil.mp htext] at hlt
  exact Nat.lt_irrefl _ hlt

/-- What is put in never begins with such a character. -/
def Matcher.Marks (m : Matcher α) (p : α → Bool) : Prop :=
  ∀ c d new, m c = some (d, new) → ∃ a rest, new = a :: rest ∧ p a = false

/-- Text that cannot begin what is put in was there before. -/
theorem Rewrites.copied {m : Matcher α} {p : α → Bool} (hm : m.Marks p) {c : Cursor α}
    {text out : List α} (h : Rewrites m c (text ++ out)) (htext : ∀ a ∈ text, p a = true) :
    ∃ d, c.Reads text d ∧ Rewrites m d out := by
  induction text generalizing c with
  | nil => exact ⟨c, .refl c, h⟩
  | cons a text ih =>
      obtain ⟨ha, htext⟩ := List.forall_mem_cons.mp htext
      generalize hout : a :: text ++ out = whole at h
      cases h with
      | done before => cases hout
      | @copy before after rest b hnone hrest =>
          obtain ⟨rfl, rfl⟩ := List.cons.inj hout
          obtain ⟨d, hreads, hd⟩ := ih hrest htext
          have hstep : Cursor.Reads ⟨before, a :: after⟩ [a] ⟨a :: before, after⟩ := ⟨rfl, rfl⟩
          exact ⟨d, hstep.trans hreads, hd⟩
      | @replace _ d new rest hsome hrest =>
          obtain ⟨b, new, rfl, hb⟩ := hm _ _ _ hsome
          obtain ⟨rfl, -⟩ := List.cons.inj hout
          rw [ha] at hb
          cases hb

/-- Text of which no character begins a match stays. -/
theorem Rewrites.kept {m : Matcher α} {c d : Cursor α} {text out : List α}
    (h : Rewrites m c out) (hreads : c.Reads text d)
    (hnone : ∀ a ∈ text, ∀ before after, m ⟨before, a :: after⟩ = none) :
    ∃ rest, out = text ++ rest ∧ Rewrites m d rest := by
  induction text generalizing c out with
  | nil =>
      obtain rfl := Cursor.reads_nil.mp hreads
      exact ⟨out, rfl, h⟩
  | cons a text ih =>
      obtain ⟨ha, hnone⟩ := List.forall_mem_cons.mp hnone
      obtain ⟨before, after⟩ := c
      obtain rfl : after = a :: (text ++ d.after) := hreads.1
      cases h with
      | copy _ hrest =>
          have hmore : Cursor.Reads ⟨a :: before, text ++ d.after⟩ text d :=
            ⟨rfl, by rw [hreads.2, List.reverse_cons, List.append_assoc]; rfl⟩
          obtain ⟨rest, rfl, hd⟩ := ih hrest hmore hnone
          exact ⟨rest, rfl, hd⟩
      | replace hsome _ =>
          rw [ha before _] at hsome
          cases hsome

/-- The pieces between the matches, as `split` has them. -/
def gapsFrom (r : Pattern α) : ℕ → Cursor α → List (List α)
  | 0, c => [c.after]
  | n + 1, c =>
      match c.after with
      | [] => [[]]
      | a :: after =>
          match (r.ends c).head? with
          | some d =>
              if d.after.length ≤ after.length then [] :: gapsFrom r n d
              else (gapsFrom r n ⟨a :: c.before, after⟩).modifyHead (a :: ·)
          | none => (gapsFrom r n ⟨a :: c.before, after⟩).modifyHead (a :: ·)

def gaps (r : Pattern α) (text : List α) : List (List α) := gapsFrom r text.length ⟨[], text⟩

theorem gapsFrom_ne_nil (r : Pattern α) (n : ℕ) (c : Cursor α) : gapsFrom r n c ≠ [] := by
  induction n generalizing c with
  | zero => exact List.cons_ne_nil _ _
  | succ n ih =>
      rw [gapsFrom]
      split
      · exact List.cons_ne_nil _ _
      · split
        · split
          · exact List.cons_ne_nil _ _
          · exact List.modifyHead_eq_nil_iff.not.mpr (ih _)
        · exact List.modifyHead_eq_nil_iff.not.mpr (ih _)

theorem flatten_modifyHead {a : α} {pieces : List (List α)} (h : pieces ≠ []) :
    (pieces.modifyHead (a :: ·)).flatten = a :: pieces.flatten := by
  cases pieces with
  | nil => exact absurd rfl h
  | cons piece pieces => rfl

/-- Removing the matches leaves the pieces between them. -/
theorem sub_replacing_nil (r : Pattern α) (text : List α) :
    sub (r.replacing []) text = (gaps r text).flatten := by
  have hfrom (n : ℕ) (c : Cursor α) :
      subFrom (r.replacing []) n c = (gapsFrom r n c).flatten := by
    induction n generalizing c with
    | zero => exact (List.append_nil _).symm
    | succ n ih =>
        obtain ⟨before, after⟩ := c
        rw [subFrom, gapsFrom]
        cases after with
        | nil => rfl
        | cons a after =>
            have hskip : a :: subFrom (r.replacing []) n ⟨a :: before, after⟩ =
                ((gapsFrom r n ⟨a :: before, after⟩).modifyHead (a :: ·)).flatten := by
              rw [flatten_modifyHead (gapsFrom_ne_nil r n _), ih]
            unfold Pattern.replacing at hskip ih ⊢
            cases hhead : (r.ends ⟨before, a :: after⟩).head? with
            | none => exact hskip
            | some d =>
                show (if d.after.length ≤ after.length then _ else _) = List.flatten (if _ then _ else _)
                split
                · exact ih d
                · exact hskip
  exact hfrom text.length ⟨[], text⟩

theorem advances_of_consumes {r : Pattern α} {c d : Cursor α} (hr : r.Consumes)
    (h : d ∈ r.ends c) : ∃ text, text ≠ [] ∧ c.Reads text d := by
  obtain ⟨text, htext⟩ := Pattern.reads_of_mem_ends h
  refine ⟨text, ?_, htext⟩
  rintro rfl
  have hlength := htext.length
  have hlt := hr c d h
  simp only [List.length_nil] at hlength
  omega

theorem Pattern.Consumes.replacing {r : Pattern α} (hr : r.Consumes) (new : List α) :
    (r.replacing new).Advances :=
  fun _ _ _ h => advances_of_consumes hr (Pattern.replacing_eq_some h).1

/-! ## §6  All matches -/

/-- The matches from left to right, none of which overlaps another, in so many characters. A match
of nothing is passed over. -/
def findFrom (r : Pattern α) : ℕ → Cursor α → List (List α)
  | 0, _ => []
  | n + 1, c =>
      match c.after with
      | [] => []
      | a :: after =>
          match (r.ends c).head? with
          | some d =>
              if d.after.length ≤ after.length then
                (a :: after).take (after.length + 1 - d.after.length) :: findFrom r n d
              else findFrom r n ⟨a :: c.before, after⟩
          | none => findFrom r n ⟨a :: c.before, after⟩

/-- `findall`. -/
def Pattern.findall (r : Pattern α) (text : List α) : List (List α) :=
  findFrom r text.length ⟨[], text⟩

/-- What the pattern takes has the property throughout. -/
def Pattern.Only (p : α → Bool) (r : Pattern α) : Prop :=
  ∀ c d, d ∈ r.ends c → ∃ text, (∀ a ∈ text, p a = true) ∧ c.Reads text d

theorem Pattern.Free.only {p : α → Bool} {r : Pattern α} (h : r.Free p) : r.Only p := by
  intro c d hd
  obtain ⟨text, hall, hreads, -⟩ := h c d hd
  exact ⟨text, hall, hreads⟩

theorem Pattern.only_boundary (p isWord : α → Bool) : (boundary isWord).Only p := by
  intro c d hd
  obtain ⟨rfl, -⟩ := mem_ends_boundary.mp hd
  exact ⟨[], by simp, .refl _⟩

theorem Pattern.Only.seq {p : α → Bool} {r s : Pattern α} (hr : r.Only p) (hs : s.Only p) :
    (Pattern.seq r s).Only p := by
  intro c d hd
  obtain ⟨e, he, hd⟩ := mem_ends_seq.mp hd
  obtain ⟨xs, hxs, hce⟩ := hr c e he
  obtain ⟨ys, hys, hed⟩ := hs e d hd
  exact ⟨xs ++ ys, List.forall_mem_append.mpr ⟨hxs, hys⟩, hce.trans hed⟩

/-- A reading of such characters ends before the first other one. -/
theorem reads_before {p : α → Bool} {before xs ys text : List α} {a : α} {d : Cursor α}
    (ha : p a = false) (htext : ∀ b ∈ text, p b = true)
    (h : Cursor.Reads ⟨before, xs ++ a :: ys⟩ text d) :
    ∃ rest, xs = text ++ rest ∧ d = ⟨text.reverse ++ before, rest ++ a :: ys⟩ := by
  obtain ⟨hafter, hbefore⟩ := h
  rcases List.append_eq_append_iff.mp hafter with ⟨more, hmore, hrest⟩ | ⟨rest, hrest, hafter⟩
  · cases more with
    | nil => 
      refine ⟨[], ?_, ?_⟩
      · rw [hmore, List.append_nil, List.append_nil]
      · cases d
        simp_all
    | cons b more =>
      obtain ⟨rfl, -⟩ := List.cons.inj hrest
      have := htext a (hmore ▸ List.mem_append_right _ List.mem_cons_self)
      rw [ha] at this
      cases this
  · refine ⟨rest, hrest, ?_⟩
    cases d
    simp_all

theorem findFrom_skip {r : Pattern α} {n : ℕ} {before after : List α} {a : α}
    (h : ∀ d, (r.ends ⟨before, a :: after⟩).head? = some d → after.length < d.after.length) :
    findFrom r (n + 1) ⟨before, a :: after⟩ = findFrom r n ⟨a :: before, after⟩ := by
  rw [findFrom]
  cases hhead : (r.ends ⟨before, a :: after⟩).head? with
  | none => rfl
  | some d => exact if_neg (Nat.not_le.mpr (h d hhead))

theorem findFrom_take {r : Pattern α} {n : ℕ} {before after : List α} {a : α} {d : Cursor α}
    (hhead : (r.ends ⟨before, a :: after⟩).head? = some d)
    (hle : d.after.length ≤ after.length) :
    findFrom r (n + 1) ⟨before, a :: after⟩ =
      (a :: after).take (after.length + 1 - d.after.length) :: findFrom r n d := by
  rw [findFrom]
  simp only [hhead]
  exact if_pos hle

/-- Up to a character that no match takes, whatever is found there. -/
theorem findFrom_past {r : Pattern α} {p : α → Bool} (hr : r.Only p) {a : α} (ha : p a = false)
    {n : ℕ} (before xs : List α) {ys : List α} (hn : xs.length + ys.length < n) :
    ∃ found m, ys.length ≤ m ∧ findFrom r n ⟨before, xs ++ a :: ys⟩ =
      found ++ findFrom r m ⟨a :: (xs.reverse ++ before), ys⟩ := by
  induction n generalizing before xs with
  | zero => omega
  | succ n ih =>
      have hpart (d : Cursor α) (hhead : (r.ends ⟨before, xs ++ a :: ys⟩).head? = some d) :
          ∃ text rest, xs = text ++ rest ∧ d = ⟨text.reverse ++ before, rest ++ a :: ys⟩ := by
        obtain ⟨text, htext, hreads⟩ := hr _ _ (List.mem_of_head? hhead)
        exact ⟨text, reads_before ha htext hreads⟩
      -- no match reads past the stop, so the search passes it with fuel to spare
      cases xs with
      | nil =>
          refine ⟨[], n, by simp only [List.length_nil] at hn; omega, findFrom_skip ?_⟩
          intro d hhead
          obtain ⟨text, rest, hxs, rfl⟩ := hpart d hhead
          obtain ⟨rfl, rfl⟩ := List.append_eq_nil_iff.mp hxs.symm
          exact Nat.lt_succ_self _
      | cons x xs =>
          simp only [List.length_cons] at hn
          by_cases hskip : ∀ d, (r.ends ⟨before, x :: (xs ++ a :: ys)⟩).head? = some d →
              (xs ++ a :: ys).length < d.after.length
          · obtain ⟨found, m, hm, heq⟩ := ih (x :: before) xs (by omega)
            refine ⟨found, m, hm, (findFrom_skip hskip).trans ?_⟩
            rw [heq, List.reverse_cons, List.append_assoc]
            rfl
          · push Not at hskip
            obtain ⟨d, hhead, hle⟩ := hskip
            obtain ⟨text, rest, hxs, rfl⟩ := hpart d hhead
            have hlength := congrArg List.length hxs
            simp only [List.length_append, List.length_cons] at hle hlength
            obtain ⟨found, m, hm, heq⟩ := ih (text.reverse ++ before) rest (by omega)
            refine ⟨(x :: (xs ++ a :: ys)).take
                ((xs ++ a :: ys).length + 1 - (rest ++ a :: ys).length) :: found, m, hm,
              (findFrom_take hhead (by simpa using hle)).trans ?_⟩
            rw [heq, hxs, List.reverse_append, List.append_assoc]
            rfl

/-- A text that follows a character that no match takes, and is the one match there. -/
theorem Pattern.mem_findall {r : Pattern α} {p : α → Bool} (hr : r.Only p)
    {pre text post : List α} (hpre : ∀ a ∈ pre.getLast?, p a = false) (hne : text ≠ [])
    (hends : ∀ d, d ∈ r.ends ⟨pre.reverse, text ++ post⟩ ↔
      d = ⟨text.reverse ++ pre.reverse, post⟩) : text ∈ r.findall (pre ++ (text ++ post)) := by
  -- what the search finds once it is there
  have hhit {n : ℕ} (hn : (text ++ post).length ≤ n) :
      text ∈ findFrom r n ⟨pre.reverse, text ++ post⟩ := by
    obtain ⟨d, hhead⟩ : ∃ d, (r.ends ⟨pre.reverse, text ++ post⟩).head? = some d := by
      rw [← Option.isSome_iff_exists, List.isSome_head?]
      exact List.ne_nil_of_mem ((hends _).mpr rfl)
    obtain rfl := (hends d).mp (List.mem_of_head? hhead)
    cases text with
    | nil => exact absurd rfl hne
    | cons b text =>
        cases n with
        | zero => cases hn
        | succ n =>
            rw [List.cons_append] at hhead ⊢
            rw [findFrom_take hhead (by simp)]
            refine List.mem_cons.mpr (.inl ?_)
            rw [List.length_append, Nat.add_right_comm, Nat.add_sub_cancel, ← List.cons_append]
            exact (List.take_left' rfl).symm
  rcases List.eq_nil_or_concat' pre with rfl | ⟨xs, a, rfl⟩
  · exact hhit (Nat.le_refl _)
  · have ha : p a = false := hpre a (by simp)
    have hn : xs.length + (text ++ post).length < ((xs ++ [a]) ++ (text ++ post)).length := by
      simp only [List.length_append, List.length_singleton]
      omega
    obtain ⟨found, m, hm, heq⟩ := findFrom_past hr ha [] xs hn
    have hfound := hhit hm
    rw [List.reverse_append, List.reverse_singleton, List.singleton_append] at hfound
    unfold Pattern.findall
    rw [List.append_assoc xs [a], List.singleton_append] at heq ⊢
    rw [heq, List.append_nil]
    exact List.mem_append_right _ hfound

end AlertTriage.Library
