import AlertTriage.Library.Json

/-!
# Format strings

`str.format` with named fields: what it makes of a template, whose own braces are
doubled, and of the values of its fields, which it does not read again. A value
that was escaped as a template is stays escaped: `infix_doubled_iff` says which
lists stand within themselves doubled all the same.
-/

namespace AlertTriage.Library

/-! ## §1  Doubling -/

section Doubling

variable {α : Type} (p : α → Bool)

/-- Every element of a class twice. -/
def doubled (l : List α) : List α :=
  l.flatMap fun a => if p a then [a, a] else [a]

@[simp] theorem doubled_nil : doubled p [] = [] := rfl

theorem doubled_cons_pos {a : α} (h : p a = true) (l : List α) :
    doubled p (a :: l) = a :: a :: doubled p l := by
  simp [doubled, h]

theorem doubled_cons_neg {a : α} (h : p a = false) (l : List α) :
    doubled p (a :: l) = a :: doubled p l := by
  simp [doubled, h]

theorem doubled_append (l m : List α) :
    doubled p (l ++ m) = doubled p l ++ doubled p m :=
  List.flatMap_append

theorem doubled_of_none {l : List α} (h : ∀ a ∈ l, p a = false) :
    doubled p l = l := by
  induction l with
  | nil => rfl
  | cons a l ih =>
      rw [doubled_cons_neg p (h a List.mem_cons_self),
        ih fun b hb => h b (List.mem_cons_of_mem a hb)]

theorem length_doubled (l : List α) :
    (doubled p l).length = l.length + l.countP p := by
  induction l with
  | nil => rfl
  | cons a l ih =>
      cases h : p a with
      | true =>
          rw [doubled_cons_pos p h, List.countP_cons_of_pos h]
          simp only [List.length_cons, ih]
          omega
      | false =>
          rw [doubled_cons_neg p h, List.countP_cons_of_neg (by simp [h])]
          simp only [List.length_cons, ih]
          omega

/-- **Doubling leaves a list as it is** if there is nothing to double. -/
theorem doubled_eq_self_iff {l : List α} :
    doubled p l = l ↔ ∀ a ∈ l, p a = false := by
  constructor
  · intro h a ha
    have hlength := length_doubled p l
    rw [h] at hlength
    have hnone : l.countP p = 0 := by omega
    exact eq_false_of_ne_true (List.countP_eq_zero.mp hnone a ha)
  · exact doubled_of_none p

/-- All elements are the same. -/
def Constant (l : List α) : Prop := ∀ a ∈ l, ∀ b ∈ l, a = b

/-- What is of the class stands at the ends: one element repeated before, and
one after, all that is not. -/
def AtEnds (l : List α) : Prop :=
  ∃ front mid back, l = front ++ mid ++ back ∧ Constant front ∧
    (∀ a ∈ mid, p a = false) ∧ Constant back

theorem doubled_replicate (n : ℕ) (a : α) :
    ∃ m, doubled p (List.replicate n a) = List.replicate (n + m) a := by
  cases h : p a with
  | false =>
      refine ⟨0, doubled_of_none p fun b hb => ?_⟩
      rw [List.eq_of_mem_replicate hb]
      exact h
  | true =>
      refine ⟨n, ?_⟩
      induction n with
      | zero => rfl
      | succ n ih =>
          have hcount : n + 1 + (n + 1) = n + n + 1 + 1 := by omega
          rw [List.replicate_succ, doubled_cons_pos p h, ih, hcount]
          rfl

theorem Constant.eq_replicate {l : List α} (h : Constant l) {a : α}
    (ha : a ∈ l) : l = List.replicate l.length a :=
  List.eq_replicate_iff.mpr ⟨rfl, fun b hb => h b hb a ha⟩

theorem constant_nil : Constant ([] : List α) :=
  fun _ ha => absurd ha List.not_mem_nil

theorem constant_replicate (n : ℕ) (a : α) : Constant (List.replicate n a) :=
  fun _ hb _ hc => (List.eq_of_mem_replicate hb).trans
    (List.eq_of_mem_replicate hc).symm

/-- A repeated element stands at either end of itself doubled. -/
theorem Constant.doubled {l : List α} (h : Constant l) :
    ∃ more, AlertTriage.Library.doubled p l = l ++ more ∧
      AlertTriage.Library.doubled p l = more ++ l := by
  cases l with
  | nil => exact ⟨[], rfl, rfl⟩
  | cons a l =>
      rw [h.eq_replicate List.mem_cons_self]
      obtain ⟨m, hm⟩ := doubled_replicate p (a :: l).length a
      refine ⟨List.replicate m a, ?_, ?_⟩
      · rw [hm, List.replicate_append_replicate]
      · rw [hm, List.replicate_append_replicate, Nat.add_comm]

theorem AtEnds.infix_doubled {l : List α} (h : AtEnds p l) :
    l <:+: doubled p l := by
  obtain ⟨front, mid, back, rfl, hfront, hmid, hback⟩ := h
  obtain ⟨before, -, hbefore⟩ := hfront.doubled p
  obtain ⟨after, hafter, -⟩ := hback.doubled p
  refine ⟨before, after, ?_⟩
  rw [doubled_append, doubled_append, hbefore, hafter, doubled_of_none p hmid]
  simp only [List.append_assoc]

/-! ### The other direction -/

/-- Behind something doubled, only the same follows. -/
theorem all_eq_of_append {a : α} (ha : p a = true) (l : List α) :
    ∀ (n : ℕ) (q : List α),
      l ++ q = List.replicate (n + 1) a ++ doubled p l → ∀ b ∈ l, b = a := by
  induction l with
  | nil => exact fun _ _ _ b hb => absurd hb (List.not_mem_nil)
  | cons c l ih =>
      intro n q h b hb
      rw [List.replicate_succ, List.cons_append, List.cons_append] at h
      obtain ⟨rfl, h⟩ := List.cons.inj h
      rcases List.mem_cons.mp hb with rfl | hb
      · rfl
      · refine ih (n + 1) q ?_ b hb
        rw [h, doubled_cons_pos p ha]
        simp [List.replicate_succ', List.append_assoc]

/-- A list that begins itself doubled. -/
theorem back_of_prefix (l : List α) : ∀ q, l ++ q = doubled p l →
    ∃ mid back, l = mid ++ back ∧ (∀ a ∈ mid, p a = false) ∧ Constant back := by
  induction l with
  | nil => exact fun _ _ => ⟨[], [], rfl, by simp, constant_nil⟩
  | cons a l ih =>
      intro q h
      cases ha : p a with
      | false =>
          rw [doubled_cons_neg p ha] at h
          obtain ⟨mid, back, hl, hmid, hback⟩ := ih q (List.cons.inj h).2
          refine ⟨a :: mid, back, by rw [hl]; rfl, fun b hb => ?_, hback⟩
          rcases List.mem_cons.mp hb with rfl | hb
          · exact ha
          · exact hmid b hb
      | true =>
          rw [doubled_cons_pos p ha] at h
          have hsame := all_eq_of_append p ha l 0 q (List.cons.inj h).2
          refine ⟨[], a :: l, rfl, by simp, fun b hb c hc => ?_⟩
          have hall : ∀ b ∈ a :: l, b = a := by
            intro b hb
            rcases List.mem_cons.mp hb with rfl | hb
            · rfl
            · exact hsame b hb
          rw [hall b hb, hall c hc]

variable [DecidableEq α]

/-- How often the next element is another one. -/
def changes : List α → ℕ
  | a :: b :: l => (if a = b then 0 else 1) + changes (b :: l)
  | _ => 0

theorem changes_le_cons (a : α) (l : List α) : changes l ≤ changes (a :: l) := by
  cases l with
  | nil => exact Nat.zero_le _
  | cons b l => exact Nat.le_add_left _ _

theorem changes_le_append_left (pre l : List α) :
    changes l ≤ changes (pre ++ l) := by
  induction pre with
  | nil => exact Nat.le_refl _
  | cons a pre ih => exact Nat.le_trans ih (changes_le_cons a _)

theorem changes_le_append_right (l post : List α) :
    changes l ≤ changes (l ++ post) := by
  induction l with
  | nil => exact Nat.zero_le _
  | cons a l ih =>
      cases l with
      | nil => exact Nat.zero_le _
      | cons b l => exact Nat.add_le_add_left ih _

theorem changes_doubled (l : List α) : changes (doubled p l) = changes l := by
  induction l with
  | nil => rfl
  | cons a l ih =>
      have htwice : ∀ m, changes (a :: a :: m) = changes (a :: m) := fun m => by
        simp [changes]
      have hnext : changes (a :: doubled p l) = changes (a :: l) := by
        cases l with
        | nil => rfl
        | cons b l =>
            cases hb : p b with
            | true =>
                rw [doubled_cons_pos p hb] at ih ⊢
                exact congrArg (_ + ·) ih
            | false =>
                rw [doubled_cons_neg p hb] at ih ⊢
                exact congrArg (_ + ·) ih
      cases ha : p a with
      | true => rw [doubled_cons_pos p ha, htwice, hnext]
      | false => rw [doubled_cons_neg p ha, hnext]

/-- What adds no change before a list repeats its first element. -/
theorem eq_replicate_of_changes (a : α) (l pre : List α)
    (h : changes (pre ++ a :: l) ≤ changes (a :: l)) :
    ∀ b ∈ pre, b = a := by
  induction pre with
  | nil => exact fun b hb => absurd hb List.not_mem_nil
  | cons c pre ih =>
      have hpre : changes (pre ++ a :: l) ≤ changes (a :: l) :=
        Nat.le_trans (changes_le_cons c _) h
      have hall := ih hpre
      have hc : c = a := by
        cases pre with
        | nil =>
            by_contra hne
            simp only [List.cons_append, List.nil_append, changes,
              if_neg hne] at h
            omega
        | cons b pre =>
            have hle := changes_le_append_left (b :: pre) (a :: l)
            have hb : b = a := hall b List.mem_cons_self
            by_contra hne
            have hcb : c ≠ b := fun heq => hne (heq.trans hb)
            simp only [List.cons_append, changes, if_neg hcb] at h hle
            omega
      intro b hb
      rcases List.mem_cons.mp hb with rfl | hb
      · exact hc
      · exact hall b hb

omit [DecidableEq α] in
/-- Two runs of one element, each before something else. -/
theorem replicate_append_inj {a b c : α} (hb : b ≠ a) (hc : c ≠ a)
    {l m : List α} : ∀ {i j : ℕ}, List.replicate i a ++ b :: l =
      List.replicate j a ++ c :: m → b :: l = c :: m := by
  intro i
  induction i with
  | zero =>
      intro j h
      cases j with
      | zero => exact h
      | succ j => exact absurd (List.cons.inj h).1 hb
  | succ i ih =>
      intro j h
      cases j with
      | zero => exact absurd (List.cons.inj h).1.symm hc
      | succ j => exact ih (List.cons.inj h).2

/-- The first run of a list. -/
theorem exists_run (a : α) (l : List α) : ∃ n rest,
    a :: l = List.replicate (n + 1) a ++ rest ∧
      ∀ b m, rest = b :: m → b ≠ a := by
  induction l with
  | nil => exact ⟨0, [], rfl, fun b m h => absurd h (by simp)⟩
  | cons c l ih =>
      by_cases hca : c = a
      · obtain ⟨n, rest, heq, hrest⟩ := ih
        refine ⟨n + 1, rest, ?_, hrest⟩
        rw [hca, heq]
        rfl
      · refine ⟨0, c :: l, rfl, fun b m h => ?_⟩
        rw [← (List.cons.inj h).1]
        exact hca

/-- **What stands within itself doubled**: the lists with nothing to double but
at their ends. -/
theorem infix_doubled_iff {l : List α} : l <:+: doubled p l ↔ AtEnds p l := by
  refine ⟨?_, AtEnds.infix_doubled p⟩
  rintro ⟨pre, post, h⟩
  cases l with
  | nil => exact ⟨[], [], [], rfl, constant_nil, by simp, constant_nil⟩
  | cons c l =>
      -- what comes before repeats the first element
      have hpre : ∀ b ∈ pre, b = c := by
        apply eq_replicate_of_changes c (l ++ post) pre
        calc changes (pre ++ c :: (l ++ post))
            = changes (doubled p (c :: l)) := by
              rw [← h, List.append_assoc, List.cons_append]
          _ = changes (c :: l) := changes_doubled p _
          _ ≤ changes (c :: (l ++ post)) := changes_le_append_right (c :: l) post
      obtain ⟨n, rest, hrun, hrest⟩ := exists_run c l
      cases rest with
      | nil =>
          rw [hrun]
          exact ⟨_, [], [], (List.append_nil _).symm, constant_replicate _ _,
            by simp, constant_nil⟩
      | cons d rest =>
          have hdc := hrest d rest rfl
          obtain ⟨k, hk⟩ := doubled_replicate p (n + 1) c
          obtain ⟨m, hm⟩ : ∃ m, doubled p (d :: rest) = d :: m := by
            cases hp : p d with
            | true => exact ⟨_, doubled_cons_pos p hp _⟩
            | false => exact ⟨_, doubled_cons_neg p hp _⟩
          -- both sides are a run of the first element, then something else
          have hsides : List.replicate (pre.length + (n + 1)) c ++
              d :: (rest ++ post) = List.replicate (n + 1 + k) c ++ d :: m := by
            rw [← hm, ← hk, ← doubled_append, ← hrun, ← h, hrun,
              ← List.replicate_append_replicate,
              ← List.eq_replicate_iff.mpr ⟨rfl, hpre⟩]
            simp only [List.append_assoc, List.cons_append]
          have htail := replicate_append_inj hdc hdc hsides
          obtain ⟨mid, back, hback, hmid, hconst⟩ :=
            back_of_prefix p (d :: rest) post (by rw [hm, ← htail]; rfl)
          refine ⟨List.replicate (n + 1) c, mid, back, ?_,
            constant_replicate _ _, hmid, hconst⟩
          rw [hrun, hback, List.append_assoc]

end Doubling

/-! ## §2  Formatting -/

/-- What `str.format` raises. A field with a conversion, a specification, an
attribute or an index is beyond this reading. -/
inductive FormatError where
  | valueError (text : String)
  | keyError (name : String)
  | indexError
  | unread
deriving DecidableEq, Repr

/-- Where the reading of a template stands: in its text, behind a brace, or in
the name of a field, its characters so far last first. -/
inductive FormatMode where
  | text
  | opened
  | closed
  | name (read : List Char)
deriving DecidableEq, Repr

def brace (c : Char) : Bool := c = '\x7b' || c = '\x7d'

/-- The argument of a field. Without a name, or with a number for one, it is
positional, of which there are none. -/
def fieldValue (kwargs : List (String × String)) (name : List Char) :
    Except FormatError (List Char) :=
  if name.all Char.isDigit then .error .indexError
  else
    match Json.lookup (String.ofList name) kwargs with
    | some value => .ok value.toList
    | none => .error (.keyError (String.ofList name))

/-- `str.format(**kwargs)`, from a place of the template on. -/
def formatFrom (kwargs : List (String × String)) :
    FormatMode → List Char → Except FormatError (List Char)
  | .text, [] => .ok []
  | .text, c :: rest =>
      if c = '\x7b' then formatFrom kwargs .opened rest
      else if c = '\x7d' then formatFrom kwargs .closed rest
      else (c :: ·) <$> formatFrom kwargs .text rest
  | .opened, [] =>
      .error (.valueError "Single '\x7b' encountered in format string")
  | .opened, c :: rest =>
      if c = '\x7b' then (c :: ·) <$> formatFrom kwargs .text rest
      else if c = '\x7d' then .error .indexError
      else if c = '!' || c = ':' || c = '.' || c = '[' then .error .unread
      else formatFrom kwargs (.name [c]) rest
  | .closed, [] =>
      .error (.valueError "Single '\x7d' encountered in format string")
  | .closed, c :: rest =>
      if c = '\x7d' then (c :: ·) <$> formatFrom kwargs .text rest
      else .error (.valueError "Single '\x7d' encountered in format string")
  | .name _, [] =>
      .error (.valueError "expected '\x7d' before end of string")
  | .name read, c :: rest =>
      if c = '\x7d' then do
        let value ← fieldValue kwargs read.reverse
        let filled ← formatFrom kwargs .text rest
        return value ++ filled
      else if c = '\x7b' then
        .error (.valueError "unexpected '\x7b' in field name")
      else if c = '!' || c = ':' || c = '.' || c = '[' then .error .unread
      else formatFrom kwargs (.name (c :: read)) rest

/-- `template.format(**kwargs)`. -/
def strFormat (template : String) (kwargs : List (String × String)) :
    Except FormatError String :=
  String.ofList <$> formatFrom kwargs .text template.toList

/-! ## §3  Templates -/

/-- A template: text, as it is to appear, and fields. -/
inductive Piece where
  | text (t : String)
  | field (name : String)
deriving DecidableEq, Repr

/-- How a piece is written: braces of the text twice, fields in braces. -/
def Piece.source : Piece → List Char
  | .text t => doubled brace t.toList
  | .field name => '\x7b' :: (name.toList ++ ['\x7d'])

def templateSource (pieces : List Piece) : String :=
  String.ofList (pieces.flatMap Piece.source)

/-- The value of a field, empty if there is none. -/
def valueOf (kwargs : List (String × String)) (name : String) : List Char :=
  ((Json.lookup name kwargs).getD "").toList

def Piece.filled (kwargs : List (String × String)) : Piece → List Char
  | .text t => t.toList
  | .field name => valueOf kwargs name

/-- A name as Python has them, of one of the arguments. -/
def Piece.Given (kwargs : List (String × String)) : Piece → Prop
  | .text _ => True
  | .field name => (Json.lookup name kwargs).isSome = true ∧
      name.toList.all Char.isDigit = false ∧
      ∀ c ∈ name.toList, c ≠ '\x7b' ∧ c ≠ '\x7d' ∧
        (c = '!' || c = ':' || c = '.' || c = '[') = false

section Reading

variable {kwargs : List (String × String)}

/-- A text with its braces doubled is read as the text. -/
theorem formatFrom_text (t rest : List Char) :
    formatFrom kwargs .text (doubled brace t ++ rest) =
      (t ++ ·) <$> formatFrom kwargs .text rest := by
  induction t with
  | nil =>
      rw [doubled_nil, List.nil_append]
      cases formatFrom kwargs .text rest with
      | error e => rfl
      | ok filled => rfl
  | cons c t ih =>
      have hstep : formatFrom kwargs .text (doubled brace (c :: t) ++ rest) =
          (c :: ·) <$> formatFrom kwargs .text (doubled brace t ++ rest) := by
        by_cases hopen : c = '\x7b'
        · rw [doubled_cons_pos brace (by simp [brace, hopen])]
          simp [formatFrom, hopen]
        by_cases hclose : c = '\x7d'
        · rw [doubled_cons_pos brace (by simp [brace, hclose])]
          simp [formatFrom, hclose]
        rw [doubled_cons_neg brace (by simp [brace, hopen, hclose])]
        simp [formatFrom, hopen, hclose]
      rw [hstep, ih]
      cases formatFrom kwargs .text rest with
      | error e => rfl
      | ok filled => rfl

/-- A name is read to its end. -/
theorem formatFrom_name (kwargs : List (String × String))
    (name rest : List Char)
    (h : ∀ c ∈ name, c ≠ '\x7b' ∧ c ≠ '\x7d' ∧
      (c = '!' || c = ':' || c = '.' || c = '[') = false) (read : List Char) :
    formatFrom kwargs (.name read) (name ++ '\x7d' :: rest) = (do
      let value ← fieldValue kwargs (read.reverse ++ name)
      let filled ← formatFrom kwargs .text rest
      return value ++ filled) := by
  induction name generalizing read with
  | nil => simp [formatFrom]
  | cons c name ih =>
      obtain ⟨hopen, hclose, hplain⟩ := h c List.mem_cons_self
      rw [List.cons_append, formatFrom, if_neg hclose, if_neg hopen, if_neg
        (by rw [hplain]; decide), ih (fun d hd => h d (List.mem_cons_of_mem c hd))]
      simp

theorem formatFrom_field {name : String} (h : Piece.Given kwargs (.field name))
    (rest : List Char) :
    formatFrom kwargs .text (Piece.source (.field name) ++ rest) =
      (valueOf kwargs name ++ ·) <$> formatFrom kwargs .text rest := by
  obtain ⟨hsome, hdigits, hplain⟩ := h
  obtain ⟨value, hvalue⟩ := Option.isSome_iff_exists.mp hsome
  have hread : fieldValue kwargs name.toList = .ok value.toList := by
    unfold fieldValue
    rw [hdigits, if_neg (by decide), String.ofList_toList, hvalue]
  have hof : valueOf kwargs name = value.toList := by
    unfold valueOf
    rw [hvalue]
    rfl
  rw [hof]
  cases hn : name.toList with
  | nil =>
      rw [hn] at hdigits
      exact absurd hdigits (by decide)
  | cons c cs =>
      rw [hn] at hplain hread
      obtain ⟨hopen, hclose, hc⟩ := hplain c List.mem_cons_self
      have hname := formatFrom_name kwargs cs rest
        (fun d hd => hplain d (List.mem_cons_of_mem c hd)) [c]
      have hsource : Piece.source (.field name) ++ rest =
          '\x7b' :: c :: (cs ++ '\x7d' :: rest) := by
        simp [Piece.source, hn]
      rw [hsource, formatFrom, if_pos rfl, formatFrom, if_neg hopen,
        if_neg hclose, if_neg (by rw [hc]; decide), hname]
      simp only [List.reverse_cons, List.reverse_nil, List.nil_append,
        List.cons_append, hread]
      cases formatFrom kwargs .text rest with
      | error e => rfl
      | ok filled => rfl

/-- **A template is filled**: its text as it is, and the values of its fields as
they are. -/
theorem strFormat_source {pieces : List Piece}
    (h : ∀ piece ∈ pieces, piece.Given kwargs) :
    strFormat (templateSource pieces) kwargs =
      .ok (String.ofList (pieces.flatMap (Piece.filled kwargs))) := by
  have hall : formatFrom kwargs .text (pieces.flatMap Piece.source) =
      .ok (pieces.flatMap (Piece.filled kwargs)) := by
    induction pieces with
    | nil => rfl
    | cons piece pieces ih =>
        have hrest := ih fun q hq => h q (List.mem_cons_of_mem piece hq)
        rw [List.flatMap_cons, List.flatMap_cons]
        cases piece with
        | text t =>
            rw [Piece.source, formatFrom_text, hrest]
            rfl
        | field name =>
            rw [formatFrom_field (h _ List.mem_cons_self), hrest]
            rfl
  unfold strFormat templateSource
  rw [String.toList_ofList, hall]
  rfl

end Reading

/-! ## §4  What stands in a field -/

/-- What is filled in before a field and after it. -/
def around (kwargs : List (String × String)) (pieces : List Piece)
    (name : String) : List Char × List Char :=
  ((pieces.takeWhile (· ≠ .field name)).flatMap (Piece.filled kwargs),
    (pieces.dropWhile (· ≠ .field name)).tail.flatMap (Piece.filled kwargs))

theorem filled_eq_around (kwargs : List (String × String)) {pieces : List Piece}
    {name : String} (h : .field name ∈ pieces) :
    pieces.flatMap (Piece.filled kwargs) = (around kwargs pieces name).1 ++
      valueOf kwargs name ++ (around kwargs pieces name).2 := by
  induction pieces with
  | nil => exact absurd h List.not_mem_nil
  | cons piece pieces ih =>
      by_cases hp : piece = .field name
      · subst hp
        simp [around, Piece.filled]
      · have hrest : .field name ∈ pieces :=
          (List.mem_cons.mp h).resolve_left fun heq => hp heq.symm
        have hih := ih hrest
        unfold around at hih ⊢
        simp only [ne_eq, hp, not_false_eq_true, decide_true,
          List.takeWhile_cons_of_pos, List.dropWhile_cons_of_pos,
          List.flatMap_cons, List.append_assoc] at hih ⊢
        rw [hih]

end AlertTriage.Library
