import Mathlib.Data.List.Basic

/-!
# Quoted literals in a text

A text with literals between quotes, in which an escape takes the next character for itself: each
character is marked as a quote, or as lying inside or outside of a literal (`marks`).

A template is a text with holes between quotes. Values without an unescaped quote and without an
escape that reaches beyond their end (`Quotable`) fill the holes and nothing else: what is not
inside of a literal does not depend on them (`skeleton_render`), and the literals are those of the
template (`literals_render`). With any other value they are not (`quotable_of_literals`).
-/

namespace AlertTriage.Library.Quoting

/-! ## §1  Marks -/

/-- What ends a literal and what escapes. -/
structure Convention (α : Type) where
  quote : α
  escape : α
  differ : quote ≠ escape

structure Mode where
  inside : Bool
  escaped : Bool
deriving DecidableEq, Repr

inductive Mark (α : Type) where
  | outside (a : α)
  | quote
  | inside (a : α)
deriving DecidableEq, Repr

variable {α : Type} [DecidableEq α] (q : Convention α)

def Mode.next (m : Mode) (a : α) : Mode :=
  if m.escaped then ⟨m.inside, false⟩
  else if a = q.escape then ⟨m.inside, true⟩
  else if a = q.quote then ⟨!m.inside, false⟩
  else m

def Mode.mark (m : Mode) (a : α) : Mark α :=
  if m.escaped = false ∧ a = q.quote then .quote
  else if m.inside then .inside a
  else .outside a

def Mode.after (m : Mode) (text : List α) : Mode := text.foldl (Mode.next q) m

def marks : Mode → List α → List (Mark α)
  | _, [] => []
  | m, a :: text => m.mark q a :: marks (m.next q a) text

theorem marks_append (m : Mode) (xs ys : List α) :
    marks q m (xs ++ ys) = marks q m xs ++ marks q (m.after q xs) ys := by
  induction xs generalizing m with
  | nil => rfl
  | cons x xs ih => simp [marks, ih, Mode.after]

theorem after_append (m : Mode) (xs ys : List α) :
    m.after q (xs ++ ys) = (m.after q xs).after q ys := List.foldl_append

/-- No character of the text is special. -/
def Plain (text : List α) : Prop := ∀ a ∈ text, a ≠ q.quote ∧ a ≠ q.escape

instance (text : List α) : Decidable (Plain q text) :=
  inferInstanceAs (Decidable (∀ a ∈ text, _ ∧ _))

omit [DecidableEq α] in
/-- Within a literal the text stays inside, and the literal can end after it. -/
def Quotable (text : List α) : Prop :=
  marks q ⟨true, false⟩ text = text.map .inside ∧ Mode.after q ⟨true, false⟩ text = ⟨true, false⟩

instance (text : List α) : Decidable (Quotable q text) :=
  inferInstanceAs (Decidable (_ ∧ _))

variable {q}

theorem next_plain {a : α} (h : a ≠ q.quote ∧ a ≠ q.escape) (inside : Bool) :
    Mode.next q ⟨inside, false⟩ a = ⟨inside, false⟩ := by
  simp [Mode.next, h]

theorem plain_outside {text : List α} (h : Plain q text) :
    marks q ⟨false, false⟩ text = text.map .outside ∧
      Mode.after q ⟨false, false⟩ text = ⟨false, false⟩ := by
  induction text with
  | nil => exact ⟨rfl, rfl⟩
  | cons a text ih =>
      obtain ⟨ha, htext⟩ := List.forall_mem_cons.mp h
      obtain ⟨hmarks, hafter⟩ := ih htext
      unfold Mode.after at hafter ⊢
      rw [marks, List.foldl_cons, next_plain ha, hmarks]
      exact ⟨by simp [Mode.mark, ha.1], hafter⟩

theorem quotable_of_plain {text : List α} (h : Plain q text) : Quotable q text := by
  induction text with
  | nil => exact ⟨rfl, rfl⟩
  | cons a text ih =>
      obtain ⟨ha, htext⟩ := List.forall_mem_cons.mp h
      obtain ⟨hmarks, hafter⟩ := ih htext
      unfold Quotable Mode.after at *
      rw [marks, List.foldl_cons, next_plain ha, hmarks]
      exact ⟨by simp [Mode.mark, ha.1], hafter⟩

theorem Quotable.append {xs ys : List α} (hx : Quotable q xs) (hy : Quotable q ys) :
    Quotable q (xs ++ ys) := by
  unfold Quotable
  rw [marks_append, after_append, hx.1, hx.2, hy.1, hy.2, List.map_append]
  exact ⟨rfl, rfl⟩

/-! ## §2  Literals -/

/-- What is between the quotes, one after the other; `some` is what the open literal has so far. -/
def literals : Option (List α) → List (Mark α) → List (List α)
  | none, [] => []
  | some acc, [] => [acc]
  | none, .quote :: ms => literals (some []) ms
  | some acc, .quote :: ms => acc :: literals none ms
  | none, .outside _ :: ms => literals none ms
  | none, .inside _ :: ms => literals none ms
  | some acc, .outside _ :: ms => literals (some acc) ms
  | some acc, .inside a :: ms => literals (some (acc ++ [a])) ms

/-- What is not inside of a literal, the quotes among it. -/
def skeleton (ms : List (Mark α)) : List (Mark α) :=
  ms.filter fun
    | .inside _ => false
    | _ => true

omit [DecidableEq α] in
theorem literals_outside (text : List α) (ms : List (Mark α)) :
    literals none (text.map .outside ++ ms) = literals none ms := by
  induction text with
  | nil => rfl
  | cons a text ih => exact ih

omit [DecidableEq α] in
theorem literals_inside (acc text : List α) (ms : List (Mark α)) :
    literals (some acc) (text.map .inside ++ ms) = literals (some (acc ++ text)) ms := by
  induction text generalizing acc with
  | nil => rw [List.append_nil]; rfl
  | cons a text ih =>
      show literals (some (acc ++ [a])) (text.map .inside ++ ms) = _
      rw [ih, List.append_assoc]
      rfl

omit [DecidableEq α] in
/-- An open literal only grows. -/
theorem literals_grow (acc : List α) (ms : List (Mark α)) :
    ∃ more rest, literals (some acc) ms = (acc ++ more) :: rest := by
  induction ms generalizing acc with
  | nil => exact ⟨[], [], by rw [List.append_nil]; rfl⟩
  | cons m ms ih =>
      cases m with
      | quote => exact ⟨[], literals none ms, by rw [List.append_nil]; rfl⟩
      | outside a => exact ih acc
      | inside a =>
          obtain ⟨more, rest, h⟩ := ih (acc ++ [a])
          refine ⟨a :: more, rest, ?_⟩
          rw [literals, h, List.append_assoc]
          rfl

/-- Where the literal that is open ends just behind the text, the text stayed inside. -/
theorem inside_of_literals {escaped : Bool} (acc : List α) {text rest : List α}
    {more : List (List α)}
    (h : literals (some acc) (marks q ⟨true, escaped⟩ (text ++ q.quote :: rest)) =
      (acc ++ text) :: more) :
    marks q ⟨true, escaped⟩ text = text.map .inside ∧
      Mode.after q ⟨true, escaped⟩ text = ⟨true, false⟩ ∧
      literals none (marks q ⟨false, false⟩ rest) = more := by
  -- a literal that has grown beyond the text does not end with it
  have hlong {acc' : List α} {ms : List (Mark α)} (hlonger : (acc ++ text).length < acc'.length)
      (hms : literals (some acc') ms = (acc ++ text) :: more) : False := by
    obtain ⟨grown, others, hgrown⟩ := literals_grow acc' ms
    have hlength := congrArg List.length (List.cons.inj (hgrown.symm.trans hms)).1
    rw [List.length_append] at hlength
    omega
  induction text generalizing escaped acc with
  | nil =>
      cases escaped with
      | false =>
          have hmark : Mode.mark q ⟨true, false⟩ q.quote = .quote := by simp [Mode.mark]
          have hnext : Mode.next q ⟨true, false⟩ q.quote = ⟨false, false⟩ := by
            simp [Mode.next, q.differ]
          rw [List.nil_append, marks, hmark, hnext] at h
          exact ⟨rfl, rfl, (List.cons.inj h).2⟩
      | true =>
          have hmark : Mode.mark q ⟨true, true⟩ q.quote = .inside q.quote := by simp [Mode.mark]
          rw [List.nil_append, marks, hmark, literals] at h
          exact (hlong (by simp) h).elim
  | cons a text ih =>
      rw [List.cons_append, marks] at h
      by_cases hquote : escaped = false ∧ a = q.quote
      · have hmark : Mode.mark q ⟨true, escaped⟩ a = .quote := by simp [Mode.mark, hquote]
        rw [hmark] at h
        have hlength := congrArg List.length (List.cons.inj h).1
        simp at hlength
      · have hmark : Mode.mark q ⟨true, escaped⟩ a = .inside a := by
          unfold Mode.mark
          rw [if_neg hquote]
          rfl
        have hnext : ∃ e, Mode.next q ⟨true, escaped⟩ a = ⟨true, e⟩ := by
          unfold Mode.next
          split
          · exact ⟨false, rfl⟩
          · split
            · exact ⟨true, rfl⟩
            · split
              · rename_i he _ ha
                exact absurd ⟨by simpa using he, ha⟩ hquote
              · exact ⟨escaped, rfl⟩
        obtain ⟨e, he⟩ := hnext
        rw [hmark, he] at h
        have happend : acc ++ a :: text = acc ++ [a] ++ text := by simp
        have hrest := ih (acc ++ [a]) (by rw [← happend]; exact h) (by
          rw [← happend]
          exact hlong)
        unfold Mode.after at hrest ⊢
        rw [marks, hmark, he, hrest.1, List.foldl_cons, he]
        exact ⟨rfl, hrest.2⟩

/-! ## §3  Templates -/

/-- A piece of a template: text outside of literals, or a literal, with a value in it or none. -/
inductive Part (ι α : Type) where
  | plain (text : List α)
  | literal (before : List α) (value : Option ι) (after : List α)

variable {ι : Type} (q) (values : ι → List α)

/-- The content of the part's literal, if it is one. -/
def Part.content : Part ι α → Option (List α)
  | .plain _ => none
  | .literal before value after => some (before ++ (value.elim [] values ++ after))

def Part.render : Part ι α → List α
  | .plain text => text
  | .literal before value after =>
      q.quote :: (before ++ (value.elim [] values ++ after) ++ [q.quote])

def render (parts : List (Part ι α)) : List α := parts.flatMap (Part.render q values)

def Part.skeleton : Part ι α → List (Mark α)
  | .plain text => text.map .outside
  | .literal _ _ _ => [.quote, .quote]

/-- Nothing in the texts outside of literals is special. -/
def Part.WellFormed : Part ι α → Prop
  | .plain text => Plain q text
  | .literal _ _ _ => True

def WellFormed (parts : List (Part ι α)) : Prop := ∀ p ∈ parts, p.WellFormed q

/-- The contents of the template's literals, in order. -/
def contents (parts : List (Part ι α)) : List (List α) := parts.filterMap (Part.content values)

/-- The part's literal ends where it should. -/
def Part.Closed (p : Part ι α) : Prop := ∀ content ∈ p.content values, Quotable q content

variable {q values}

omit [DecidableEq α]

theorem wellFormed_nil : WellFormed q ([] : List (Part ι α)) :=
  fun _ hp => absurd hp List.not_mem_nil

theorem wellFormed_plain {text : List α} {parts : List (Part ι α)} :
    WellFormed q (.plain text :: parts) ↔ Plain q text ∧ WellFormed q parts :=
  List.forall_mem_cons

theorem wellFormed_literal {before after : List α} {value : Option ι}
    {parts : List (Part ι α)} :
    WellFormed q (.literal before value after :: parts) ↔ WellFormed q parts :=
  List.forall_mem_cons.trans (iff_of_eq (true_and _))

theorem wellFormed_append {xs ys : List (Part ι α)} :
    WellFormed q (xs ++ ys) ↔ WellFormed q xs ∧ WellFormed q ys := List.forall_mem_append

theorem contents_nil : contents values ([] : List (Part ι α)) = [] := rfl

theorem contents_plain (text : List α) (parts : List (Part ι α)) :
    contents values (.plain text :: parts) = contents values parts := rfl

theorem contents_literal (before : List α) (value : Option ι) (after : List α)
    (parts : List (Part ι α)) : contents values (.literal before value after :: parts) =
      (before ++ (value.elim [] values ++ after)) :: contents values parts := rfl

theorem render_cons (p : Part ι α) (parts : List (Part ι α)) :
    render q values (p :: parts) = p.render q values ++ render q values parts := rfl

theorem skeleton_append (xs ys : List (Mark α)) :
    skeleton (xs ++ ys) = skeleton xs ++ skeleton ys := List.filter_append ..

theorem skeleton_outside (text : List α) : skeleton (text.map .outside) = text.map .outside := by
  refine List.filter_eq_self.mpr fun m hm => ?_
  obtain ⟨a, -, rfl⟩ := List.mem_map.mp hm
  rfl

theorem skeleton_inside (text : List α) :
    skeleton (text.map .inside) = ([] : List (Mark α)) := by
  refine List.filter_eq_nil_iff.mpr fun m hm => ?_
  obtain ⟨a, -, rfl⟩ := List.mem_map.mp hm
  exact Bool.false_ne_true

variable [DecidableEq α]

theorem closed_iff {parts : List (Part ι α)} :
    (∀ p ∈ parts, p.Closed q values) ↔ ∀ content ∈ contents values parts, Quotable q content := by
  constructor
  · intro h content hcontent
    obtain ⟨p, hp, hpcontent⟩ := List.mem_filterMap.mp hcontent
    exact h p hp content hpcontent
  · intro h p hp content hcontent
    exact h content (List.mem_filterMap.mpr ⟨p, hp, hcontent⟩)

theorem marks_literal {content : List α} (h : Quotable q content) (rest : List α) :
    marks q ⟨false, false⟩ (q.quote :: (content ++ q.quote :: rest)) =
      .quote :: (content.map .inside ++ .quote :: marks q ⟨false, false⟩ rest) := by
  have hopen : Mode.mark q ⟨false, false⟩ q.quote = .quote := by simp [Mode.mark]
  have hinside : Mode.next q ⟨false, false⟩ q.quote = ⟨true, false⟩ := by
    simp [Mode.next, q.differ]
  have hclose : Mode.mark q ⟨true, false⟩ q.quote = .quote := by simp [Mode.mark]
  have houtside : Mode.next q ⟨true, false⟩ q.quote = ⟨false, false⟩ := by
    simp [Mode.next, q.differ]
  rw [marks, hopen, hinside, marks_append, h.1, h.2, marks, hclose, houtside]

/-- The marks of a template that begins with text. -/
theorem marks_plain {text : List α} (h : Plain q text) (rest : List α) :
    marks q ⟨false, false⟩ (text ++ rest) =
      text.map .outside ++ marks q ⟨false, false⟩ rest := by
  obtain ⟨hmarks, hafter⟩ := plain_outside h
  rw [marks_append, hmarks, hafter]

/-- Where all literals are closed, what is outside of them does not depend on the values, and
their contents are those of the template. -/
theorem render_closed {parts : List (Part ι α)} (hparts : WellFormed q parts)
    (h : ∀ p ∈ parts, p.Closed q values) :
    skeleton (marks q ⟨false, false⟩ (render q values parts)) =
        parts.flatMap Part.skeleton ∧
      literals none (marks q ⟨false, false⟩ (render q values parts)) =
        contents values parts := by
  induction parts with
  | nil => exact ⟨rfl, rfl⟩
  | cons p parts ih =>
      obtain ⟨hp, hparts⟩ := List.forall_mem_cons.mp hparts
      obtain ⟨hclosed, h⟩ := List.forall_mem_cons.mp h
      obtain ⟨hskeleton, hliterals⟩ := ih hparts h
      rw [render_cons, List.flatMap_cons, ← hskeleton]
      cases p with
      | plain text =>
          rw [Part.render, marks_plain hp, skeleton_append, skeleton_outside, literals_outside,
            hliterals]
          exact ⟨rfl, rfl⟩
      | literal before value after =>
          have hquotable := hclosed _ rfl
          rw [Part.render, List.cons_append, List.append_assoc, List.singleton_append,
            marks_literal hquotable]
          constructor
          · show .quote :: skeleton (_ ++ .quote :: _) = _
            rw [skeleton_append, skeleton_inside]
            rfl
          · show literals (some []) (_ ++ .quote :: _) = _
            rw [literals_inside, List.nil_append, literals, hliterals]
            rfl

/-- Where the contents are those of the template, all literals are closed. -/
theorem closed_of_literals {parts : List (Part ι α)} (hparts : WellFormed q parts)
    (h : literals none (marks q ⟨false, false⟩ (render q values parts)) =
      contents values parts) : ∀ p ∈ parts, p.Closed q values := by
  induction parts with
  | nil => exact fun p hp => absurd hp List.not_mem_nil
  | cons p parts ih =>
      obtain ⟨hp, hrest⟩ := List.forall_mem_cons.mp hparts
      rw [render_cons] at h
      refine List.forall_mem_cons.mpr ?_
      cases p with
      | plain text =>
          rw [Part.render, marks_plain hp, literals_outside] at h
          exact ⟨fun content hcontent => absurd hcontent (by simp [Part.content]), ih hrest h⟩
      | literal before value after =>
          have hopen : Mode.mark q ⟨false, false⟩ q.quote = .quote := by simp [Mode.mark]
          have hinside : Mode.next q ⟨false, false⟩ q.quote = ⟨true, false⟩ := by
            simp [Mode.next, q.differ]
          rw [Part.render, List.cons_append, List.append_assoc, List.singleton_append, marks,
            hopen, hinside] at h
          obtain ⟨hmarks, hafter, hmore⟩ := inside_of_literals [] h
          refine ⟨fun content hcontent => ?_, ih hrest hmore⟩
          obtain rfl := Option.some.inj hcontent
          exact ⟨hmarks, hafter⟩

end AlertTriage.Library.Quoting
