import AlertTriage.Library.JsonRoundTrip

/-!
# Typed values as JSON

Some encoders write a number that is not finite as null (`nulled`); they leave a value alone
exactly when it holds none (`nulled_eq_iff`). Which decimals count as not finite is a parameter.

A `Shape` writes a type as JSON and reads it; it keeps a value if it reads what it wrote and no
encoder writes that in another way. Shapes of texts, lists and values that may be null keep
what their parts keep, and the fields of a record are read by their keys.
-/

namespace AlertTriage.Library.Json

/-! ## §1  Numbers that are not finite -/

section Nulls

-- the decimals that are read as infinite
variable (infinite : ℤ → ℤ → Bool)

mutual
def nulled : Json → Json
  | .nan => .null
  | .infinity _ => .null
  | .float m e => if infinite m e then .null else .float m e
  | .arr items => .arr (nulledItems items)
  | .obj fields => .obj (nulledFields fields)
  | .null => .null
  | .bool b => .bool b
  | .int i => .int i
  | .str s => .str s

def nulledItems : List Json → List Json
  | [] => []
  | v :: vs => nulled v :: nulledItems vs

def nulledFields : List (String × Json) → List (String × Json)
  | [] => []
  | (k, v) :: fs => (k, nulled v) :: nulledFields fs
end

mutual
/-- Every number in the value is finite. -/
def Finite : Json → Prop
  | .nan => False
  | .infinity _ => False
  | .float m e => infinite m e = false
  | .arr items => FiniteItems items
  | .obj fields => FiniteFields fields
  | _ => True

def FiniteItems : List Json → Prop
  | [] => True
  | v :: vs => Finite v ∧ FiniteItems vs

def FiniteFields : List (String × Json) → Prop
  | [] => True
  | (_, v) :: fs => Finite v ∧ FiniteFields fs
end

mutual
/-- **What is left alone** is what holds finite numbers only. -/
theorem nulled_eq_iff : ∀ j, nulled infinite j = j ↔ Finite infinite j
  | .null => by simp [nulled, Finite]
  | .bool b => by simp [nulled, Finite]
  | .int i => by simp [nulled, Finite]
  | .float m e => by
      cases h : infinite m e <;> simp [nulled, Finite, h]
  | .nan => by simp [nulled, Finite]
  | .infinity b => by simp [nulled, Finite]
  | .str s => by simp [nulled, Finite]
  | .arr items => by simp [nulled, Finite, nulledItems_eq_iff items]
  | .obj fields => by simp [nulled, Finite, nulledFields_eq_iff fields]

theorem nulledItems_eq_iff : ∀ vs, nulledItems infinite vs = vs ↔ FiniteItems infinite vs
  | [] => by simp [nulledItems, FiniteItems]
  | v :: vs => by simp [nulledItems, FiniteItems, nulled_eq_iff v, nulledItems_eq_iff vs]

theorem nulledFields_eq_iff : ∀ fs, nulledFields infinite fs = fs ↔ FiniteFields infinite fs
  | [] => by simp [nulledFields, FiniteFields]
  | (k, v) :: fs => by
      simp [nulledFields, FiniteFields, nulled_eq_iff v, nulledFields_eq_iff fs]
end

theorem nulledFields_keys (fs : List (String × Json)) :
    (nulledFields infinite fs).map Prod.fst = fs.map Prod.fst := by
  induction fs with
  | nil => rfl
  | cons f fs ih => simp [nulledFields, ih]

mutual
theorem nulled_distinct : ∀ j, Distinct j → Distinct (nulled infinite j)
  | .null, _ => trivial
  | .bool _, _ => trivial
  | .int _, _ => trivial
  | .float m e, _ => by
      unfold nulled
      split
      · trivial
      · trivial
  | .nan, _ => trivial
  | .infinity _, _ => trivial
  | .str _, _ => trivial
  | .arr items, h => nulledItems_distinct items h
  | .obj fields, h => by
      refine ⟨?_, nulledFields_distinct fields h.2⟩
      rw [nulledFields_keys]
      exact h.1

theorem nulledItems_distinct :
    ∀ vs, DistinctItems vs → DistinctItems (nulledItems infinite vs)
  | [], _ => trivial
  | v :: vs, h => ⟨nulled_distinct v h.1, nulledItems_distinct vs h.2⟩

theorem nulledFields_distinct :
    ∀ fs, DistinctFields fs → DistinctFields (nulledFields infinite fs)
  | [], _ => trivial
  | (_, v) :: fs, h => ⟨nulled_distinct v h.1, nulledFields_distinct fs h.2⟩
end

/-- Every encoder writes the value alike, and a decoder reads it back. -/
structure Plain (j : Json) : Prop where
  distinct : Distinct j
  nulled : nulled infinite j = j

@[simp] theorem plain_str (s : String) : Plain infinite (.str s) := ⟨trivial, rfl⟩

@[simp] theorem plain_int (i : ℤ) : Plain infinite (.int i) := ⟨trivial, rfl⟩

@[simp] theorem plain_bool (b : Bool) : Plain infinite (.bool b) := ⟨trivial, rfl⟩

@[simp] theorem plain_null : Plain infinite .null := ⟨trivial, rfl⟩

variable {infinite}

theorem plain_arr {items : List Json} (h : ∀ v ∈ items, Plain infinite v) :
    Plain infinite (.arr items) := by
  constructor
  · exact distinctItems_iff.mpr fun v hv => (h v hv).distinct
  · unfold Json.nulled
    apply congrArg Json.arr
    induction items with
    | nil => rfl
    | cons v vs ih =>
        simp only [nulledItems]
        rw [(h v List.mem_cons_self).nulled, ih fun w hw => h w (List.mem_cons_of_mem _ hw)]

theorem nulledFields_of_plain {fields : List (String × Json)}
    (h : ∀ f ∈ fields, Plain infinite f.2) : nulledFields infinite fields = fields := by
  induction fields with
  | nil => rfl
  | cons f fs ih =>
      obtain ⟨k, v⟩ := f
      simp only [nulledFields]
      rw [(h (k, v) List.mem_cons_self).nulled, ih fun g hg => h g (List.mem_cons_of_mem _ hg)]

theorem plain_obj {fields : List (String × Json)} (hkeys : (fields.map Prod.fst).Nodup)
    (h : ∀ f ∈ fields, Plain infinite f.2) : Plain infinite (.obj fields) := by
  constructor
  · exact ⟨hkeys, distinctFields_iff.mpr fun f hf => (h f hf).distinct⟩
  · exact congrArg Json.obj (nulledFields_of_plain h)

end Nulls

/-! ## §2  Shapes -/

structure Shape (α : Type) where
  write : α → Json
  read : Json → Option α

namespace Shape

variable {α : Type} (infinite : ℤ → ℤ → Bool)

/-- The value is read back, and is not null. -/
structure Keeps (s : Shape α) (a : α) : Prop where
  read_write : s.read (s.write a) = some a
  plain : Plain infinite (s.write a)
  ne_null : s.write a ≠ .null

def text : Shape String where
  write := .str
  read := asStr?

theorem text_keeps (s : String) : text.Keeps infinite s := by
  constructor
  · rfl
  · exact plain_str infinite s
  · exact Json.noConfusion

/-- A value that may be null. -/
def nullable (s : Shape α) : Shape (Option α) where
  write
    | some a => s.write a
    | none => .null
  read
    | .null => some none
    | j => (s.read j).map some

variable {infinite} {s : Shape α}

theorem nullable_read (h : ∀ a ∈ (o : Option α), s.Keeps infinite a) :
    s.nullable.read (s.nullable.write o) = some o := by
  cases o with
  | none => rfl
  | some a =>
      have ha := h a rfl
      have hread := ha.read_write
      simp only [nullable]
      split
      · exact absurd ‹_› ha.ne_null
      · simp [hread]

theorem nullable_plain (h : ∀ a ∈ (o : Option α), s.Keeps infinite a) :
    Plain infinite (s.nullable.write o) := by
  cases o with
  | none => exact plain_null infinite
  | some a => exact (h a rfl).plain

def list (s : Shape α) : Shape (List α) where
  write items := .arr (items.map s.write)
  read
    | .arr items => items.mapM s.read
    | _ => none

theorem list_keeps {items : List α} (h : ∀ a ∈ items, s.Keeps infinite a) :
    s.list.Keeps infinite items := by
  constructor
  · show (items.map s.write).mapM s.read = some items
    induction items with
    | nil => rfl
    | cons a as ih =>
        have has := ih fun b hb => h b (List.mem_cons_of_mem _ hb)
        simp [(h a List.mem_cons_self).read_write, has]
  · refine plain_arr fun v hv => ?_
    obtain ⟨a, ha, rfl⟩ := List.mem_map.mp hv
    exact (h a ha).plain
  · exact Json.noConfusion

/-! ### Fields -/

/-- The value of a field that must be there. -/
def required (s : Shape α) (key : String) (fields : List (String × Json)) : Option α :=
  (lookup key fields).bind s.read

/-- The value of a field, a default where it is absent. -/
def defaulted (s : Shape α) (key : String) (default : α) (fields : List (String × Json)) :
    Option α :=
  match lookup key fields with
  | some j => s.read j
  | none => some default

variable {key : String} {fields : List (String × Json)} {a : α}

/-- What is written under the key is what the rest of a reader goes on with. -/
theorem required_bind {β : Type} {rest : α → Option β}
    (h : lookup key fields = some (s.write a)) (hs : s.read (s.write a) = some a) :
    (s.required key fields >>= rest) = rest a := by
  rw [required, h]
  show (s.read (s.write a)).bind rest = rest a
  rw [hs, Option.bind_some]

theorem defaulted_bind {β : Type} {default : α} {rest : α → Option β}
    (h : lookup key fields = some (s.write a)) (hs : s.read (s.write a) = some a) :
    (s.defaulted key default fields >>= rest) = rest a := by
  rw [defaulted, h]
  show (s.read (s.write a)).bind rest = rest a
  rw [hs, Option.bind_some]

end Shape

end AlertTriage.Library.Json
