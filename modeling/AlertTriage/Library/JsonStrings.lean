import AlertTriage.Library.Json

/-!
# The strings of a JSON value

A string leaf is a text and the places on the way to it (`leaves`). `mapLeaves` rewrites each by
where it stands and keeps the rest: two rewritings agree on a value exactly when they agree on its
leaves (`mapLeaves_eq_iff`). `texts` are all strings of a value, the keys among them.
-/

namespace AlertTriage.Library.Json

/-! ## §1  Leaves -/

/-- A step into a value: to the value of a key, or to an item. -/
inductive Place where
  | key (name : String)
  | item
deriving DecidableEq, Repr

def Place.isKey : Place → Bool
  | .key _ => true
  | .item => false

abbrev Leaf := List Place × String

/-- The leaf, seen from one place further up. -/
def Leaf.under (p : Place) (leaf : Leaf) : Leaf := (p :: leaf.1, leaf.2)

mutual
/-- The string leaves, in order. -/
def leaves : Json → List Leaf
  | .str s => [([], s)]
  | .arr items => leavesItems items
  | .obj fields => leavesFields fields
  | _ => []

def leavesItems : List Json → List Leaf
  | [] => []
  | v :: vs => (leaves v).map (Leaf.under .item) ++ leavesItems vs

def leavesFields : List (String × Json) → List Leaf
  | [] => []
  | (k, v) :: fs => (leaves v).map (Leaf.under (.key k)) ++ leavesFields fs
end

mutual
/-- Rewrite every string leaf. -/
def mapLeaves (f : List Place → String → String) : Json → Json
  | .str s => .str (f [] s)
  | .arr items => .arr (mapItems f items)
  | .obj fields => .obj (mapFields f fields)
  | .null => .null
  | .bool b => .bool b
  | .int i => .int i
  | .float m e => .float m e
  | .nan => .nan
  | .infinity n => .infinity n

def mapItems (f : List Place → String → String) : List Json → List Json
  | [] => []
  | v :: vs => mapLeaves (fun path => f (.item :: path)) v :: mapItems f vs

def mapFields (f : List Place → String → String) :
    List (String × Json) → List (String × Json)
  | [] => []
  | (k, v) :: fs => (k, mapLeaves (fun path => f (.key k :: path)) v) :: mapFields f fs
end

theorem forall_under {p : Place} {leaves : List Leaf} {P : Leaf → Prop} :
    (∀ leaf ∈ leaves.map (Leaf.under p), P leaf) ↔ ∀ leaf ∈ leaves, P (leaf.under p) :=
  List.forall_mem_map

mutual
/-- Two rewritings agree on a value exactly when they agree on its leaves. -/
theorem mapLeaves_eq_iff (f g : List Place → String → String) : ∀ j : Json,
    mapLeaves f j = mapLeaves g j ↔ ∀ leaf ∈ leaves j, f leaf.1 leaf.2 = g leaf.1 leaf.2
  | .str s => by
      simp only [mapLeaves, leaves, Json.str.injEq, List.forall_mem_singleton]
  | .arr items => by
      rw [mapLeaves, mapLeaves, Json.arr.injEq, leaves]
      exact mapItems_eq_iff f g items
  | .obj fields => by
      rw [mapLeaves, mapLeaves, Json.obj.injEq, leaves]
      exact mapFields_eq_iff f g fields
  | .null => by simp [mapLeaves, leaves]
  | .bool b => by simp [mapLeaves, leaves]
  | .int i => by simp [mapLeaves, leaves]
  | .float m e => by simp [mapLeaves, leaves]
  | .nan => by simp [mapLeaves, leaves]
  | .infinity n => by simp [mapLeaves, leaves]

theorem mapItems_eq_iff (f g : List Place → String → String) : ∀ items : List Json,
    mapItems f items = mapItems g items ↔
      ∀ leaf ∈ leavesItems items, f leaf.1 leaf.2 = g leaf.1 leaf.2
  | [] => by simp [mapItems, leavesItems]
  | v :: vs => by
      rw [mapItems, mapItems, List.cons.injEq, leavesItems, List.forall_mem_append,
        forall_under, mapLeaves_eq_iff _ _ v, mapItems_eq_iff f g vs]
      rfl

theorem mapFields_eq_iff (f g : List Place → String → String) :
    ∀ fields : List (String × Json), mapFields f fields = mapFields g fields ↔
      ∀ leaf ∈ leavesFields fields, f leaf.1 leaf.2 = g leaf.1 leaf.2
  | [] => by simp [mapFields, leavesFields]
  | (k, v) :: fs => by
      rw [mapFields, mapFields, List.cons.injEq, Prod.mk.injEq, leavesFields,
        List.forall_mem_append, forall_under, mapLeaves_eq_iff _ _ v, mapFields_eq_iff f g fs]
      simp only [true_and]
      rfl
end

mutual
/-- Rewriting with what changes nothing. -/
theorem mapLeaves_id : ∀ j : Json, mapLeaves (fun _ s => s) j = j
  | .str _ => rfl
  | .arr items => congrArg _ (mapItems_id items)
  | .obj fields => congrArg _ (mapFields_id fields)
  | .null => rfl
  | .bool _ => rfl
  | .int _ => rfl
  | .float _ _ => rfl
  | .nan => rfl
  | .infinity _ => rfl

theorem mapItems_id : ∀ items : List Json, mapItems (fun _ s => s) items = items
  | [] => rfl
  | v :: vs => congrArg₂ List.cons (mapLeaves_id v) (mapItems_id vs)

theorem mapFields_id : ∀ fields : List (String × Json),
    mapFields (fun _ s => s) fields = fields
  | [] => rfl
  | (k, v) :: fs => congrArg₂ (fun v fs => (k, v) :: fs) (mapLeaves_id v) (mapFields_id fs)
end

theorem mapItems_eq_map (f : List Place → String → String) (items : List Json) :
    mapItems f items = items.map (mapLeaves fun path => f (.item :: path)) := by
  induction items with
  | nil => rfl
  | cons v vs ih => rw [mapItems, ih, List.map_cons]

theorem mapFields_eq_map (f : List Place → String → String) (fields : List (String × Json)) :
    mapFields f fields =
      fields.map fun field => (field.1, mapLeaves (fun path => f (.key field.1 :: path)) field.2) := by
  induction fields with
  | nil => rfl
  | cons field fs ih =>
      obtain ⟨k, v⟩ := field
      rw [mapFields, ih, List.map_cons]

/-- A leaf of an object is under a key. -/
theorem key_of_mem_leavesFields {fields : List (String × Json)} {leaf : Leaf}
    (h : leaf ∈ leavesFields fields) : ∃ k path, leaf.1 = .key k :: path := by
  induction fields with
  | nil => exact absurd h List.not_mem_nil
  | cons field fields ih =>
      obtain ⟨k, v⟩ := field
      rcases List.mem_append.mp h with h | h
      · obtain ⟨inner, -, rfl⟩ := List.mem_map.mp h
        exact ⟨k, inner.1, rfl⟩
      · exact ih h

/-! ## §2  All strings -/

mutual
/-- The strings of a value, and its keys. -/
def texts : Json → List String
  | .str s => [s]
  | .arr items => textsItems items
  | .obj fields => textsFields fields
  | _ => []

def textsItems : List Json → List String
  | [] => []
  | v :: vs => texts v ++ textsItems vs

def textsFields : List (String × Json) → List String
  | [] => []
  | (k, v) :: fs => k :: texts v ++ textsFields fs
end

theorem forall_textsItems {P : String → Prop} {items : List Json} :
    (∀ s ∈ textsItems items, P s) ↔ ∀ v ∈ items, ∀ s ∈ texts v, P s := by
  induction items with
  | nil => simp [textsItems]
  | cons v items ih =>
      rw [textsItems, List.forall_mem_append, List.forall_mem_cons, ih]

theorem forall_textsFields {P : String → Prop} {fields : List (String × Json)} :
    (∀ s ∈ textsFields fields, P s) ↔
      ∀ field ∈ fields, P field.1 ∧ ∀ s ∈ texts field.2, P s := by
  induction fields with
  | nil => simp [textsFields]
  | cons field fields ih =>
      obtain ⟨k, v⟩ := field
      rw [textsFields, List.forall_mem_append, List.forall_mem_cons, List.forall_mem_cons, ih]

end AlertTriage.Library.Json
