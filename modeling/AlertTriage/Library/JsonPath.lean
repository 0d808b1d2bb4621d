import AlertTriage.Library.Json
import Mathlib.Data.List.Infix

/-!
# Paths into JSON objects

A path names a value by the keys that lead to it. `valueAt` follows it, `putAt`
writes there and makes the objects that are missing on the way. What is written
at a path is read back there (`valueAt_putAt`) and is not seen at any path that
is neither above nor below it (`valueAt_putAt_ne`). `firstPath` is the choice
that lenient readers make: the first of several paths whose value will do.
-/

namespace AlertTriage.Library.Json

abbrev Fields := List (String × Json)

abbrev Path := List String

/-! ## Paths -/

/-- The object that a value is, or the empty one. -/
def fieldsOrEmpty : Option Json → Fields
  | some (.obj fields) => fields
  | _ => []

/-- The value at a path. -/
def valueAt : Path → Fields → Option Json
  | [], _ => none
  | [key], fields => lookup key fields
  | key :: rest, fields => valueAt rest (fieldsOrEmpty (lookup key fields))

/-- Write a value at a path. -/
def putAt : Path → Json → Fields → Fields
  | [], _, fields => fields
  | [key], value, fields => upsert key value fields
  | key :: rest, value, fields =>
      upsert key (.obj (putAt rest value (fieldsOrEmpty (lookup key fields))))
        fields

@[simp] theorem valueAt_one (key : String) (fields : Fields) :
    valueAt [key] fields = lookup key fields := rfl

@[simp] theorem valueAt_two (key key' : String) (fields : Fields) :
    valueAt [key, key'] fields =
      lookup key' (fieldsOrEmpty (lookup key fields)) := rfl

theorem valueAt_cons {key : String} {rest : Path} (h : rest ≠ [])
    (fields : Fields) :
    valueAt (key :: rest) fields =
      valueAt rest (fieldsOrEmpty (lookup key fields)) := by
  cases rest with
  | nil => exact absurd rfl h
  | cons k ks => rfl

theorem putAt_cons {key : String} {rest : Path} (h : rest ≠ []) (value : Json)
    (fields : Fields) :
    putAt (key :: rest) value fields =
      upsert key (.obj (putAt rest value (fieldsOrEmpty (lookup key fields))))
        fields := by
  cases rest with
  | nil => exact absurd rfl h
  | cons k ks => rfl

theorem valueAt_putAt {path : Path} (h : path ≠ []) (value : Json)
    (fields : Fields) : valueAt path (putAt path value fields) = some value := by
  induction path generalizing fields with
  | nil => exact absurd rfl h
  | cons key rest ih =>
      by_cases hrest : rest = []
      · subst hrest
        exact lookup_upsert key value fields
      · rw [putAt_cons hrest, valueAt_cons hrest, lookup_upsert]
        exact ih hrest _

/-- Neither path is above the other. -/
def Apart (p q : Path) : Prop := ¬ p <+: q ∧ ¬ q <+: p

instance (p q : Path) : Decidable (Apart p q) :=
  inferInstanceAs (Decidable (¬ _ ∧ ¬ _))

theorem Apart.cons {key : String} {p q : Path}
    (h : Apart (key :: p) (key :: q)) : Apart p q := by
  refine ⟨fun hp => h.1 ?_, fun hq => h.2 ?_⟩
  · exact List.cons_prefix_cons.mpr ⟨rfl, hp⟩
  · exact List.cons_prefix_cons.mpr ⟨rfl, hq⟩

theorem valueAt_putAt_ne {p q : Path} (h : Apart p q) (value : Json)
    (fields : Fields) : valueAt q (putAt p value fields) = valueAt q fields := by
  induction p generalizing q fields with
  | nil => exact absurd (List.nil_prefix) h.1
  | cons key rest ih =>
      cases q with
      | nil => exact absurd (List.nil_prefix) h.2
      | cons key' rest' =>
      by_cases hkey : key' = key
      · subst hkey
        have hrest := h.cons
        have hne : rest ≠ [] := by
          rintro rfl
          exact hrest.1 List.nil_prefix
        have hne' : rest' ≠ [] := by
          rintro rfl
          exact hrest.2 List.nil_prefix
        rw [putAt_cons hne, valueAt_cons hne', lookup_upsert, valueAt_cons hne']
        exact ih hrest _
      · have hlookup : lookup key' (putAt (key :: rest) value fields) =
            lookup key' fields := by
          by_cases hne : rest = []
          · subst hne
            exact lookup_upsert_ne hkey value fields
          · rw [putAt_cons hne]
            exact lookup_upsert_ne hkey _ fields
        by_cases hne' : rest' = []
        · subst hne'
          exact hlookup
        · rw [valueAt_cons hne', valueAt_cons hne', hlookup]

/-- Where there is a value already, writing adds no path. -/
theorem isSome_valueAt_putAt {p q : Path} {fields : Fields} {old : Json}
    (hp : valueAt p fields = some old) (hq : Apart p q ∨ q = p) (value : Json) :
    (valueAt q (putAt p value fields)).isSome = (valueAt q fields).isSome := by
  rcases hq with h | rfl
  · rw [valueAt_putAt_ne h]
  · have hne : q ≠ [] := by
      rintro rfl
      exact absurd hp (by simp [valueAt])
    rw [valueAt_putAt hne, hp]
    rfl

theorem valueAt_empty (path : Path) : valueAt path [] = none := by
  induction path with
  | nil => rfl
  | cons key rest ih =>
      by_cases hrest : rest = []
      · subst hrest
        rfl
      · rw [valueAt_cons hrest]
        exact ih

/-- Where there is a value already, writing adds no key. -/
theorem isSome_lookup_putAt {path : Path} {fields : Fields} {old : Json}
    (h : valueAt path fields = some old) (value : Json) (key : String) :
    (lookup key (putAt path value fields)).isSome = (lookup key fields).isSome := by
  cases path with
  | nil => rfl
  | cons head rest =>
  have hhead : (lookup head fields).isSome = true := by
    by_cases hrest : rest = []
    · subst hrest
      rw [valueAt_one] at h
      rw [h]
      rfl
    · rw [valueAt_cons hrest] at h
      cases hl : lookup head fields with
      | some v => rfl
      | none =>
          have hempty : valueAt rest [] = some old := by rwa [hl] at h
          rw [valueAt_empty] at hempty
          cases hempty
  have hput : ∃ v, putAt (head :: rest) value fields = upsert head v fields := by
    by_cases hrest : rest = []
    · subst hrest
      exact ⟨value, rfl⟩
    · exact ⟨_, putAt_cons hrest value fields⟩
  obtain ⟨v, hput⟩ := hput
  rw [hput]
  by_cases hkey : key = head
  · subst hkey
    rw [lookup_upsert, hhead]
    rfl
  · rw [lookup_upsert_ne hkey]

/-! ## The first path that will do -/

/-- The first of the paths whose value will do. -/
def firstPath (good : Json → Bool) (paths : List Path) (fields : Fields) :
    Option Path :=
  paths.find? fun p => (valueAt p fields).any good

/-- The choice depends on what the paths lead to. -/
theorem firstPath_congr {good : Json → Bool} {paths : List Path}
    {fields fields' : Fields}
    (h : ∀ p ∈ paths, (valueAt p fields').any good = (valueAt p fields).any good) :
    firstPath good paths fields' = firstPath good paths fields := by
  unfold firstPath
  induction paths with
  | nil => rfl
  | cons p paths ih =>
      have hp := h p List.mem_cons_self
      have hrest := ih fun q hq => h q (List.mem_cons_of_mem _ hq)
      simp only [List.find?_cons, hp, hrest]

/-- Another value that will do, written at the path that was chosen, leaves the
choice among paths apart from one another. -/
theorem firstPath_putAt {good : Json → Bool} {paths : List Path}
    {fields : Fields} {path : Path} {value : Json}
    (h : firstPath good paths fields = some path)
    (happart : ∀ q ∈ paths, q = path ∨ Apart path q) (hne : path ≠ [])
    (hvalue : good value = true) :
    firstPath good paths (putAt path value fields) = some path := by
  rw [firstPath_congr, h]
  intro q hq
  rcases happart q hq with rfl | hap
  · have hgood := List.find?_some h
    rw [valueAt_putAt hne, hgood]
    simpa using hvalue
  · rw [valueAt_putAt_ne hap]

theorem mem_of_firstPath {good : Json → Bool} {paths : List Path}
    {fields : Fields} {path : Path}
    (h : firstPath good paths fields = some path) :
    path ∈ paths ∧ ∃ v, valueAt path fields = some v ∧ good v = true := by
  refine ⟨List.mem_of_find?_eq_some h, ?_⟩
  have hgood := List.find?_some h
  exact (Option.any_eq_true _ _).mp hgood

end AlertTriage.Library.Json
