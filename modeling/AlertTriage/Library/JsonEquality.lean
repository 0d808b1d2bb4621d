import AlertTriage.Library.JsonRoundTrip
import Mathlib.Data.List.Sort

/-!
# Equality of JSON values

Two JSON values are equal when they differ at most in the order of the keys of
their objects, at any depth (`Same`); numbers are equal when they are written
alike, so `1` and `1.0` are two values. An object is an association list here,
so equality up to the order of its keys is a permutation once the values under
each key agree; and lists without a repeated key are permutations of each other
exactly when sorting them by key gives one list.
-/

namespace AlertTriage.Library.Json

/-! ## §1  The relation -/

mutual
/-- Equal as JSON values: the keys of an object come in any order. -/
def Same : Json → Json → Prop
  | .arr items, .arr items' => SameItems items items'
  | .obj fields, .obj fields' =>
      fields.length = fields'.length ∧ SameFields fields fields'
  | j, k => j = k

def SameItems : List Json → List Json → Prop
  | [], [] => True
  | v :: vs, w :: ws => Same v w ∧ SameItems vs ws
  | _, _ => False

/-- Every field of the first object is one of the second. -/
def SameFields : List (String × Json) → List (String × Json) → Prop
  | [], _ => True
  | (k, v) :: fs, fields' =>
      (∃ w, lookup k fields' = some w ∧ Same v w) ∧ SameFields fs fields'
end

/-! ## §2  Lists without a repeated key -/

section Keys

variable {κ α : Type} {xs ys : List (κ × α)}

theorem eq_of_mem_of_key (h : (xs.map Prod.fst).Nodup) {p q : κ × α} (hp : p ∈ xs)
    (hq : q ∈ xs) (hkey : p.1 = q.1) : p = q :=
  List.inj_on_of_nodup_map h hp hq hkey

/-- As many fields, and each one found on the other side. -/
theorem perm_iff_subset (h : (xs.map Prod.fst).Nodup) :
    xs.Perm ys ↔ xs.length = ys.length ∧ xs ⊆ ys := by
  refine ⟨fun hp => ⟨hp.length_eq, hp.subset⟩, fun ⟨hlength, hsub⟩ => ?_⟩
  exact (List.subperm_of_subset (List.Nodup.of_map _ h) hsub).perm_of_length_le hlength.ge

variable [LE κ] [Std.IsLinearOrder κ] [DecidableRel fun a b : κ × α => a.1 ≤ b.1]

/-- In key order, what lists without a repeated key hold is all there is to them. -/
theorem insertionSort_eq_iff (h : (xs.map Prod.fst).Nodup) :
    xs.insertionSort (fun a b => a.1 ≤ b.1) = ys.insertionSort (fun a b => a.1 ≤ b.1) ↔
      xs.Perm ys := by
  have hx := List.perm_insertionSort (fun a b : κ × α => a.1 ≤ b.1) xs
  have hy := List.perm_insertionSort (fun a b : κ × α => a.1 ≤ b.1) ys
  constructor
  · intro heq
    rw [heq] at hx
    exact hx.symm.trans hy
  · intro hperm
    have : Std.Total fun a b : κ × α => a.1 ≤ b.1 := ⟨fun _ _ => Std.le_total⟩
    have : IsTrans (κ × α) fun a b => a.1 ≤ b.1 := ⟨fun _ _ _ => Std.le_trans⟩
    refine List.Perm.eq_of_pairwise (fun a b ha hb hab hba => ?_)
      (List.pairwise_insertionSort _ xs) (List.pairwise_insertionSort _ ys)
      (hx.trans (hperm.trans hy.symm))
    exact eq_of_mem_of_key h (hx.subset ha) (hperm.symm.subset (hy.subset hb))
      (Std.le_antisymm hab hba)

end Keys

theorem lookup_of_mem {α : Type} {key : String} {value : α} {fields : List (String × α)}
    (h : (fields.map Prod.fst).Nodup) (hmem : (key, value) ∈ fields) :
    lookup key fields = some value := by
  cases hlookup : lookup key fields with
  | none =>
      rw [lookup, Option.map_eq_none_iff, List.find?_eq_none] at hlookup
      exact absurd (decide_eq_true rfl) (hlookup _ hmem)
  | some w =>
      have heq := eq_of_mem_of_key h hmem (mem_of_lookup hlookup) rfl
      rw [(Prod.mk.inj heq).2]

end AlertTriage.Library.Json
