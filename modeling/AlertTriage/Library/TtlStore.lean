import Mathlib.Data.List.AList
import Mathlib.Tactic.Common

/-!
# A key-value store whose entries expire

The store keeps a value and an optional deadline under each key. An entry is
present before its deadline and absent from it on, whether or not anything has
removed it; every reader passes the time. Writes replace the value and the
deadline together; `setNx` writes only where nothing is present.
-/

namespace AlertTriage.Library

/-- Times are counted in microseconds; this is one second. -/
def second : ℕ := 1000000

/-- A stored value and the time from which it is gone. -/
structure Entry (ν : Type) where
  value : ν
  deadline : Option ℕ
deriving DecidableEq, Repr

/-- The entry is still present at `now`. -/
def Entry.live {ν : Type} (now : ℕ) (e : Entry ν) : Bool :=
  match e.deadline with
  | none => true
  | some d => decide (now < d)

abbrev TtlStore (ν : Type) := AList fun _ : String => Entry ν

namespace TtlStore

variable {ν : Type}

def empty : TtlStore ν := ∅

/-- The value present under a key. -/
def get (now : ℕ) (key : String) (s : TtlStore ν) : Option ν :=
  match s.lookup key with
  | some e => if e.live now then some e.value else none
  | none => none

/-- Write a value that stays until it is removed. -/
def set (key : String) (value : ν) (s : TtlStore ν) : TtlStore ν :=
  s.insert key ⟨value, none⟩

/-- Write a value that is gone after `ttl`. -/
def setEx (now : ℕ) (key : String) (value : ν) (ttl : ℕ)
    (s : TtlStore ν) : TtlStore ν :=
  s.insert key ⟨value, some (now + ttl)⟩

/-- Write only where nothing is present. -/
def setNxEx (now : ℕ) (key : String) (value : ν) (ttl : ℕ)
    (s : TtlStore ν) : TtlStore ν :=
  if (s.get now key).isSome then s else s.setEx now key value ttl

/-- Replace a present value and keep its deadline; an absent one starts
without a deadline. -/
def overwrite (now : ℕ) (key : String) (value : ν) (s : TtlStore ν) :
    TtlStore ν :=
  match s.lookup key with
  | some e =>
      if e.live now then s.insert key ⟨value, e.deadline⟩ else s.set key value
  | none => s.set key value

/-- Give a present entry a new deadline. -/
def expire (now : ℕ) (key : String) (ttl : ℕ) (s : TtlStore ν) :
    TtlStore ν :=
  match s.lookup key with
  | some e =>
      if e.live now then s.insert key ⟨e.value, some (now + ttl)⟩ else s
  | none => s

/-- Remove one key. -/
def remove (key : String) (s : TtlStore ν) : TtlStore ν := s.erase key

/-- Remove several keys. -/
def removeAll (keys : List String) (s : TtlStore ν) : TtlStore ν :=
  keys.foldl (fun s k => s.remove k) s

/-! ## What each operation leaves under each key -/

variable {now t : ℕ} {key key' : String} {value : ν} {ttl : ℕ}
  {s : TtlStore ν}

@[simp] theorem get_set : (s.set key value).get now key = some value := by
  simp [get, set, Entry.live]

theorem get_set_ne (h : key' ≠ key) :
    (s.set key value).get t key' = s.get t key' := by
  simp only [get, set, AList.lookup_insert_ne h]

/-- A value written for a time is there until then. -/
theorem get_setEx_self : (s.setEx now key value ttl).get t key =
    if t < now + ttl then some value else none := by
  simp [get, setEx, Entry.live]

/-- A value written for a positive time is present at once. -/
theorem get_setEx (h : 0 < ttl) :
    (s.setEx now key value ttl).get now key = some value := by
  have hlt : now < now + ttl := by omega
  simp [get, setEx, Entry.live, hlt]

/-- It stays until its deadline. -/
theorem get_setEx_of_lt (h : t < now + ttl) :
    (s.setEx now key value ttl).get t key = some value := by
  simp [get, setEx, Entry.live, h]

theorem lt_of_get_setEx (h : (s.setEx now key value ttl).get t key ≠ none) :
    t < now + ttl := by
  by_contra hle
  exact h (by simp [get, setEx, Entry.live, hle])

/-- What is absent stays absent while time passes. -/
theorem get_none_of_le (hle : now ≤ t) (h : s.get now key = none) :
    s.get t key = none := by
  unfold get at h ⊢
  cases hl : s.lookup key with
  | none => rfl
  | some e =>
      simp only [hl] at h ⊢
      cases hd : e.deadline with
      | none => simp [Entry.live, hd] at h
      | some d =>
          simp only [Entry.live, hd, decide_eq_true_eq] at h ⊢
          by_cases hlt : now < d
          · simp [hlt] at h
          · rw [if_neg (by omega)]

/-- What is present later is present now. -/
theorem get_of_later (hle : now ≤ t) (h : s.get t key = some value) :
    s.get now key = some value := by
  unfold get at h ⊢
  cases hl : s.lookup key with
  | none => simp [hl] at h
  | some e =>
      simp only [hl] at h ⊢
      cases hd : e.deadline with
      | none => simpa [Entry.live, hd] using h
      | some d =>
          simp only [Entry.live, hd, decide_eq_true_eq] at h ⊢
          by_cases hlt : t < d
          · rw [if_pos hlt] at h
            rw [if_pos (by omega), h]
          · simp [hlt] at h

theorem get_setEx_ne (h : key' ≠ key) :
    (s.setEx now key value ttl).get t key' = s.get t key' := by
  simp only [get, setEx, AList.lookup_insert_ne h]

theorem get_overwrite_ne (h : key' ≠ key) :
    (s.overwrite now key value).get t key' = s.get t key' := by
  unfold overwrite
  split
  · split
    · simp only [get, AList.lookup_insert_ne h]
    · exact get_set_ne h
  · exact get_set_ne h

/-- A replaced value is present: it keeps a deadline that is still to come. -/
theorem get_overwrite :
    (s.overwrite now key value).get now key = some value := by
  unfold overwrite
  split
  · rename_i e _
    split
    · rename_i hlive
      have hl : Entry.live now ⟨value, e.deadline⟩ = true := hlive
      simp [get, hl]
    · exact get_set
  · exact get_set

/-- It is present as long as the value it replaced would have been. -/
theorem get_overwrite_of_present
    (h : s.get now key = none ∨ s.get t key ≠ none) :
    (s.overwrite now key value).get t key = some value := by
  unfold overwrite
  cases hl : s.lookup key with
  | none => exact get_set
  | some e =>
      simp only
      by_cases hlive : e.live now = true
      · rw [if_pos hlive]
        have hlater : e.live t = true := by
          rcases h with h | h
          · simp [get, hl, hlive] at h
          · by_contra hno
            exact h (by simp [get, hl, hno])
        have hl' : Entry.live t ⟨value, e.deadline⟩ = true := hlater
        simp [get, hl']
      · rw [if_neg hlive]
        exact get_set

/-- A present value stays for the new lifetime. -/
theorem get_expire_of_lt (h : s.get now key = some value) (hlt : t < now + ttl) :
    (s.expire now key ttl).get t key = some value := by
  unfold expire
  cases hl : s.lookup key with
  | none => simp [get, hl] at h
  | some e =>
      simp only [get, hl] at h
      split at h
      · rename_i hlive
        obtain rfl := Option.some.inj h
        have hl' : Entry.live t ⟨e.value, some (now + ttl)⟩ = true := decide_eq_true hlt
        simp [get, hlive, hl']
      · cases h

/-- A new lifetime keeps the value. -/
theorem get_expire (h : 0 < ttl) :
    (s.expire now key ttl).get now key = s.get now key := by
  unfold expire
  split
  · rename_i e he
    split
    · rename_i hlive
      have hl : Entry.live now ⟨e.value, some (now + ttl)⟩ = true :=
        decide_eq_true (by omega)
      simp [get, he, hlive, hl]
    · rfl
  · rfl

theorem get_expire_ne (h : key' ≠ key) :
    (s.expire now key ttl).get t key' = s.get t key' := by
  unfold expire
  split
  · split
    · simp only [get, AList.lookup_insert_ne h]
    · rfl
  · rfl

@[simp] theorem get_remove : (s.remove key).get now key = none := by
  simp [get, remove]

theorem get_remove_ne (h : key' ≠ key) :
    (s.remove key).get t key' = s.get t key' := by
  simp only [get, remove, AList.lookup_erase_ne h]

theorem get_removeAll_of_notMem {keys : List String} (h : key ∉ keys) :
    (s.removeAll keys).get now key = s.get now key := by
  induction keys generalizing s with
  | nil => rfl
  | cons k ks ih =>
      simp only [List.mem_cons, not_or] at h
      have hk : (s.remove k).get now key = s.get now key := get_remove_ne h.1
      rw [removeAll, List.foldl_cons, ← hk]
      exact ih h.2

theorem get_removeAll_of_mem {keys : List String} (h : key ∈ keys) :
    (s.removeAll keys).get now key = none := by
  induction keys generalizing s with
  | nil => simp at h
  | cons k ks ih =>
      rw [removeAll, List.foldl_cons]
      by_cases hks : key ∈ ks
      · exact ih hks
      · obtain rfl : key = k := by simpa [hks] using h
        have hk : ((s.remove key).removeAll ks).get now key =
            (s.remove key).get now key := get_removeAll_of_notMem hks
        rw [removeAll] at hk
        rw [hk, get_remove]

theorem lookup_removeAll (keys : List String) (s : TtlStore ν) :
    (s.removeAll keys).lookup key = if key ∈ keys then none else s.lookup key := by
  induction keys generalizing s with
  | nil => rfl
  | cons k ks ih =>
      rw [removeAll, List.foldl_cons]
      refine (ih (s.remove k)).trans ?_
      by_cases hks : key ∈ ks
      · simp [hks]
      · by_cases hk : key = k
        · subst hk
          simp [hks, remove]
        · simp [hks, hk, remove, AList.lookup_erase_ne hk]

end TtlStore

end AlertTriage.Library
