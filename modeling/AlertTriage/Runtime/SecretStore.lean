import AlertTriage.Runtime.JwtService
import Mathlib.Data.List.AList

/-!
# `services/_runtime/secret_store.py`

The table of service-token secrets: one row for each audience, with the current
secret and the one before it. A transaction is one step, since `rotate` locks its
row. `now` is the time at which the transaction began.
-/

namespace AlertTriage

open Library

structure SecretRow where
  current : String
  previous : Option String
  rotatedAt : ℕ
deriving DecidableEq, Repr

/-- The table `service_secrets`, by its primary key. -/
abbrev SecretStore : Type := AList fun _ : String => SecretRow

namespace SecretStore

/-- The `INSERT … ON CONFLICT DO NOTHING` of `initialize`. -/
def seed (audience secret : String) (now : ℕ) (s : SecretStore) : SecretStore :=
  match s.lookup audience with
  | some _ => s
  | none => s.insert audience ⟨secret, none, now⟩

/-- `rotate`; an audience without a row gets one. -/
def rotate (audience new : String) (now : ℕ) (s : SecretStore) : SecretStore :=
  match s.lookup audience with
  | some row => s.insert audience ⟨new, some row.current, now⟩
  | none => s.insert audience ⟨new, none, now⟩

def getBundle (audience : String) (s : SecretStore) : Option SecretBundle :=
  (s.lookup audience).map fun row => ⟨audience, row.current, row.previous⟩

variable {audience other secret new : String} {now : ℕ} {s : SecretStore}

theorem lookup_seed :
    (s.seed audience secret now).lookup audience =
      some ((s.lookup audience).getD ⟨secret, none, now⟩) := by
  unfold seed
  split
  · rename_i row hrow
    rw [hrow, Option.getD_some]
  · rename_i hrow
    rw [AList.lookup_insert, hrow, Option.getD_none]

theorem lookup_seed_ne (h : other ≠ audience) :
    (s.seed audience secret now).lookup other = s.lookup other := by
  unfold seed
  split
  · rfl
  · exact AList.lookup_insert_ne h

theorem lookup_rotate :
    (s.rotate audience new now).lookup audience =
      some ⟨new, (s.lookup audience).map SecretRow.current, now⟩ := by
  unfold rotate
  split
  · rename_i row hrow
    rw [AList.lookup_insert, hrow, Option.map_some]
  · rename_i hrow
    rw [AList.lookup_insert, hrow, Option.map_none]

theorem lookup_rotate_ne (h : other ≠ audience) :
    (s.rotate audience new now).lookup other = s.lookup other := by
  unfold rotate
  split <;> exact AList.lookup_insert_ne h

/-- What a transaction may do: the row of the audience stays, or takes a new secret and
keeps the one before. -/
structure Shifts (audience new : String) (s s' : SecretStore) : Prop where
  row : ∃ row, s'.lookup audience = some row ∧
    (s.lookup audience = some row ∨
      row.current = new ∧ row.previous = (s.lookup audience).map SecretRow.current)
  others : ∀ other, other ≠ audience → s'.lookup other = s.lookup other

theorem seed_shifts : Shifts audience secret s (s.seed audience secret now) where
  row := by
    refine ⟨_, lookup_seed, ?_⟩
    cases hrow : s.lookup audience with
    | some row => exact .inl rfl
    | none => exact .inr ⟨rfl, rfl⟩
  others _ h := lookup_seed_ne h

theorem rotate_shifts : Shifts audience new s (s.rotate audience new now) where
  row := ⟨_, lookup_rotate, .inr ⟨rfl, rfl⟩⟩
  others _ h := lookup_rotate_ne h

end SecretStore

end AlertTriage
