import AlertTriage.Library.Async
import Mathlib.Data.List.AList
import Mathlib.Logic.Function.Basic

/-!
# Transactions under row locks

A table with a primary key, and sessions that work on it statement by statement, as at the
level "read committed" of a database. `SELECT … FOR UPDATE` and `UPDATE` lock the row they
find, `INSERT` the key it takes; whoever else wants it waits. The others see what a transaction
has written once it is committed, and never if a statement fails or the connection is lost.
A row that is missing cannot be locked, so another session may bring it in.

`Transaction.alone`: the transaction on a table that nobody else uses. Whatever ran in
between, a transaction that has inserted all that it found missing did what it would have done
alone at its commit (`Session.Sound.committed`), so the table is that of the committed
transactions one after the other (`Database.Inv.step`).
-/

namespace AlertTriage.Library

/-- A table by its primary key. -/
abbrev Table (κ ρ : Type) : Type := AList fun _ : κ => ρ

inductive Statement (κ ρ : Type) where
  | selectForUpdate (key : κ)
  | insert (key : κ) (row : ρ)
  /-- `INSERT … ON CONFLICT DO NOTHING`. -/
  | insertIfMissing (key : κ) (row : ρ)
  | update (key : κ) (set : ρ → ρ)

variable {κ ρ α : Type}

namespace Statement

def Reply : Statement κ ρ → Type
  | .selectForUpdate _ => Option ρ
  | _ => Unit

def key : Statement κ ρ → κ
  | .selectForUpdate key => key
  | .insert key _ => key
  | .insertIfMissing key _ => key
  | .update key _ => key

/-- The reply to a statement that finds that row, or none. An `INSERT` of a row that is there
fails. -/
def reply : (c : Statement κ ρ) → Option ρ → Option c.Reply
  | .selectForUpdate _, found => some found
  | .insert _ _, some _ => none
  | .insert _ _, none => some ()
  | .insertIfMissing _ _, _ => some ()
  | .update _ _, _ => some ()

/-- The row that it writes. -/
def write : Statement κ ρ → Option ρ → Option ρ
  | .selectForUpdate _, _ => none
  | .insert _ row, none => some row
  | .insertIfMissing _ row, none => some row
  | .insert _ _, some _ => none
  | .insertIfMissing _ _, some _ => none
  | .update _ set, found => found.map set

/-- Does it take the lock of its key? -/
def locks : Statement κ ρ → Option ρ → Bool
  | .selectForUpdate _, found => found.isSome
  | .update _ _, found => found.isSome
  | .insert _ _, found => found.isNone
  | .insertIfMissing _ _, found => found.isNone

/-- What it writes it has locked. -/
theorem locks_of_write {c : Statement κ ρ} {row : Option ρ} {new : ρ}
    (h : c.write row = some new) : c.locks row = true := by
  cases c with
  | selectForUpdate key => cases h
  | insert key inserted =>
      cases row with
      | none => rfl
      | some found => cases h
  | insertIfMissing key inserted =>
      cases row with
      | none => rfl
      | some found => cases h
  | update key set =>
      cases row with
      | none => cases h
      | some found => rfl

end Statement

/-- A program of statements. A statement that fails ends the transaction, whatever the program
makes of it. -/
abbrev Transaction (κ ρ α : Type) : Type := Async (Statement κ ρ) Statement.Reply α

variable [DecidableEq κ]

namespace Table

def put (key : κ) (row : Option ρ) (t : Table κ ρ) : Table κ ρ :=
  match row with
  | some row => t.insert key row
  | none => t

/-- The table with these rows written into it. -/
def overlay (writes : List (κ × ρ)) (t : Table κ ρ) : Table κ ρ :=
  writes.foldl (fun t w => t.insert w.1 w.2) t

theorem overlay_snoc (writes : List (κ × ρ)) (key : κ) (row : Option ρ) (t : Table κ ρ) :
    overlay (writes ++ row.toList.map (Prod.mk key)) t = (overlay writes t).put key row := by
  cases row with
  | none => simp [put]
  | some row => simp [overlay, put, List.foldl_append]

/-- What is written over a row does not depend on the others. -/
theorem lookup_overlay_congr {writes : List (κ × ρ)} {t t' : Table κ ρ} {key : κ}
    (h : t.lookup key = t'.lookup key) :
    (overlay writes t).lookup key = (overlay writes t').lookup key := by
  induction writes generalizing t t' with
  | nil => exact h
  | cons w writes ih =>
      refine ih ?_
      by_cases hkey : key = w.1
      · subst hkey
        rw [AList.lookup_insert, AList.lookup_insert]
      · rw [AList.lookup_insert_ne hkey, AList.lookup_insert_ne hkey, h]

theorem lookup_overlay_of_notMem {writes : List (κ × ρ)} {t : Table κ ρ} {key : κ}
    (h : ∀ w ∈ writes, w.1 ≠ key) : (overlay writes t).lookup key = t.lookup key := by
  induction writes generalizing t with
  | nil => rfl
  | cons w writes ih =>
      have hrest := ih (t := t.insert w.1 w.2) fun v hv => h v (List.mem_cons_of_mem _ hv)
      rw [overlay, List.foldl_cons, ← overlay, hrest,
        AList.lookup_insert_ne (h w List.mem_cons_self).symm]

theorem lookup_overlay_grows {writes : List (κ × ρ)} {t t' : Table κ ρ} {key : κ}
    (h : t.lookup key ≠ none → t'.lookup key ≠ none)
    (hthere : (overlay writes t).lookup key ≠ none) : (overlay writes t').lookup key ≠ none := by
  induction writes generalizing t t' with
  | nil => exact h hthere
  | cons w writes ih =>
      refine ih (fun hw => ?_) hthere
      by_cases hkey : key = w.1
      · subst hkey
        simp [AList.lookup_insert]
      · rw [AList.lookup_insert_ne hkey] at hw ⊢
        exact h hw

/-- Rows are written over, never taken away. -/
theorem lookup_put_ne_none {t : Table κ ρ} {key other : κ} {row : Option ρ}
    (h : t.lookup other ≠ none) : (t.put key row).lookup other ≠ none := by
  cases row with
  | none => exact h
  | some row =>
      by_cases hkey : other = key
      · subst hkey
        simp [put, AList.lookup_insert]
      · rwa [put, AList.lookup_insert_ne hkey]

theorem lookup_overlay_ne_none {writes : List (κ × ρ)} {t : Table κ ρ} {key : κ}
    (h : t.lookup key ≠ none) : (overlay writes t).lookup key ≠ none := by
  induction writes generalizing t with
  | nil => exact h
  | cons w writes ih =>
      have hput : (t.put w.1 (some w.2)).lookup key ≠ none := lookup_put_ne_none h
      exact ih hput

end Table

open Table

/-- The transaction on a table of its own: its result and the table after it, nothing if it
fails. -/
def Transaction.alone : Transaction κ ρ α → Table κ ρ → Option (α × Table κ ρ)
  | .pure a, t => some (a, t)
  | .raise, _ => none
  | .call c next, t =>
      match c.reply (t.lookup c.key) with
      | some r => Transaction.alone (next (some r)) (t.put c.key (c.write (t.lookup c.key)))
      | none => none

/-! ## §1  Sessions -/

/-- A transaction under way: the program it is, what is left of it, the rows it has written
and the keys among them that it has inserted, those it found missing and those it found. -/
structure Session (κ ρ α : Type) where
  origin : Transaction κ ρ α
  rest : Transaction κ ρ α
  writes : List (κ × ρ)
  inserted : List κ
  missed : List κ
  found : List κ

namespace Session

def start (body : Transaction κ ρ α) : Session κ ρ α := ⟨body, body, [], [], [], []⟩

/-- What the session sees: the committed rows, and over them its own. -/
def view (s : Session κ ρ α) (t : Table κ ρ) : Table κ ρ := t.overlay s.writes

/-- After a statement that found that row. -/
def advance (c : Statement κ ρ) (row : Option ρ) (rest : Transaction κ ρ α)
    (s : Session κ ρ α) : Session κ ρ α :=
  { s with
    rest := rest
    writes := s.writes ++ (c.write row).toList.map (Prod.mk c.key)
    inserted := if row.isNone && c.locks row then c.key :: s.inserted else s.inserted
    missed := if row.isNone && !c.locks row then c.key :: s.missed else s.missed
    found := if row.isSome then c.key :: s.found else s.found }

end Session

/-- `committed` is in the order of the commits, with the results. -/
structure Database (κ ρ α : Type) where
  table : Table κ ρ
  holder : κ → Option ℕ
  sessions : ℕ → Option (Session κ ρ α)
  committed : List (ℕ × Transaction κ ρ α × α)

namespace Database

def start (t : Table κ ρ) : Database κ ρ α := ⟨t, fun _ => none, fun _ => none, []⟩

/-- No other session has the lock. -/
def free (i : ℕ) (key : κ) (db : Database κ ρ α) : Bool := (db.holder key).all (· == i)

/-- The session ends and gives its locks up. -/
def close (i : ℕ) (db : Database κ ρ α) : Database κ ρ α :=
  { db with
    holder := fun key => if db.holder key = some i then none else db.holder key
    sessions := Function.update db.sessions i none }

def begin (i : ℕ) (body : Transaction κ ρ α) (db : Database κ ρ α) : Database κ ρ α :=
  { db with sessions := Function.update db.sessions i (some (.start body)) }

/-- A statement that found that row, and succeeds. -/
def proceed (i : ℕ) (s : Session κ ρ α) (c : Statement κ ρ) (row : Option ρ)
    (rest : Transaction κ ρ α) (db : Database κ ρ α) : Database κ ρ α :=
  { db with
    holder := if c.locks row then Function.update db.holder c.key (some i) else db.holder
    sessions := Function.update db.sessions i (some (s.advance c row rest)) }

/-- The next statement of a session; it waits while another has the lock it needs. -/
def execute (i : ℕ) (db : Database κ ρ α) : Option (Database κ ρ α) :=
  match db.sessions i with
  | some s =>
      match s.rest with
      | .call c next =>
          let row := (s.view db.table).lookup c.key
          if c.locks row && !db.free i c.key then none
          else
            match c.reply row with
            | some r => some (db.proceed i s c row (next (some r)))
            | none => some (db.close i)
      | _ => none
  | none => none

/-- The program has come to its end. -/
def commit (i : ℕ) (db : Database κ ρ α) : Option (Database κ ρ α) :=
  match db.sessions i with
  | some s =>
      match s.rest with
      | .pure a => some { db.close i with
          table := s.view db.table
          committed := db.committed ++ [(i, s.origin, a)] }
      | _ => none
  | none => none

end Database

/-! ## §2  Alone at the commit -/

/-- Whatever the program finds, each row that it misses it inserts before its end, if it has
inserted, missed and found those so far. -/
def Transaction.Settles : List κ → List κ → List κ → Transaction κ ρ α → Prop
  | inserted, missed, _, .pure _ => missed ⊆ inserted
  | _, _, _, .raise => True
  | inserted, missed, found, .call c next => ∀ row r, c.reply row = some r →
      (c.key ∈ found → row ≠ none) →
        Transaction.Settles
          (if row.isNone && c.locks row then c.key :: inserted else inserted)
          (if row.isNone && !c.locks row then c.key :: missed else missed)
          (if row.isSome then c.key :: found else found) (next (some r))

/-- A table that may be there at the commit: no row has gone, those that are locked are as they
are, and those found missing are missing. -/
structure Agrees (i : ℕ) (s : Session κ ρ α) (db : Database κ ρ α) (t : Table κ ρ) : Prop where
  locked : ∀ key, db.holder key = some i → t.lookup key = db.table.lookup key
  missed : ∀ key ∈ s.missed, t.lookup key = none
  grown : ∀ key, db.table.lookup key ≠ none → t.lookup key ≠ none

/-- What a session keeps to. -/
structure Session.Sound (i : ℕ) (s : Session κ ρ α) (db : Database κ ρ α) : Prop where
  written : ∀ w ∈ s.writes, db.holder w.1 = some i
  inserted : ∀ key ∈ s.inserted, db.holder key = some i ∧ db.table.lookup key = none
  found : ∀ key ∈ s.found, (s.view db.table).lookup key ≠ none
  settles : s.rest.Settles s.inserted s.missed s.found
  alone : ∀ t, Agrees i s db t → Transaction.alone s.origin t =
    Transaction.alone s.rest (s.view t)

/-- One after the other, each on the table that the one before has left. -/
inductive Serial (t : Table κ ρ) : List (ℕ × Transaction κ ρ α × α) → Table κ ρ → Prop where
  | nil : Serial t [] t
  | snoc {done : List (ℕ × Transaction κ ρ α × α)} {t' t'' : Table κ ρ} {i : ℕ}
      {body : Transaction κ ρ α} {a : α} : Serial t done t' →
      Transaction.alone body t' = some (a, t'') → Serial t (done ++ [(i, body, a)]) t''

/-- Every session is sound, and the table is that of a serial execution. -/
structure Database.Inv (t : Table κ ρ) (db : Database κ ρ α) : Prop where
  sound : ∀ i s, db.sessions i = some s → s.Sound i db
  serial : Serial t db.committed db.table

variable {i j : ℕ} {s : Session κ ρ α} {db db' : Database κ ρ α} {t : Table κ ρ}

theorem Session.sound_start {body : Transaction κ ρ α} (h : body.Settles [] [] []) :
    (Session.start body).Sound i db where
  written _ hw := by cases hw
  inserted _ hkey := by cases hkey
  found _ hkey := by cases hkey
  settles := h
  alone _ _ := rfl

/-- **The commit**: the transaction has done what it would have done alone now. -/
theorem Session.Sound.committed (h : s.Sound i db) {a : α} (hrest : s.rest = .pure a) :
    Transaction.alone s.origin db.table = some (a, s.view db.table) := by
  have hsettled : s.missed ⊆ s.inserted := by
    have hsettles := h.settles
    rwa [hrest] at hsettles
  have hagrees : Agrees i s db db.table :=
    ⟨fun _ _ => rfl, fun key hkey => (h.inserted key (hsettled hkey)).2, fun _ hkey => hkey⟩
  rw [h.alone _ hagrees, hrest]
  rfl

/-- A row that a statement of the session finds is what it would find alone, as far as the
statement looks. -/
theorem Session.Sound.same_row (h : s.Sound i db) {c : Statement κ ρ} {row : Option ρ}
    (hrow : (s.view db.table).lookup c.key = row) {r : c.Reply} (hr : c.reply row = some r)
    {rest : Transaction κ ρ α}
    (hagrees : Agrees i (s.advance c row rest) (db.proceed i s c row rest) t) :
    c.reply ((s.view t).lookup c.key) = some r ∧
      c.write ((s.view t).lookup c.key) = c.write row := by
  by_cases hlocks : c.locks row = true
  · -- its lock keeps the row as it is
    have hlocked : t.lookup c.key = db.table.lookup c.key := by
      refine hagrees.locked c.key ?_
      simp [Database.proceed, hlocks]
    rw [Session.view, lookup_overlay_congr hlocked, ← Session.view, hrow]
    exact ⟨hr, rfl⟩
  · cases row with
    | none =>
        -- it is missing, and missing it stays
        have hmissed : t.lookup c.key = none := by
          refine hagrees.missed c.key ?_
          simp [Session.advance, hlocks]
        have htable : db.table.lookup c.key = none := by
          by_contra hsome
          exact lookup_overlay_ne_none hsome hrow
        rw [Session.view, lookup_overlay_congr (hmissed.trans htable.symm), ← Session.view, hrow]
        exact ⟨hr, rfl⟩
    | some found =>
        -- only an insertion that finds a row goes on without a lock
        cases c with
        | selectForUpdate key => exact absurd rfl hlocks
        | update key set => exact absurd rfl hlocks
        | insert key new => cases hr
        | insertIfMissing key new =>
            have hthere : (s.view t).lookup key ≠ none := by
              by_cases hholder : db.holder key = some i
              · have hlocked : t.lookup key = db.table.lookup key :=
                  hagrees.locked key (by simpa [Database.proceed, Statement.locks] using hholder)
                rw [Session.view, lookup_overlay_congr hlocked, ← Session.view]
                exact fun hnone => by cases hrow.symm.trans hnone
              · have hown : ∀ w ∈ s.writes, w.1 ≠ key := fun w hw heq =>
                  hholder (heq ▸ h.written w hw)
                have htable : db.table.lookup key = some found :=
                  (lookup_overlay_of_notMem hown).symm.trans hrow
                rw [Session.view, lookup_overlay_of_notMem hown]
                exact hagrees.grown key fun hnone => by cases htable.symm.trans hnone
            obtain ⟨other, hother⟩ := Option.ne_none_iff_exists'.mp hthere
            rw [show (Statement.insertIfMissing key new : Statement κ ρ).key = key from rfl, hother]
            exact ⟨rfl, rfl⟩

/-! ## §3  Every step -/

/-- The session itself, over a statement. -/
theorem Session.Sound.advance (h : s.Sound i db) {c : Statement κ ρ}
    {next : Option c.Reply → Transaction κ ρ α} (hrest : s.rest = .call c next) {row : Option ρ}
    (hrow : (s.view db.table).lookup c.key = row) {r : c.Reply} (hr : c.reply row = some r) :
    (s.advance c row (next (some r))).Sound i (db.proceed i s c row (next (some r))) := by
  have hheld {key : κ} (hkey : db.holder key = some i) :
      (db.proceed i s c row (next (some r))).holder key = some i := by
    dsimp only [Database.proceed]
    split
    · by_cases heq : key = c.key
      · rw [heq, Function.update_self]
      · rw [Function.update_of_ne heq, hkey]
    · exact hkey
  have hlocked (hlocks : c.locks row = true) :
      (db.proceed i s c row (next (some r))).holder c.key = some i := by
    dsimp only [Database.proceed]
    rw [if_pos hlocks, Function.update_self]
  have hview (t : Table κ ρ) :
      (s.advance c row (next (some r))).view t = (s.view t).put c.key (c.write row) :=
    overlay_snoc s.writes c.key (c.write row) t
  constructor
  · intro w hw
    rcases List.mem_append.mp hw with hold | hnew
    · exact hheld (h.written w hold)
    · obtain ⟨new, hwrite, rfl⟩ := List.mem_map.mp hnew
      exact hlocked (Statement.locks_of_write (Option.mem_toList.mp hwrite))
  · intro key hkey
    dsimp only [Session.advance] at hkey
    split at hkey
    · rename_i hinserts
      obtain ⟨hnone, hlocks⟩ := Bool.and_eq_true_iff.mp hinserts
      rcases List.mem_cons.mp hkey with rfl | hold
      · refine ⟨hlocked hlocks, ?_⟩
        by_contra hsome
        obtain rfl := Option.isNone_iff_eq_none.mp hnone
        exact lookup_overlay_ne_none hsome hrow
      · exact ⟨hheld (h.inserted key hold).1, (h.inserted key hold).2⟩
    · exact ⟨hheld (h.inserted key hkey).1, (h.inserted key hkey).2⟩
  · intro key hkey
    dsimp only [Database.proceed]
    rw [hview]
    refine lookup_put_ne_none ?_
    dsimp only [Session.advance] at hkey
    split at hkey
    · rename_i hsome
      rcases List.mem_cons.mp hkey with rfl | hold
      · rw [hrow]
        exact Option.isSome_iff_ne_none.mp hsome
      · exact h.found key hold
    · exact h.found key hkey
  · have hsettles := h.settles
    rw [hrest] at hsettles
    exact hsettles row r hr fun hfound => hrow ▸ h.found _ hfound
  · intro t hagrees
    have hbefore : Agrees i s db t := by
      refine ⟨fun key hkey => hagrees.locked key (hheld hkey), fun key hkey => ?_, hagrees.grown⟩
      refine hagrees.missed key ?_
      dsimp only [Session.advance]
      split
      · exact List.mem_cons_of_mem _ hkey
      · exact hkey
    obtain ⟨hreply, hwrite⟩ := h.same_row hrow hr hagrees
    change Transaction.alone s.origin t = _
    rw [h.alone t hbefore, hrest, Transaction.alone, hreply, hview, hwrite]
    rfl

/-- Another session, where its own locks, and the rows under them, are left as they are. -/
theorem Session.Sound.frame (h : s.Sound i db)
    (hholder : ∀ key, db'.holder key = some i ↔ db.holder key = some i)
    (hlocked : ∀ key, db.holder key = some i → db'.table.lookup key = db.table.lookup key)
    (hgrown : ∀ key, db.table.lookup key ≠ none → db'.table.lookup key ≠ none) :
    s.Sound i db' where
  written w hw := (hholder _).mpr (h.written w hw)
  inserted key hkey := by
    obtain ⟨hheld, hnone⟩ := h.inserted key hkey
    exact ⟨(hholder key).mpr hheld, (hlocked key hheld).trans hnone⟩
  found key hkey := lookup_overlay_grows (hgrown key) (h.found key hkey)
  settles := h.settles
  alone t hagrees := h.alone t
    ⟨fun key hkey => (hagrees.locked key ((hholder key).mpr hkey)).trans (hlocked key hkey),
      hagrees.missed, fun key hkey => hagrees.grown key (hgrown key hkey)⟩

namespace Database

omit [DecidableEq κ] in
theorem sessions_update {x : Option (Session κ ρ α)}
    (h : Function.update db.sessions i x j = some s) :
    j = i ∧ x = some s ∨ j ≠ i ∧ db.sessions j = some s := by
  by_cases hj : j = i
  · subst hj
    rw [Function.update_self] at h
    exact .inl ⟨rfl, h⟩
  · rw [Function.update_of_ne hj] at h
    exact .inr ⟨hj, h⟩

theorem Inv.start : Inv t (start t : Database κ ρ α) where
  sound _ _ h := by cases h
  serial := .nil

theorem Inv.begin (h : Inv t db) {body : Transaction κ ρ α} (hbody : body.Settles [] [] []) :
    Inv t (db.begin i body) where
  sound j s hs := by
    rcases sessions_update hs with ⟨rfl, hown⟩ | ⟨-, hold⟩
    · obtain rfl := Option.some.inj hown
      exact Session.sound_start hbody
    · exact (h.sound j s hold).frame (fun _ => Iff.rfl) (fun _ _ => rfl) fun _ hkey => hkey
  serial := h.serial

omit [DecidableEq κ] in
theorem holder_close (hj : j ≠ i) (key : κ) :
    (db.close i).holder key = some j ↔ db.holder key = some j := by
  dsimp only [close]
  split
  · rename_i hi
    rw [hi]
    simp [hj.symm]
  · rfl

theorem Inv.close (h : Inv t db) : Inv t (db.close i) where
  sound j s hs := by
    rcases sessions_update hs with ⟨rfl, hown⟩ | ⟨hj, hold⟩
    · cases hown
    · exact (h.sound j s hold).frame (holder_close hj) (fun _ _ => rfl) fun _ hkey => hkey
  serial := h.serial

/-- What a statement comes to: it succeeds, or it fails and the session with it. -/
theorem execute_cases (h : db.execute i = some db') :
    ∃ s c next, db.sessions i = some s ∧ s.rest = .call c next ∧
      ((∃ row r, (s.view db.table).lookup c.key = row ∧ c.reply row = some r ∧
          (c.locks row = true → db.free i c.key = true) ∧
          db' = db.proceed i s c row (next (some r))) ∨
        c.reply ((s.view db.table).lookup c.key) = none ∧ db' = db.close i) := by
  unfold execute at h
  split at h
  · rename_i s hs
    split at h
    · rename_i c next hrest
      dsimp only at h
      split at h
      · cases h
      · rename_i hfree
        refine ⟨s, c, next, hs, hrest, ?_⟩
        split at h
        · rename_i r hr
          refine .inl ⟨_, r, rfl, hr, fun hlocks => ?_, (Option.some.inj h).symm⟩
          simpa [hlocks] using hfree
        · rename_i hr
          exact .inr ⟨hr, (Option.some.inj h).symm⟩
    · cases h
  · cases h

theorem Inv.execute (h : Inv t db) (hstep : db.execute i = some db') : Inv t db' := by
  obtain ⟨s, c, next, hs, hrest, ⟨row, r, hrow, hr, hfree, rfl⟩ | ⟨-, rfl⟩⟩ := execute_cases hstep
  · refine ⟨fun j other hother => ?_, h.serial⟩
    rcases sessions_update hother with ⟨rfl, hown⟩ | ⟨hj, hold⟩
    · obtain rfl := Option.some.inj hown
      exact (h.sound j s hs).advance hrest hrow hr
    · refine (h.sound j other hold).frame (fun key => ?_) (fun _ _ => rfl) fun _ hkey => hkey
      -- a lock that is free is not the other session's
      dsimp only [proceed]
      split
      · rename_i hlocks
        by_cases hkey : key = c.key
        · subst hkey
          rw [Function.update_self]
          have hnone := hfree hlocks
          constructor
          · intro hi
            exact absurd (Option.some.inj hi).symm hj
          · intro hheld
            rw [free, hheld] at hnone
            exact absurd (by simpa using hnone) hj
        · rw [Function.update_of_ne hkey]
      · rfl
  · exact h.close

theorem commit_cases (h : db.commit i = some db') : ∃ s a, db.sessions i = some s ∧
    s.rest = .pure a ∧ db' = { db.close i with
      table := s.view db.table
      committed := db.committed ++ [(i, s.origin, a)] } := by
  unfold commit at h
  split at h
  · rename_i s hs
    split at h
    · rename_i a hrest
      exact ⟨s, a, hs, hrest, (Option.some.inj h).symm⟩
    · cases h
  · cases h

/-- **A commit** appends the transaction to the serial execution. -/
theorem Inv.commit (h : Inv t db) (hstep : db.commit i = some db') : Inv t db' := by
  obtain ⟨s, a, hs, hrest, rfl⟩ := commit_cases hstep
  refine ⟨fun j other hother => ?_, h.serial.snoc ((h.sound i s hs).committed hrest)⟩
  rcases sessions_update hother with ⟨rfl, hown⟩ | ⟨hj, hold⟩
  · cases hown
  · refine (h.sound j other hold).frame (holder_close hj) (fun key hkey => ?_)
      fun key hkey => lookup_overlay_ne_none hkey
    -- what is written was locked, so no other session has its lock
    refine lookup_overlay_of_notMem fun w hw heq => hj ?_
    have hheld := (h.sound i s hs).written w hw
    rw [heq, hkey] at hheld
    exact Option.some.inj hheld

end Database

end AlertTriage.Library
