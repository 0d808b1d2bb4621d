import AlertTriage.Library.Json
import AlertTriage.Library.TtlStore

/-!
# Hashes and sets that expire

The keys of a Redis server that hold hashes and sets. A lifetime belongs to the
whole key: adding to a key keeps it, and a key that a write creates has none
until it is given one. A set that loses its last member goes, and so does a key
whose new lifetime is not positive. `multi` runs commands as one block.

What a client can see of a key is its `view`; each command changes the view of
its own key and of no other (`view_exec`), and time only takes views away
(`view_advance`). Where every key is used as one type, the members of a set and
the fields of a hash change as plain lists do (`smembers_multi`,
`hgetall_multi`). What `Lasts` until a limit lasts through every block that
spares its key (`Lasts.foldl`).
-/

namespace AlertTriage.Library

inductive Collection where
  | hash (fields : List (String × String))
  | set (members : List String)
deriving DecidableEq, Repr

/-- A collection of the type of its key, with something in it. -/
def Collection.Fits (isHash : Prop) : Collection → Prop
  | .hash fields => isHash ∧ fields ≠ []
  | .set members => ¬ isHash ∧ members ≠ []

abbrev Keyspace := TtlStore Collection

namespace Keyspace

inductive Command where
  | hset (key : String) (fields : List (String × String))
  | sadd (key member : String)
  | srem (key member : String)
  | expire (key : String) (seconds : ℕ)
  | del (key : String)
deriving DecidableEq, Repr

def Command.key : Command → String
  | .hset key _ => key
  | .sadd key _ => key
  | .srem key _ => key
  | .expire key _ => key
  | .del key => key

/-- The fields of a hash with new ones written over them. -/
def mergeFields (fields old : List (String × String)) : List (String × String) :=
  fields.foldl (fun d f => Json.upsert f.1 f.2 d) old

def addMember (member : String) (members : List String) : List String :=
  if member ∈ members then members else members ++ [member]

theorem mem_addMember {m m' : String} {l : List String} :
    m ∈ addMember m' l ↔ m = m' ∨ m ∈ l := by
  unfold addMember
  split
  · rename_i h
    constructor
    · exact .inr
    · rintro (rfl | hm)
      · exact h
      · exact hm
  · simp [or_comm]

/-- What the command makes of its key, at a time; a command of the wrong type
changes nothing. -/
def Command.update (now : ℕ) :
    Command → Option (Entry Collection) → Option (Entry Collection)
  | .hset _ fields, none => some ⟨.hash (mergeFields fields []), none⟩
  | .hset _ fields, some ⟨.hash old, deadline⟩ =>
      some ⟨.hash (mergeFields fields old), deadline⟩
  | .sadd _ member, none => some ⟨.set [member], none⟩
  | .sadd _ member, some ⟨.set members, deadline⟩ =>
      some ⟨.set (addMember member members), deadline⟩
  | .srem _ member, some ⟨.set members, deadline⟩ =>
      if members.filter (· ≠ member) = [] then none
      else some ⟨.set (members.filter (· ≠ member)), deadline⟩
  | .expire _ seconds, some e =>
      if seconds = 0 then none else some ⟨e.value, some (now + seconds * second)⟩
  | .del _, _ => none
  | _, e => e

/-- What the command makes of any key. -/
def Command.updateAt (now : ℕ) (key : String) (o : Option (Entry Collection))
    (c : Command) : Option (Entry Collection) :=
  if key = c.key then c.update now o else o

/-- The entry of a key that has not expired. -/
def view (now : ℕ) (key : String) (s : Keyspace) : Option (Entry Collection) :=
  (s.lookup key).filter (Entry.live now)

def exec (now : ℕ) (c : Command) (s : Keyspace) : Keyspace :=
  match c.update now (view now c.key s) with
  | some e => s.insert c.key e
  | none => s.erase c.key

/-- A `MULTI` block. -/
def multi (now : ℕ) (cs : List Command) (s : Keyspace) : Keyspace :=
  cs.foldl (fun s c => exec now c s) s

def fieldsOf : Option (Entry Collection) → List (String × String)
  | some ⟨.hash fields, _⟩ => fields
  | _ => []

def membersOf : Option (Entry Collection) → List String
  | some ⟨.set members, _⟩ => members
  | _ => []

/-- `HGETALL`; no fields when there is no hash. -/
def hgetall (now : ℕ) (key : String) (s : Keyspace) : List (String × String) :=
  fieldsOf (view now key s)

/-- `SMEMBERS`. -/
def smembers (now : ℕ) (key : String) (s : Keyspace) : List String :=
  membersOf (view now key s)

/-! ## Views -/

variable {now : ℕ} {key : String} {s : Keyspace} {c : Command}

theorem live_of_view {e : Entry Collection} (h : view now key s = some e) :
    e.live now = true :=
  (Option.filter_eq_some_iff.mp h).2

/-- No command leaves an expired entry behind. -/
theorem update_live {o : Option (Entry Collection)}
    (h : ∀ e, o = some e → e.live now = true) :
    ∀ e, c.update now o = some e → e.live now = true := by
  -- an entry that only changes its value lives as long as it did
  have keep : ∀ (v w : Collection) (d : Option ℕ), o = some ⟨v, d⟩ →
      Entry.live now (Entry.mk w d) = true := fun v _ d hv => h ⟨v, d⟩ hv
  intro e he
  cases c with
  | hset key fields =>
      match o, keep with
      | none, _ => obtain rfl := Option.some.inj he; rfl
      | some ⟨.hash old, d⟩, keep =>
          obtain rfl := Option.some.inj he
          exact keep _ _ _ rfl
      | some ⟨.set old, d⟩, keep =>
          obtain rfl := Option.some.inj he
          exact keep _ _ _ rfl
  | sadd key member =>
      match o, keep with
      | none, _ => obtain rfl := Option.some.inj he; rfl
      | some ⟨.hash old, d⟩, keep =>
          obtain rfl := Option.some.inj he
          exact keep _ _ _ rfl
      | some ⟨.set old, d⟩, keep =>
          obtain rfl := Option.some.inj he
          exact keep _ _ _ rfl
  | srem key member =>
      match o, keep with
      | none, _ => cases he
      | some ⟨.hash old, d⟩, keep =>
          obtain rfl := Option.some.inj he
          exact keep _ _ _ rfl
      | some ⟨.set old, d⟩, keep =>
          simp only [Command.update] at he
          split at he
          · cases he
          · obtain rfl := Option.some.inj he
            exact keep _ _ _ rfl
  | expire key seconds =>
      match o with
      | none => cases he
      | some old =>
          simp only [Command.update] at he
          split at he
          · cases he
          · rename_i hpos
            obtain rfl := Option.some.inj he
            have hsecond : 0 < seconds * second :=
              Nat.mul_pos (Nat.pos_of_ne_zero hpos) (by decide)
            exact decide_eq_true (by omega)
  | del key => cases he

/-- **One command** changes the view of its own key. -/
theorem view_exec (now : ℕ) (key : String) (c : Command) (s : Keyspace) :
    view now key (exec now c s) = c.updateAt now key (view now key s) := by
  unfold exec Command.updateAt
  by_cases h : key = c.key
  · subst h
    rw [if_pos rfl]
    cases hu : c.update now (view now c.key s) with
    | none => simp [view, AList.lookup_erase]
    | some e =>
        have hlive := update_live (fun e he => live_of_view he) e hu
        simp [view, hlive]
  · rw [if_neg h]
    cases c.update now (view now c.key s) with
    | none => simp [view, AList.lookup_erase_ne h]
    | some e => simp [view, AList.lookup_insert_ne h]

/-- **A block** runs on the view of each key on its own. -/
theorem view_multi (now : ℕ) (key : String) (cs : List Command) (s : Keyspace) :
    view now key (multi now cs s) =
      cs.foldl (Command.updateAt now key) (view now key s) := by
  induction cs generalizing s with
  | nil => rfl
  | cons c cs ih =>
      show view now key (multi now cs (exec now c s)) = _
      rw [ih, view_exec, List.foldl_cons]

theorem live_of_later {e : Entry Collection} {d : ℕ}
    (h : e.live (now + d) = true) : e.live now = true := by
  unfold Entry.live at h ⊢
  cases hd : e.deadline with
  | none => rfl
  | some t =>
      simp only [hd, decide_eq_true_eq] at h ⊢
      omega

/-- Time only takes entries away. -/
theorem view_advance (now d : ℕ) (key : String) (s : Keyspace) :
    view (now + d) key s = (view now key s).filter (Entry.live (now + d)) := by
  have hlive : ∀ e : Entry Collection,
      (e.live now && e.live (now + d)) = e.live (now + d) := by
    intro e
    cases h : e.live (now + d) with
    | true => rw [live_of_later h]; rfl
    | false => exact Bool.and_false _
  simp only [view, Option.filter_filter, hlive]

/-! ## Lifetimes -/

/-- The entry, if there is one, has a deadline. -/
def Timed (o : Option (Entry Collection)) : Prop :=
  ∀ e, o = some e → e.deadline ≠ none

variable {o : Option (Entry Collection)}

theorem timed_expire (now n : ℕ) (key : String) (o : Option (Entry Collection)) :
    Timed ((Command.expire key n).update now o) := by
  intro e he
  cases o with
  | none => cases he
  | some old =>
      simp only [Command.update] at he
      split at he
      · cases he
      · obtain rfl := Option.some.inj he
        exact Option.some_ne_none _

theorem timed_srem (h : Timed o) (now : ℕ) (key m : String) :
    Timed ((Command.srem key m).update now o) := by
  intro e he
  match o, h with
  | none, _ => cases he
  | some ⟨.hash fields, d⟩, h => exact h e he
  | some ⟨.set members, d⟩, h =>
      have hd : d ≠ none := h _ rfl
      simp only [Command.update] at he
      split at he
      · cases he
      · obtain rfl := Option.some.inj he
        exact hd

/-- A write to a key that is there keeps its deadline. -/
theorem timed_hset (h : Timed o) (hsome : o ≠ none) (now : ℕ) (key : String)
    (fields : List (String × String)) :
    Timed ((Command.hset key fields).update now o) := by
  intro e he
  match o, h with
  | none, _ => exact absurd rfl hsome
  | some ⟨.hash old, d⟩, h =>
      have hd : d ≠ none := h _ rfl
      obtain rfl := Option.some.inj he
      exact hd
  | some ⟨.set members, d⟩, h => exact h e he

/-- Removals from sets, new lifetimes and deletions leave no key without a
deadline. -/
theorem timed_foldl {cs : List Command}
    (h : ∀ c ∈ cs, (∃ m, c = .srem c.key m) ∨ (∃ n, c = .expire c.key n) ∨
      c = .del c.key) (ho : Timed o) :
    Timed (cs.foldl (Command.updateAt now key) o) := by
  induction cs generalizing o with
  | nil => exact ho
  | cons c cs ih =>
      refine ih (fun x hx => h x (List.mem_cons_of_mem _ hx)) ?_
      unfold Command.updateAt
      by_cases hk : key = c.key
      · rw [if_pos hk]
        rcases h c List.mem_cons_self with ⟨m, hc⟩ | ⟨n, hc⟩ | hc
        · rw [hc]
          exact timed_srem ho now _ m
        · rw [hc]
          exact timed_expire now n _ o
        · rw [hc]
          exact fun _ he => by cases he
      · rwa [if_neg hk]

/-- Writes, each with its new lifetime behind it, leave no key without one. -/
theorem timed_writes (n : ℕ) (writes : List Command) (ho : Timed o) :
    Timed ((writes.flatMap fun c => [c, .expire c.key n]).foldl
      (Command.updateAt now key) o) := by
  induction writes generalizing o with
  | nil => exact ho
  | cons c cs ih =>
      apply ih
      show Timed (Command.updateAt now key (Command.updateAt now key o c)
        (.expire c.key n))
      have hkey : (Command.expire c.key n).key = c.key := rfl
      unfold Command.updateAt
      rw [hkey]
      by_cases hk : key = c.key
      · rw [if_pos hk, if_pos hk]
        exact timed_expire _ _ _ _
      · rwa [if_neg hk, if_neg hk]

/-! ## Members are listed once -/

/-- No set lists a member twice. -/
def SetsNodup (s : Keyspace) : Prop :=
  ∀ key e, s.lookup key = some e → (membersOf (some e)).Nodup

theorem SetsNodup.empty : SetsNodup (∅ : Keyspace) := fun _ _ h => by cases h

theorem nodup_addMember {m : String} {l : List String} (h : l.Nodup) :
    (addMember m l).Nodup := by
  unfold addMember
  split
  · exact h
  · rename_i hm
    refine List.nodup_append.mpr ⟨h, List.nodup_singleton m, ?_⟩
    rintro x hx y hy rfl
    exact hm (List.mem_singleton.mp hy ▸ hx)

theorem nodup_update (h : ∀ e, o = some e → (membersOf (some e)).Nodup)
    {e : Entry Collection} (he : c.update now o = some e) : (membersOf (some e)).Nodup := by
  cases c with
  | hset key fields =>
      match o, h with
      | none, _ => obtain rfl := Option.some.inj he; exact List.nodup_nil
      | some ⟨.hash old, d⟩, _ => obtain rfl := Option.some.inj he; exact List.nodup_nil
      | some ⟨.set old, d⟩, h => exact h e he
  | sadd key member =>
      match o, h with
      | none, _ => obtain rfl := Option.some.inj he; exact List.nodup_singleton member
      | some ⟨.hash old, d⟩, h => exact h e he
      | some ⟨.set old, d⟩, h =>
          obtain rfl := Option.some.inj he
          exact nodup_addMember (h _ rfl)
  | srem key member =>
      match o, h with
      | none, _ => cases he
      | some ⟨.hash old, d⟩, h => exact h e he
      | some ⟨.set old, d⟩, h =>
          simp only [Command.update] at he
          split at he
          · cases he
          · obtain rfl := Option.some.inj he
            exact (h _ rfl).filter _
  | expire key seconds =>
      match o, h with
      | none, _ => cases he
      | some ⟨v, d⟩, h =>
          simp only [Command.update] at he
          split at he
          · cases he
          · obtain rfl := Option.some.inj he
            cases v with
            | hash fields => exact List.nodup_nil
            | set members => exact h ⟨.set members, d⟩ rfl
  | del key => cases he

theorem SetsNodup.exec (hs : SetsNodup s) (now : ℕ) (c : Command) :
    SetsNodup (exec now c s) := by
  intro key e he
  unfold Keyspace.exec at he
  cases hu : c.update now (view now c.key s) with
  | none =>
      rw [hu] at he
      by_cases hk : key = c.key
      · rw [hk, AList.lookup_erase] at he
        cases he
      · exact hs key e (by rwa [AList.lookup_erase_ne hk] at he)
  | some e' =>
      rw [hu] at he
      by_cases hk : key = c.key
      · rw [hk, AList.lookup_insert] at he
        obtain rfl := Option.some.inj he
        refine nodup_update ?_ hu
        intro old hold
        exact hs _ old (Option.filter_eq_some_iff.mp hold).1
      · exact hs key e (by rwa [AList.lookup_insert_ne hk] at he)

theorem SetsNodup.multi (hs : SetsNodup s) (now : ℕ) (cs : List Command) :
    SetsNodup (multi now cs s) := by
  induction cs generalizing s with
  | nil => exact hs
  | cons c cs ih => exact ih (hs.exec now c)

theorem SetsNodup.smembers (hs : SetsNodup s) (now : ℕ) (key : String) :
    (smembers now key s).Nodup := by
  unfold Keyspace.smembers
  cases h : view now key s with
  | none => exact List.nodup_nil
  | some e => exact hs key e (Option.filter_eq_some_iff.mp h).1

/-! ## Keys of one type -/

variable {isHash : String → Prop}

/-- Hashes are held under the keys of `isHash`, sets under the others. -/
def WellTyped (isHash : String → Prop) (s : Keyspace) : Prop :=
  ∀ key e, s.lookup key = some e → e.value.Fits (isHash key)

def Command.WellTyped (isHash : String → Prop) : Command → Prop
  | .hset key fields => isHash key ∧ fields ≠ []
  | .sadd key _ => ¬ isHash key
  | .srem key _ => ¬ isHash key
  | _ => True

theorem WellTyped.empty : WellTyped isHash (∅ : Keyspace) :=
  fun _ _ h => by cases h

theorem WellTyped.view (hs : WellTyped isHash s) {e : Entry Collection}
    (h : view now key s = some e) : e.value.Fits (isHash key) :=
  hs key e (Option.filter_eq_some_iff.mp h).1

theorem upsert_ne_nil (f v : String) (l : List (String × String)) :
    Json.upsert f v l ≠ [] := by
  cases l with
  | nil => simp [Json.upsert]
  | cons g l =>
      simp only [Json.upsert]
      split <;> simp

theorem mergeFields_ne_nil {fields old : List (String × String)}
    (h : fields ≠ [] ∨ old ≠ []) : mergeFields fields old ≠ [] := by
  induction fields generalizing old with
  | nil => simpa [mergeFields] using h
  | cons f fields ih => exact ih (.inr (upsert_ne_nil _ _ _))

theorem addMember_ne_nil (m : String) (l : List String) : addMember m l ≠ [] := by
  unfold addMember
  split
  · rename_i h
    exact List.ne_nil_of_mem h
  · simp

theorem WellTyped.update (hs : WellTyped isHash s) (hc : c.WellTyped isHash)
    {e : Entry Collection}
    (h : c.update now (Keyspace.view now c.key s) = some e) :
    e.value.Fits (isHash c.key) := by
  have hview : ∀ e, Keyspace.view now c.key s = some e →
      e.value.Fits (isHash c.key) := fun e he => hs.view he
  generalize Keyspace.view now c.key s = o at h hview
  -- a command of the wrong type leaves the key alone
  cases c with
  | hset key fields =>
      match o with
      | none =>
          obtain rfl := Option.some.inj h
          exact ⟨hc.1, mergeFields_ne_nil (.inl hc.2)⟩
      | some ⟨.hash old, d⟩ =>
          obtain rfl := Option.some.inj h
          exact ⟨hc.1, mergeFields_ne_nil (.inl hc.2)⟩
      | some ⟨.set old, d⟩ => exact hview _ h
  | sadd key member =>
      match o with
      | none =>
          obtain rfl := Option.some.inj h
          exact ⟨hc, List.cons_ne_nil _ _⟩
      | some ⟨.hash old, d⟩ => exact hview _ h
      | some ⟨.set old, d⟩ =>
          obtain rfl := Option.some.inj h
          exact ⟨hc, addMember_ne_nil _ _⟩
  | srem key member =>
      match o with
      | none => cases h
      | some ⟨.hash old, d⟩ => exact hview _ h
      | some ⟨.set old, d⟩ =>
          simp only [Command.update] at h
          split at h
          · cases h
          · rename_i hne
            obtain rfl := Option.some.inj h
            exact ⟨hc, hne⟩
  | expire key seconds =>
      match o with
      | none => cases h
      | some old =>
          simp only [Command.update] at h
          split at h
          · cases h
          · obtain rfl := Option.some.inj h
            exact hview old rfl
  | del key => cases h

theorem WellTyped.exec (hs : WellTyped isHash s) (hc : c.WellTyped isHash) :
    WellTyped isHash (exec now c s) := by
  intro key e he
  unfold Keyspace.exec at he
  by_cases h : key = c.key
  · subst h
    split at he
    · rename_i e' hu
      rw [AList.lookup_insert] at he
      obtain rfl := Option.some.inj he
      exact hs.update hc hu
    · rw [AList.lookup_erase] at he
      cases he
  · split at he
    · rw [AList.lookup_insert_ne h] at he
      exact hs key e he
    · rw [AList.lookup_erase_ne h] at he
      exact hs key e he

theorem WellTyped.multi {cs : List Command} (hs : WellTyped isHash s)
    (hc : ∀ c ∈ cs, c.WellTyped isHash) : WellTyped isHash (multi now cs s) := by
  induction cs generalizing s with
  | nil => exact hs
  | cons c cs ih =>
      exact ih (hs.exec (hc c List.mem_cons_self)) fun x hx =>
        hc x (List.mem_cons_of_mem _ hx)

/-- There are no empty hashes. -/
theorem WellTyped.hgetall_eq_nil_iff (hs : WellTyped isHash s)
    (hkey : isHash key) : hgetall now key s = [] ↔ Keyspace.view now key s = none := by
  unfold hgetall
  constructor
  · intro h
    match hv : Keyspace.view now key s with
    | none => rfl
    | some ⟨.hash fields, d⟩ =>
        rw [hv] at h
        exact absurd h (hs.view hv).2
    | some ⟨.set members, d⟩ => exact absurd hkey (hs.view hv).1
  · intro h
    rw [h]
    rfl

/-- What a command makes of the members of a set. -/
def Command.members (key : String) (l : List String) : Command → List String
  | .sadd k member => if key = k then addMember member l else l
  | .srem k member => if key = k then l.filter (· ≠ member) else l
  | .expire k seconds => if key = k ∧ seconds = 0 then [] else l
  | .del k => if key = k then [] else l
  | .hset _ _ => l

/-- What a command makes of the fields of a hash. -/
def Command.fields (key : String) (l : List (String × String)) :
    Command → List (String × String)
  | .hset k fields => if key = k then mergeFields fields l else l
  | .expire k seconds => if key = k ∧ seconds = 0 then [] else l
  | .del k => if key = k then [] else l
  | .sadd _ _ => l
  | .srem _ _ => l

theorem Command.members_of_ne (h : key ≠ c.key) (l : List String) :
    c.members key l = l := by
  cases c <;> simp_all [Command.members, Command.key]

theorem Command.fields_of_ne (h : key ≠ c.key) (l : List (String × String)) :
    c.fields key l = l := by
  cases c <;> simp_all [Command.fields, Command.key]

theorem fields_foldl_of_ne {cs : List Command} (h : ∀ c ∈ cs, key ≠ c.key)
    (l : List (String × String)) :
    cs.foldl (fun l c => c.fields key l) l = l := by
  induction cs with
  | nil => rfl
  | cons c cs ih =>
      rw [List.foldl_cons, Command.fields_of_ne (h c List.mem_cons_self)]
      exact ih fun x hx => h x (List.mem_cons_of_mem _ hx)

/-- Commands that only take one member out of a set leave the others in. -/
theorem mem_foldl_srem {cs : List Command} {m m' : String}
    (h : ∀ c ∈ cs, key = c.key → c = .srem key m) (l : List String) :
    (m' ∈ cs.foldl (fun l c => c.members key l) l → m' ∈ l) ∧
      (m' ≠ m → m' ∈ l → m' ∈ cs.foldl (fun l c => c.members key l) l) := by
  induction cs generalizing l with
  | nil => exact ⟨id, fun _ => id⟩
  | cons c cs ih =>
      have ih' := ih fun x hx => h x (List.mem_cons_of_mem _ hx)
      rw [List.foldl_cons]
      by_cases hk : key = c.key
      · rw [h c List.mem_cons_self hk, Command.members, if_pos rfl]
        constructor
        · intro hm
          exact (List.mem_filter.mp ((ih' _).1 hm)).1
        · intro hne hm
          exact (ih' _).2 hne (List.mem_filter.mpr ⟨hm, decide_eq_true hne⟩)
      · rw [Command.members_of_ne hk]
        exact ih' l

/-- One of them is enough. -/
theorem not_mem_foldl_srem {cs : List Command} {m : String}
    (h : ∀ c ∈ cs, key = c.key → c = .srem key m) (hm : .srem key m ∈ cs) (l : List String) :
    m ∉ cs.foldl (fun l c => c.members key l) l := by
  obtain ⟨before, after, rfl⟩ := List.append_of_mem hm
  rw [List.foldl_append, List.foldl_cons]
  intro hin
  have hafter := (mem_foldl_srem (fun c hc => h c (by simp [hc])) _).1 hin
  simp [Command.members] at hafter

theorem membersOf_update {o : Option (Entry Collection)}
    (ho : ∀ fields d, o ≠ some ⟨.hash fields, d⟩)
    (hc : ∀ k fields, c ≠ .hset k fields) :
    membersOf (c.update now o) = c.members c.key (membersOf o) := by
  match o, ho with
  | some ⟨.hash fields, d⟩, ho => exact absurd rfl (ho fields d)
  | none, _ =>
      cases c with
      | hset k fields => exact absurd rfl (hc k fields)
      | sadd k member => simp [Command.update, Command.members, membersOf,
          Command.key, addMember]
      | _ => simp [Command.update, Command.members, membersOf, Command.key]
  | some ⟨.set old, d⟩, _ =>
      cases c with
      | hset k fields => exact absurd rfl (hc k fields)
      | srem k member =>
          simp only [Command.update, Command.members, Command.key, if_true]
          split
          · rename_i h
            exact h.symm
          · rfl
      | expire k seconds =>
          simp only [Command.update, Command.members, Command.key, true_and]
          split <;> rfl
      | _ => simp [Command.update, Command.members, membersOf, Command.key]

theorem fieldsOf_update {o : Option (Entry Collection)}
    (ho : ∀ members d, o ≠ some ⟨.set members, d⟩)
    (hc : ∀ k m, c ≠ .sadd k m ∧ c ≠ .srem k m) :
    fieldsOf (c.update now o) = c.fields c.key (fieldsOf o) := by
  match o, ho with
  | some ⟨.set members, d⟩, ho => exact absurd rfl (ho members d)
  | none, _ =>
      cases c with
      | sadd k m => exact absurd rfl (hc k m).1
      | srem k m => exact absurd rfl (hc k m).2
      | _ => simp [Command.update, Command.fields, fieldsOf, Command.key]
  | some ⟨.hash old, d⟩, _ =>
      cases c with
      | sadd k m => exact absurd rfl (hc k m).1
      | srem k m => exact absurd rfl (hc k m).2
      | expire k seconds =>
          simp only [Command.update, Command.fields, Command.key, true_and]
          split <;> rfl
      | _ => simp [Command.update, Command.fields, fieldsOf, Command.key]

theorem smembers_exec (hs : WellTyped isHash s) (hc : c.WellTyped isHash)
    (hkey : ¬ isHash key) :
    smembers now key (exec now c s) = c.members key (smembers now key s) := by
  unfold smembers
  rw [view_exec, Command.updateAt]
  split
  · rename_i h
    subst h
    apply membersOf_update
    · intro fields d hview
      exact hkey (hs.view hview).1
    · rintro k fields rfl
      exact hkey hc.1
  · rename_i h
    exact (Command.members_of_ne h _).symm

theorem hgetall_exec (hs : WellTyped isHash s) (hc : c.WellTyped isHash)
    (hkey : isHash key) :
    hgetall now key (exec now c s) = c.fields key (hgetall now key s) := by
  unfold hgetall
  rw [view_exec, Command.updateAt]
  split
  · rename_i h
    subst h
    apply fieldsOf_update
    · intro members d hview
      exact (hs.view hview).1 hkey
    · intro k m
      constructor
      · rintro rfl
        exact hc hkey
      · rintro rfl
        exact hc hkey
  · rename_i h
    exact (Command.fields_of_ne h _).symm

/-- **The members of a set** after a block. -/
theorem smembers_multi {cs : List Command} (hs : WellTyped isHash s)
    (hc : ∀ c ∈ cs, c.WellTyped isHash) (hkey : ¬ isHash key) :
    smembers now key (multi now cs s) =
      cs.foldl (fun l c => c.members key l) (smembers now key s) := by
  induction cs generalizing s with
  | nil => rfl
  | cons c cs ih =>
      have hhead := hc c List.mem_cons_self
      show smembers now key (multi now cs (exec now c s)) = _
      rw [ih (hs.exec hhead) fun x hx => hc x (List.mem_cons_of_mem _ hx),
        smembers_exec hs hhead hkey, List.foldl_cons]

/-- **The fields of a hash** after a block. -/
theorem hgetall_multi {cs : List Command} (hs : WellTyped isHash s)
    (hc : ∀ c ∈ cs, c.WellTyped isHash) (hkey : isHash key) :
    hgetall now key (multi now cs s) =
      cs.foldl (fun l c => c.fields key l) (hgetall now key s) := by
  induction cs generalizing s with
  | nil => rfl
  | cons c cs ih =>
      have hhead := hc c List.mem_cons_self
      show hgetall now key (multi now cs (exec now c s)) = _
      rw [ih (hs.exec hhead) fun x hx => hc x (List.mem_cons_of_mem _ hx),
        hgetall_exec hs hhead hkey, List.foldl_cons]

/-! ## Entries that last -/

/-- There is an entry, its value has `P`, and it is not gone before `limit`. -/
def Lasts (limit : ℕ) (P : Collection → Prop) (o : Option (Entry Collection)) : Prop :=
  ∃ e, o = some e ∧ P e.value ∧ ∀ t, e.deadline = some t → limit ≤ t

/-- Whatever has `P` and lasts until `limit` does so after the command. -/
def Command.Spares (now limit : ℕ) (P : Collection → Prop) (c : Command) : Prop :=
  ∀ o, Lasts limit P o → Lasts limit P (c.update now o)

/-- The value is a set with the member. -/
def HasMember (m : String) (v : Collection) : Prop := ∃ members, v = .set members ∧ m ∈ members

section Lasting

variable {limit limit' : ℕ} {P : Collection → Prop} {m m' : String}

theorem Lasts.mono (h : Lasts limit P o) (hle : limit' ≤ limit) : Lasts limit' P o := by
  obtain ⟨e, he, hp, hlast⟩ := h
  exact ⟨e, he, hp, fun t ht => Nat.le_trans hle (hlast t ht)⟩

/-- A block that spares its key leaves what lasts. -/
theorem Lasts.foldl {cs : List Command} (h : Lasts limit P o)
    (hcs : ∀ c ∈ cs, key = c.key → c.Spares now limit P) :
    Lasts limit P (cs.foldl (Command.updateAt now key) o) := by
  induction cs generalizing o with
  | nil => exact h
  | cons c cs ih =>
      refine ih ?_ fun x hx => hcs x (List.mem_cons_of_mem _ hx)
      unfold Command.updateAt
      split
      · rename_i hkey
        exact hcs c List.mem_cons_self hkey o h
      · exact h

/-- What lasts is still there before its limit. -/
theorem Lasts.filter (h : Lasts limit P o) {t : ℕ} (ht : t < limit) :
    o.filter (Entry.live t) = o := by
  obtain ⟨e, rfl, -, hlast⟩ := h
  have hlive : e.live t = true := by
    unfold Entry.live
    cases hd : e.deadline with
    | none => rfl
    | some d => exact decide_eq_true (Nat.lt_of_lt_of_le ht (hlast d hd))
  rw [Option.filter_some, if_pos hlive]

/-- A new lifetime, whatever was left of the old one. -/
theorem Lasts.expire (h : Lasts limit P o) (now : ℕ) (key : String) {n : ℕ} (hpos : n ≠ 0) :
    Lasts (now + n * second) P ((Command.expire key n).update now o) := by
  obtain ⟨e, rfl, hp, -⟩ := h
  refine ⟨⟨e.value, some (now + n * second)⟩, ?_, hp, ?_⟩
  · simp [Command.update, hpos]
  · intro t ht
    exact Nat.le_of_eq (Option.some.inj ht)

/-- A new lifetime that does not end earlier. -/
theorem spares_expire {n : ℕ} (hpos : n ≠ 0) (hle : limit ≤ now + n * second) :
    (Command.expire key n).Spares now limit P :=
  fun _ h => (h.expire now key hpos).mono hle

theorem spares_sadd : (Command.sadd key m').Spares now limit (HasMember m) := by
  rintro o ⟨⟨v, d⟩, rfl, ⟨members, rfl, hm⟩, hlast⟩
  exact ⟨⟨.set (addMember m' members), d⟩, rfl, ⟨_, rfl, mem_addMember.mpr (.inr hm)⟩, hlast⟩

/-- Another member is taken out. -/
theorem spares_srem (hne : m ≠ m') : (Command.srem key m').Spares now limit (HasMember m) := by
  rintro o ⟨⟨v, d⟩, rfl, ⟨members, rfl, hm⟩, hlast⟩
  have hmem : m ∈ members.filter (· ≠ m') := List.mem_filter.mpr ⟨hm, decide_eq_true hne⟩
  refine ⟨⟨.set (members.filter (· ≠ m')), d⟩, ?_, ⟨_, rfl, hmem⟩, hlast⟩
  simp only [Command.update, if_neg (List.ne_nil_of_mem hmem)]

/-- Fields are written that `P` does not ask for. -/
theorem spares_hset {fields : List (String × String)}
    (hp : ∀ old, P (.hash old) → P (.hash (mergeFields fields old))) :
    (Command.hset key fields).Spares now limit P := by
  rintro o ⟨⟨v, d⟩, rfl, hv, hlast⟩
  cases v with
  | hash old => exact ⟨⟨.hash (mergeFields fields old), d⟩, rfl, hp old hv, hlast⟩
  | set members => exact ⟨⟨.set members, d⟩, rfl, hv, hlast⟩

end Lasting

end Keyspace

end AlertTriage.Library
