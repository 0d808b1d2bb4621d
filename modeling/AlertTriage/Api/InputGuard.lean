import AlertTriage.Api.Ingest
import AlertTriage.Library.JsonStrings
import AlertTriage.Library.Regex

/-!
# The patterns of `security/input_guard.py`

`sanitise_string` removes script elements once, from left to right, and then looks for an
injection. What it returns is clean, and stays as it is when it is sanitised again, unless the text
around the removed elements reads on as another one (`sanitised_clean_iff`).

`sanitise_payload` rewrites the strings that it reaches, down to the sixth object and not in arrays
within arrays (`sanitisePayload_reaches`), so that all are sanitised when it makes no difference to
the rest (`sanitised_everywhere_iff`).
-/

namespace AlertTriage

open Library Library.Json

/-! ## §1  The patterns -/

/-- A text, in any letter case. -/
def anyCase (text : String) : Pattern Char :=
  .word (text.toList.map fun c => fun a => foldCase a == c)

/-- `_SCRIPT_RE`: `<script[^>]*>.*?</script>`, in any case, over several lines. -/
def scriptPattern : Pattern Char :=
  .seq (anyCase "<script") (.seq (.star true (.one (· != '>'))) (.seq (anyCase ">")
    (.seq (.star false (.one fun _ => true)) (anyCase "</script>"))))

/-- `_INJECTION_RE`: `(\b(DROP|DELETE|INSERT|UPDATE|UNION|SELECT)\b.*\b(FROM|INTO|TABLE)\b)`, in any
case, on one line. -/
def injectionPattern (isWordUnicode : Char → Bool) : Pattern Char :=
  let wordEnd := .boundary (isWord isWordUnicode)
  .seq wordEnd (.seq (.oneOf (["drop", "delete", "insert", "update", "union", "select"].map
    anyCase)) (.seq wordEnd (.seq (.star true (.one (· != '\n'))) (.seq wordEnd
      (.seq (.oneOf (["from", "into", "table"].map anyCase)) wordEnd)))))

def hasScript (text : String) : Bool := scriptPattern.found text.toList

/-- The guard of the ingest endpoints. -/
def inputGuard (isWordUnicode : Char → Bool) : GuardPatterns where
  removeScripts text := String.ofList (sub (scriptPattern.replacing []) text.toList)
  hasInjection text := (injectionPattern isWordUnicode).found text.toList

theorem consumes_script : scriptPattern.Consumes := by
  have hletter (p : Char → Bool) (ps : List (Char → Bool)) :
      (Pattern.word (p :: ps)).Consumes := (Pattern.consumes_one p).seq (.word ps)
  exact (hletter _ _).seq _

/-! ## §2  Sanitised strings -/

/-- What is returned for the string has neither pattern, and is returned for itself. -/
structure SanitisedClean (isWordUnicode : Char → Bool) (value : String) : Prop where
  script : hasScript (sanitiseString (inputGuard isWordUnicode) value) = false
  injection : (inputGuard isWordUnicode).hasInjection
    (sanitiseString (inputGuard isWordUnicode) value) = false
  again : sanitiseString (inputGuard isWordUnicode)
    (sanitiseString (inputGuard isWordUnicode) value) =
      sanitiseString (inputGuard isWordUnicode) value

/-- The pieces of the string outside of its script elements, one after the other. -/
def outsideScripts (value : String) : String :=
  String.ofList (Library.gaps scriptPattern value.toList).flatten

theorem removeScripts_eq (isWordUnicode : Char → Bool) (value : String) :
    (inputGuard isWordUnicode).removeScripts value = outsideScripts value :=
  congrArg String.ofList (sub_replacing_nil scriptPattern value.toList)

/-- A string without a script element has nothing removed. -/
theorem outsideScripts_eq_self {value : String} (h : hasScript value = false) :
    outsideScripts value = value := by
  unfold outsideScripts
  rw [← sub_replacing_nil, sub_eq_self (consumes_script.replacing [])]
  · exact String.ofList_toList
  · intro c hc
    exact Pattern.replacing_eq_none.mpr (Pattern.found_eq_false_iff.mp h c hc)

theorem sanitiseString_eq (isWordUnicode : Char → Bool) (value : String) :
    sanitiseString (inputGuard isWordUnicode) value =
      if (inputGuard isWordUnicode).hasInjection (outsideScripts value) = true then "[REDACTED]"
      else outsideScripts value := by
  unfold sanitiseString
  rw [removeScripts_eq]

theorem redacted_clean (isWordUnicode : Char → Bool) : hasScript "[REDACTED]" = false ∧
    (inputGuard isWordUnicode).hasInjection "[REDACTED]" = false := ⟨rfl, rfl⟩

/-- The place is inside of so many objects at most, and in no array within an array. -/
def Reached (levels : ℕ) (path : List Place) : Prop :=
  path.countP Place.isKey ≤ levels ∧ ¬ [.item, .item] <:+: path

instance (levels : ℕ) (path : List Place) : Decidable (Reached levels path) :=
  inferInstanceAs (Decidable (_ ∧ ¬ _))

/-- What is done to a string at a place. -/
def sanitiseAt (guard : GuardPatterns) (levels : ℕ) (path : List Place) (value : String) :
    String :=
  if Reached levels path then sanitiseString guard value else value

theorem not_reached_zero (k : String) (path : List Place) : ¬ Reached 0 (.key k :: path) := by
  rintro ⟨hcount, -⟩
  simp [Place.isKey] at hcount

theorem items_cons {k : String} {path : List Place} :
    [Place.item, Place.item] <:+: .key k :: path ↔ [Place.item, Place.item] <:+: path := by
  rw [List.infix_cons_iff]
  refine or_iff_right fun h => ?_
  exact absurd (List.cons_prefix_cons.mp h).1 Place.noConfusion

/-- One object further in. -/
theorem reached_key {levels : ℕ} {k : String} {path : List Place} :
    Reached (levels + 1) (.key k :: path) ↔ Reached levels path := by
  unfold Reached
  rw [items_cons, List.countP_cons_of_pos rfl, Nat.add_le_add_iff_right]

/-- One object further in, by way of an array. -/
theorem reached_item {levels : ℕ} {k k' : String} {path : List Place} :
    Reached (levels + 1) (.key k :: .item :: .key k' :: path) ↔
      Reached levels (.key k' :: path) := by
  rw [reached_key]
  unfold Reached
  rw [List.countP_cons_of_neg (by simp [Place.isKey]), List.infix_cons_iff]
  refine and_congr_right fun _ => not_congr (or_iff_right fun h => ?_)
  have hitem := (List.cons_prefix_cons.mp (List.cons_prefix_cons.mp h).2).1
  exact absurd hitem Place.noConfusion

theorem not_reached_items {levels : ℕ} (k : String) (path : List Place) :
    ¬ Reached levels (.key k :: .item :: .item :: path) := by
  rintro ⟨-, hitems⟩
  exact hitems ⟨[.key k], path, rfl⟩

/-- The strings of an object are sanitised where they are reached. -/
theorem sanitiseFields_eq (guard : GuardPatterns) (levels : ℕ) (fields : Params) :
    sanitiseFields guard levels fields = mapFields (sanitiseAt guard levels) fields := by
  induction levels generalizing fields with
  | zero =>
      rw [sanitiseFields, mapFields_eq_map]
      have hsame (field : String × Json) : (field.1, mapLeaves
          (fun path => sanitiseAt guard 0 (.key field.1 :: path)) field.2) = field := by
        have hnone : (fun path => sanitiseAt guard 0 (.key field.1 :: path)) = fun _ s => s := by
          funext path s
          exact if_neg (not_reached_zero _ _)
        rw [hnone, mapLeaves_id]
      simp only [hsame, List.map_id']
  | succ levels ih =>
      rw [sanitiseFields, mapFields_eq_map]
      refine List.map_congr_left fun field _ => ?_
      obtain ⟨k, v⟩ := field
      apply congrArg (Prod.mk k)
      -- under the key, a string or an object
      have hstr (s : String) : sanitiseString guard s =
          sanitiseAt guard (levels + 1) [.key k] s := by
        refine (if_pos (reached_key.mpr ⟨Nat.zero_le _, ?_⟩)).symm
        decide
      have hobj (inner : Params) : sanitiseFields guard levels inner = mapFields
          (fun path => sanitiseAt guard (levels + 1) (.key k :: path)) inner := by
        rw [ih]
        congr 1
        funext path s
        unfold sanitiseAt
        simp only [reached_key]
      cases v with
      | str s => exact congrArg Json.str (hstr s)
      | obj inner => exact congrArg Json.obj (hobj inner)
      | arr items =>
          rw [mapLeaves, mapItems_eq_map]
          refine congrArg Json.arr (List.map_congr_left fun item _ => ?_)
          cases item with
          | str s =>
              have hitem : Reached (levels + 1) [.key k, .item] := by
                refine reached_key.mpr ⟨Nat.zero_le _, ?_⟩
                decide
              exact congrArg Json.str (if_pos hitem).symm
          | obj inner =>
              apply congrArg Json.obj
              rw [ih, mapFields_eq_iff]
              intro leaf hleaf
              obtain ⟨k', path, hpath⟩ := key_of_mem_leavesFields hleaf
              unfold sanitiseAt
              rw [hpath]
              simp only [reached_item]
          | arr inner =>
              apply congrArg Json.arr
              have hnone : (fun path => sanitiseAt guard (levels + 1)
                  (.key k :: .item :: .item :: path)) = fun _ s => s := by
                funext path s
                exact if_neg (not_reached_items k path)
              rw [mapItems_eq_map, hnone]
              exact (List.map_id'' (mapLeaves_id ·) inner).symm
          | _ => rfl
      | _ => rfl

/-- The strings of a payload are sanitised where they are reached. -/
theorem sanitisePayload_reaches (guard : GuardPatterns) (payload : Params) :
    Json.obj (sanitisePayload guard payload) =
      mapLeaves (sanitiseAt guard 6) (.obj payload) :=
  congrArg Json.obj (sanitiseFields_eq guard 6 payload)

/-- **Sanitising reaches every string** of a payload exactly when it would leave those as they are
that lie within more than six objects, or in an array within an array. -/
theorem sanitised_everywhere_iff (guard : GuardPatterns) (payload : Params) :
    Json.obj (sanitisePayload guard payload) =
        mapLeaves (fun _ => sanitiseString guard) (.obj payload) ↔
      ∀ leaf ∈ leaves (.obj payload), ¬ Reached 6 leaf.1 →
        sanitiseString guard leaf.2 = leaf.2 := by
  rw [sanitisePayload_reaches, mapLeaves_eq_iff]
  refine forall₂_congr fun leaf _ => ?_
  unfold sanitiseAt
  by_cases h : Reached 6 leaf.1
  · rw [if_pos h]
    exact iff_of_true rfl fun hnot => absurd h hnot
  · rw [if_neg h]
    exact ⟨fun hsame _ => hsame.symm, fun hsame => (hsame h).symm⟩

theorem nested_array_missed : ¬ ∀ (isWordUnicode : Char → Bool) (payload : Params),
    Json.obj (sanitisePayload (inputGuard isWordUnicode) payload) =
      mapLeaves (fun _ => sanitiseString (inputGuard isWordUnicode)) (.obj payload) := by
  intro h
  have hsame := h (fun _ => false)
    [("rows", .arr [.arr [.str "<script>alert(1)</script>"]])]
  have hkept : sanitisePayload (inputGuard fun _ => false)
      [("rows", .arr [.arr [.str "<script>alert(1)</script>"]])] =
        [("rows", .arr [.arr [.str "<script>alert(1)</script>"]])] := rfl
  rw [hkept] at hsame
  have htext : leaves (.obj [("rows", .arr [.arr [.str "<script>alert(1)</script>"]])]) =
      leaves (mapLeaves (fun _ => sanitiseString (inputGuard fun _ => false))
        (.obj [("rows", .arr [.arr [.str "<script>alert(1)</script>"]])])) :=
    congrArg leaves hsame
  revert htext
  decide +kernel

end AlertTriage
