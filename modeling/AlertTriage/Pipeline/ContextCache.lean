import AlertTriage.Ingest.PayloadValues
import AlertTriage.Library.JsonEquality
import AlertTriage.Runtime.World

/-!
# The context cache

Results of tools are kept in Redis under the digest of the question, a tool's
name and its parameters, written as one JSON object with sorted keys. The
sorted text tells apart all values but those that differ in the order of keys
(§1), so with a digest that has no collisions two questions share a key only if
they are one (`makeKey_eq_iff`). Whatever uses came before, and whichever of
their calls to Redis failed, what stands under a question's key is the result
last set for it (`CacheHolds`), and a hit is that result
(`answers_equal_questions`).
-/

namespace AlertTriage

open Library

/-! ## §1  Sorted texts tell values apart -/

theorem sortFields_eq_map (fields : Params) :
    sortFields fields = fields.map fun p => (p.1, sortKeys p.2) := by
  induction fields with
  | nil => rfl
  | cons f fs ih =>
      obtain ⟨k, v⟩ := f
      rw [sortFields, ih, List.map_cons]

theorem keys_sortFields (fields : Params) :
    (sortFields fields).map Prod.fst = fields.map Prod.fst := by
  rw [sortFields_eq_map, List.map_map]
  rfl

theorem length_sortFields (fields : Params) :
    (sortFields fields).length = fields.length := by
  rw [sortFields_eq_map, List.length_map]

/-- A field is found sorted where it stands under its key. -/
theorem mem_sortFields_iff {k : String} {j : Json} {fields : Params}
    (h : (fields.map Prod.fst).Nodup) :
    (k, j) ∈ sortFields fields ↔
      ∃ w, Json.lookup k fields = some w ∧ j = sortKeys w := by
  rw [sortFields_eq_map, List.mem_map]
  constructor
  · rintro ⟨⟨key, w⟩, hmem, heq⟩
    obtain ⟨rfl, rfl⟩ := Prod.mk.inj heq
    exact ⟨w, Json.lookup_of_mem h hmem, rfl⟩
  · rintro ⟨w, hlookup, rfl⟩
    exact ⟨(k, w), Json.mem_of_lookup hlookup, rfl⟩

mutual
/-- Values have one sorted form exactly when they differ in the order of keys
at most. -/
theorem sortKeys_eq_iff : ∀ {j k : Json}, j.Distinct → k.Distinct →
    (sortKeys j = sortKeys k ↔ j.Same k)
  | .null, k, _, _ => by cases k <;> simp [sortKeys, Json.Same]
  | .bool _, k, _, _ => by cases k <;> simp [sortKeys, Json.Same]
  | .int _, k, _, _ => by cases k <;> simp [sortKeys, Json.Same]
  | .float _ _, k, _, _ => by cases k <;> simp [sortKeys, Json.Same]
  | .nan, k, _, _ => by cases k <;> simp [sortKeys, Json.Same]
  | .infinity _, k, _, _ => by cases k <;> simp [sortKeys, Json.Same]
  | .str _, k, _, _ => by cases k <;> simp [sortKeys, Json.Same]
  | .arr items, k, hj, hk => by
      cases k with
      | arr items' =>
          have hitems : sortItems items = sortItems items' ↔ Json.SameItems items items' :=
            sortItems_eq_iff hj hk
          simpa only [sortKeys, Json.Same, Json.arr.injEq] using hitems
      | _ => simp [sortKeys, Json.Same]
  | .obj fields, k, hj, hk => by
      cases k with
      | obj fields' =>
          have hkeys : ((sortFields fields).map Prod.fst).Nodup := by
            rw [keys_sortFields]
            exact hj.1
          have hfields : sortFields fields ⊆ sortFields fields' ↔ Json.SameFields fields fields' :=
            sortFields_subset_iff hj.2 hk
          simp only [sortKeys, Json.Same, Json.obj.injEq]
          rw [Json.insertionSort_eq_iff hkeys, Json.perm_iff_subset hkeys, length_sortFields,
            length_sortFields, hfields]
      | _ => simp [sortKeys, Json.Same]

theorem sortItems_eq_iff : ∀ {items items' : List Json}, Json.DistinctItems items →
    Json.DistinctItems items' → (sortItems items = sortItems items' ↔ Json.SameItems items items')
  | [], [], _, _ => by simp [sortItems, Json.SameItems]
  | [], _ :: _, _, _ => by simp [sortItems, Json.SameItems]
  | _ :: _, [], _, _ => by simp [sortItems, Json.SameItems]
  | v :: vs, w :: ws, h, h' => by
      simp only [sortItems, Json.SameItems, List.cons.injEq]
      rw [sortKeys_eq_iff h.1 h'.1, sortItems_eq_iff h.2 h'.2]

theorem sortFields_subset_iff : ∀ {fields fields' : Params}, Json.DistinctFields fields →
    (Json.obj fields').Distinct →
    (sortFields fields ⊆ sortFields fields' ↔ Json.SameFields fields fields')
  | [], _, _, _ => by simp [sortFields, Json.SameFields]
  | (k, v) :: fs, fields', h, h' => by
      have hrest := sortFields_subset_iff h.2 h'
      have hfield : ∀ w, Json.lookup k fields' = some w →
          (sortKeys v = sortKeys w ↔ v.Same w) := fun w hw =>
        sortKeys_eq_iff h.1 (Json.distinctFields_iff.mp h'.2 _ (Json.mem_of_lookup hw))
      rw [sortFields, List.cons_subset, mem_sortFields_iff h'.1, Json.SameFields, hrest]
      refine and_congr_left fun _ => exists_congr fun w => ?_
      exact and_congr_right (hfield w)
end

mutual
theorem distinct_sortKeys : ∀ {j : Json}, j.Distinct → (sortKeys j).Distinct
  | .arr _, h => distinct_sortItems h
  | .obj fields, h => by
      have hperm := List.perm_insertionSort (fun a b : String × Json => a.1 ≤ b.1)
        (sortFields fields)
      have hkeys : ((sortFields fields).map Prod.fst).Nodup := by
        rw [keys_sortFields]
        exact h.1
      refine ⟨(hperm.map Prod.fst).nodup_iff.mpr hkeys, Json.distinctFields_iff.mpr fun f hf => ?_⟩
      exact Json.distinctFields_iff.mp (distinct_sortFields h.2) f (hperm.subset hf)
  | .null, h => h
  | .bool _, h => h
  | .int _, h => h
  | .float _ _, h => h
  | .nan, h => h
  | .infinity _, h => h
  | .str _, h => h

theorem distinct_sortItems : ∀ {items : List Json}, Json.DistinctItems items →
    Json.DistinctItems (sortItems items)
  | [], h => h
  | _ :: _, h => ⟨distinct_sortKeys h.1, distinct_sortItems h.2⟩

theorem distinct_sortFields : ∀ {fields : Params}, Json.DistinctFields fields →
    Json.DistinctFields (sortFields fields)
  | [], h => h
  | (_, _) :: _, h => ⟨distinct_sortKeys h.1, distinct_sortFields h.2⟩
end

/-- The sorted text is the same for equal objects only, and for all of them. -/
theorem jsonDumpsSorted_eq_iff {fields fields' : Params} (h : (Json.obj fields).Distinct)
    (h' : (Json.obj fields').Distinct) :
    jsonDumpsSorted fields = jsonDumpsSorted fields' ↔ (Json.obj fields).Same (.obj fields') := by
  rw [← sortKeys_eq_iff h h']
  refine ⟨fun heq => ?_, congrArg (Json.dumps pythonStyle)⟩
  have hread := congrArg Json.loads heq
  rw [jsonDumpsSorted, jsonDumpsSorted, Json.loads_dumps _ (distinct_sortKeys h),
    Json.loads_dumps _ (distinct_sortKeys h')] at hread
  exact Option.some.inj hread

/-! ## §2  The cache -/

/-- A dictionary of JSON values. -/
structure JsonDict where
  fields : Params
  distinct : (Json.obj fields).Distinct

/-- What a tool returned: a dictionary of JSON values, or one that `json.dumps`
refuses. -/
inductive ToolResult where
  | json (result : JsonDict)
  | unserialisable

/-- `_make_key`, over the hexadecimal SHA-256 of a text. -/
def makeKey (sha256Hex : String → String) (toolName : String) (params : JsonDict) : String :=
  "soc:cache:" ++
    sha256Hex (jsonDumpsSorted [("tool", .str toolName), ("params", .obj params.fields)])

/-- A `ContextCache`: `_ttl`, `_enabled`, and whether `_client` is set. -/
structure ContextCache where
  ttl : ℤ
  enabled : Bool
  client : Bool
deriving DecidableEq, Repr

def ContextCache.off (c : ContextCache) : Bool := !c.enabled || !c.client

/-- `SETEX key ttl value`: Redis refuses a lifetime that is not positive. -/
def setex (o : Outcome) (key : String) (ttl : ℤ) (value : RedisValue) : Io Unit := fun w =>
  if 0 < ttl then redisSetEx o key ttl.toNat value w
  else
    match o with
    | .killed _ => (.error .kill, w)
    | _ => (.error (.exception redisError), w)

/-- `json.dumps(result)`. -/
def ToolResult.dumps : ToolResult → Except PyExn String
  | .json result => .ok (jsonDumps result.fields)
  | .unserialisable => .error (.other "not JSON serializable")

/-- What `get` makes of an answer: `if raw: return json.loads(raw)`. -/
def readRaw : Option RedisValue → Except PyExn (Option Json)
  | none => .ok none
  | some raw =>
      if raw.toText = "" then .ok none
      else
        match Json.loads raw.toText with
        | some j => .ok (some j)
        | none => .error (.other "json")

section Cache

variable (sha256Hex : String → String) (c : ContextCache) (o : Outcome) (toolName : String)
  (params : JsonDict)

/-- `ContextCache.get`. -/
def cacheGet : Io (Option Json) :=
  if c.off then return none
  else
    Run.tryExcept
      (do
        let raw ← redisGet o (makeKey sha256Hex toolName params)
        Run.ofExcept (readRaw raw))
      fun _ => return none

/-- `ContextCache.set`. -/
def cacheSet (result : ToolResult) : Io Unit :=
  if c.off then return ()
  else
    Run.tryExcept
      (do
        let text ← Run.ofExcept result.dumps
        setex o (makeKey sha256Hex toolName params) c.ttl (.text text))
      fun _ => return ()

/-- `ContextCache.invalidate`. -/
def cacheInvalidate : Io Unit :=
  if c.off then return ()
  else
    Run.tryExcept (redisDelete o [makeKey sha256Hex toolName params]) fun _ => return ()

end Cache

/-- One use of the cache, or time that passes. -/
inductive CacheOp where
  | get (o : Outcome) (toolName : String) (params : JsonDict)
  | set (o : Outcome) (toolName : String) (params : JsonDict) (result : ToolResult)
  | invalidate (o : Outcome) (toolName : String) (params : JsonDict)
  | wait (d : ℕ)

def CacheOp.perform (sha256Hex : String → String) (c : ContextCache) (w : World) :
    CacheOp → World
  | .get o toolName params => (cacheGet sha256Hex c o toolName params w).2
  | .set o toolName params result => (cacheSet sha256Hex c o toolName params result w).2
  | .invalidate o toolName params => (cacheInvalidate sha256Hex c o toolName params w).2
  | .wait d => w.advance d

/-- What a sequence of uses leaves behind, nothing being stored before it. -/
def cacheRun (sha256Hex : String → String) (c : ContextCache) (ops : List CacheOp) : World :=
  ops.foldl (CacheOp.perform sha256Hex c) World.fresh

/-! ## §3  What was last set -/

/-- One question: the same tool and equal parameters. -/
def SameQuestion (toolName toolName' : String) (params params' : JsonDict) : Prop :=
  toolName = toolName' ∧ (Json.obj params.fields).Same (.obj params'.fields)

/-- Redis is asked, and carries out what it is asked. -/
def ContextCache.reaches (c : ContextCache) (o : Outcome) : Bool := !c.off && o.applied

/-- And the lifetime is one that Redis takes. -/
def ContextCache.stores (c : ContextCache) (o : Outcome) : Bool :=
  c.reaches o && decide (0 < c.ttl)

/-- A `set` of the result, for the question, that Redis has carried out. -/
def CacheOp.Sets (c : ContextCache) (toolName : String) (params result : JsonDict) :
    CacheOp → Prop
  | .set o toolName' params' (.json result') =>
      c.stores o = true ∧ SameQuestion toolName' toolName params' params ∧ result' = result
  | _ => False

/-- A `set` or `invalidate` for the question that Redis has carried out. -/
def CacheOp.Changes (c : ContextCache) (toolName : String) (params : JsonDict) :
    CacheOp → Prop
  | .set o toolName' params' (.json _) =>
      c.stores o = true ∧ SameQuestion toolName' toolName params' params
  | .invalidate o toolName' params' =>
      c.reaches o = true ∧ SameQuestion toolName' toolName params' params
  | _ => False

/-- The result was set for the question, and nothing has changed it since. -/
def LastSet (c : ContextCache) (ops : List CacheOp) (toolName : String)
    (params result : JsonDict) : Prop :=
  ∃ before op after, ops = before ++ op :: after ∧ op.Sets c toolName params result ∧
    ∀ later ∈ after, ¬ later.Changes c toolName params

/-! ## §4  Every use keeps to what was last set -/

section Runs

variable {sha256Hex : String → String} {c : ContextCache} {o : Outcome}
  {toolName toolName' : String} {params params' result : JsonDict} {ops : List CacheOp}
  {op : CacheOp} {w : World}

/-- Keys are shared within one question and with no other. -/
theorem makeKey_eq_iff (hsha : Function.Injective sha256Hex) :
    makeKey sha256Hex toolName params = makeKey sha256Hex toolName' params' ↔
      SameQuestion toolName toolName' params params' := by
  have hdistinct : ∀ (tool : String) (p : JsonDict),
      (Json.obj [("tool", .str tool), ("params", .obj p.fields)]).Distinct := fun tool p =>
    ⟨by simp, trivial, p.distinct, trivial⟩
  rw [makeKey, makeKey, String.append_right_inj, hsha.eq_iff,
    jsonDumpsSorted_eq_iff (hdistinct _ _) (hdistinct _ _)]
  constructor
  · rintro ⟨-, ⟨tool, htool, hsameTool⟩, ⟨p, hp, hsameParams⟩, -⟩
    obtain rfl : .str toolName' = tool := Option.some.inj htool
    obtain rfl : .obj params'.fields = p := Option.some.inj hp
    exact ⟨Json.str.inj hsameTool, hsameParams⟩
  · rintro ⟨rfl, hsame⟩
    exact ⟨rfl, ⟨.str toolName, rfl, rfl⟩, ⟨.obj params'.fields, rfl, hsame⟩, trivial⟩

theorem LastSet.of_sets (h : op.Sets c toolName params result) :
    LastSet c (ops ++ [op]) toolName params result :=
  ⟨ops, op, [], rfl, h, fun _ hlater => absurd hlater List.not_mem_nil⟩

/-- What leaves the question alone leaves what was last set for it. -/
theorem LastSet.append (h : LastSet c ops toolName params result)
    (hop : ¬ op.Changes c toolName params) : LastSet c (ops ++ [op]) toolName params result := by
  obtain ⟨before, first, after, rfl, hsets, hafter⟩ := h
  refine ⟨before, first, after ++ [op], by simp, hsets, fun later hlater => ?_⟩
  rcases List.mem_append.mp hlater with hmem | hmem
  · exact hafter later hmem
  · obtain rfl := List.mem_singleton.mp hmem
    exact hop

/-- Under the key of each question stands what was last set for it, if anything. -/
def CacheHolds (sha256Hex : String → String) (c : ContextCache) (ops : List CacheOp)
    (w : World) : Prop :=
  ∀ toolName params value, w.lookup (makeKey sha256Hex toolName params) = some value →
    ∃ result, value = .text (jsonDumps result.fields) ∧ LastSet c ops toolName params result

theorem CacheHolds.append (h : CacheHolds sha256Hex c ops w) {w' : World}
    (hpast : ∀ toolName params, op.Changes c toolName params →
      ∀ value, w'.lookup (makeKey sha256Hex toolName params) = some value →
        ∃ result, value = .text (jsonDumps result.fields) ∧ op.Sets c toolName params result)
    (hframe : ∀ toolName params, ¬ op.Changes c toolName params →
      ∀ value, w'.lookup (makeKey sha256Hex toolName params) = some value →
        w.lookup (makeKey sha256Hex toolName params) = some value) :
    CacheHolds sha256Hex c (ops ++ [op]) w' := by
  intro toolName params value hvalue
  by_cases hop : op.Changes c toolName params
  · obtain ⟨result, hresult, hsets⟩ := hpast toolName params hop value hvalue
    exact ⟨result, hresult, .of_sets hsets⟩
  · obtain ⟨result, hresult, hlast⟩ :=
      h toolName params value (hframe toolName params hop value hvalue)
    exact ⟨result, hresult, hlast.append hop⟩

theorem setex_world {key : String} {ttl : ℤ} {value : RedisValue} :
    (setex o key ttl value w).2 =
      if o.applied && decide (0 < ttl) then w.setEx key value (ttl.toNat * second) else w := by
  unfold setex
  by_cases httl : 0 < ttl
  · rw [if_pos httl, redisSetEx, Run.call_world]
    simp [httl]
  · simp only [httl, decide_false, Bool.and_false]
    cases o with
    | returned => rfl
    | raised b => rfl
    | killed b => rfl

/-- What a `try` whose handler does nothing leaves behind. -/
theorem tryExcept_world {α : Type} {x : Io α} {a : α} :
    (Run.tryExcept x (fun _ => pure a) w).2 = (x w).2 := by
  unfold Run.tryExcept
  split
  · rename_i hx
    rw [hx]
    rfl
  · rfl

/-- A lookup changes nothing. -/
theorem cacheGet_world : (cacheGet sha256Hex c o toolName params w).2 = w := by
  unfold cacheGet
  split
  · rfl
  · have hkeeps : Run.Keeps (· = w)
        (redisGet o (makeKey sha256Hex toolName params) >>= fun raw =>
          Run.ofExcept (readRaw raw)) :=
      Run.Keeps.bind (Run.Keeps.call fun _ h => h) fun _ => Run.Keeps.ofExcept _
    rw [tryExcept_world]
    exact hkeeps w rfl

theorem cacheSet_world :
    (cacheSet sha256Hex c o toolName params (.json result) w).2 =
      if c.stores o then
        w.setEx (makeKey sha256Hex toolName params) (.text (jsonDumps result.fields))
          (c.ttl.toNat * second)
      else w := by
  unfold cacheSet ContextCache.stores ContextCache.reaches
  cases hoff : c.off with
  | true => rfl
  | false =>
      rw [if_neg Bool.false_ne_true, tryExcept_world]
      exact setex_world

theorem cacheSet_unserialisable :
    (cacheSet sha256Hex c o toolName params .unserialisable w).2 = w := by
  unfold cacheSet
  split
  · rfl
  · rw [tryExcept_world]
    rfl

theorem cacheInvalidate_world :
    (cacheInvalidate sha256Hex c o toolName params w).2 =
      if c.reaches o then w.delete [makeKey sha256Hex toolName params] else w := by
  unfold cacheInvalidate ContextCache.reaches
  cases hoff : c.off with
  | true => rfl
  | false =>
      rw [if_neg Bool.false_ne_true, tryExcept_world]
      exact Run.call_world ..

theorem loads_of_readRaw {raw : Option RedisValue} {found : Json}
    (h : readRaw raw = .ok (some found)) :
    ∃ value, raw = some value ∧ Json.loads value.toText = some found := by
  cases raw with
  | none => cases h
  | some value =>
      simp only [readRaw] at h
      split at h
      · cases h
      · split at h
        · rename_i j hj
          obtain rfl := Option.some.inj (Except.ok.inj h)
          exact ⟨value, rfl, hj⟩
        · cases h

/-- A hit is what stands under the key. -/
theorem lookup_of_hit {found : Json}
    (h : (cacheGet sha256Hex c o toolName params w).1 = .ok (some found)) :
    ∃ value, w.lookup (makeKey sha256Hex toolName params) = some value ∧
      Json.loads value.toText = some found := by
  unfold cacheGet at h
  split at h
  · cases h
  rcases Run.tryExcept_eq_ok (Prod.ext h rfl) with hhit | ⟨_, _, _, hmiss⟩
  · obtain ⟨raw, w', hraw, hread⟩ := Run.bind_eq_ok hhit
    have hlookup : w.lookup (makeKey sha256Hex toolName params) = raw := by
      cases o with
      | returned => exact Except.ok.inj (congrArg Prod.fst hraw)
      | raised b => cases congrArg Prod.fst hraw
      | killed b => cases congrArg Prod.fst hraw
    have hvalue : readRaw raw = .ok (some found) := by
      cases hr : readRaw raw with
      | ok answer =>
          rw [hr] at hread
          exact congrArg Except.ok (Except.ok.inj (congrArg Prod.fst hread))
      | error e =>
          rw [hr] at hread
          cases congrArg Prod.fst hread
    rw [hlookup]
    exact loads_of_readRaw hvalue
  · cases congrArg Prod.fst hmiss

/-- Keys of different questions differ. -/
theorem makeKey_ne (hsha : Function.Injective sha256Hex)
    (h : ¬ SameQuestion toolName' toolName params' params) :
    makeKey sha256Hex toolName params ≠ makeKey sha256Hex toolName' params' := fun heq =>
  h ((makeKey_eq_iff hsha).mp heq.symm)

/-- Each use of the cache keeps to what was last set. -/
theorem CacheHolds.step (hsha : Function.Injective sha256Hex)
    (h : CacheHolds sha256Hex c ops w) :
    CacheHolds sha256Hex c (ops ++ [op]) (op.perform sha256Hex c w) := by
  cases op with
  | get o tool p =>
      rw [CacheOp.perform, cacheGet_world]
      exact h.append (fun _ _ hop => hop.elim) fun _ _ _ _ hvalue => hvalue
  | wait d =>
      refine h.append (fun _ _ hop => hop.elim) fun _ _ _ _ hvalue => ?_
      exact TtlStore.get_of_later (Nat.le_add_right _ _) hvalue
  | invalidate o tool p =>
      rw [CacheOp.perform, cacheInvalidate_world]
      split
      · rename_i hreach
        refine h.append (fun toolName params hop value hvalue => ?_)
          fun toolName params hop value hvalue => ?_
        · rw [(makeKey_eq_iff hsha).mpr hop.2, World.lookup_delete_of_mem (by simp)] at hvalue
          cases hvalue
        · -- a key of another question is untouched
          have hne := makeKey_ne hsha fun hsame => hop ⟨hreach, hsame⟩
          rwa [World.lookup_delete_of_notMem (by simpa using hne)] at hvalue
      · rename_i hreach
        exact h.append (fun _ _ hop => absurd hop.1 hreach) fun _ _ _ _ hvalue => hvalue
  | set o tool p r =>
      cases r with
      | unserialisable =>
          rw [CacheOp.perform, cacheSet_unserialisable]
          exact h.append (fun _ _ hop => hop.elim) fun _ _ _ _ hvalue => hvalue
      | json result =>
          rw [CacheOp.perform, cacheSet_world]
          split
          · rename_i hstore
            have httl : 0 < c.ttl.toNat * second := by
              have hpos : 0 < c.ttl := by
                simpa using (Bool.and_eq_true_iff.mp hstore).2
              exact Nat.mul_pos (by omega) (by decide)
            refine h.append (fun toolName params hop value hvalue => ?_)
              fun toolName params hop value hvalue => ?_
            · rw [(makeKey_eq_iff hsha).mpr hop.2, World.lookup_setEx httl] at hvalue
              exact ⟨result, (Option.some.inj hvalue).symm, hop.1, hop.2, rfl⟩
            · have hne := makeKey_ne hsha fun hsame => hop ⟨hstore, hsame⟩
              rwa [World.lookup_setEx_ne hne] at hvalue
          · rename_i hstore
            exact h.append (fun _ _ hop => absurd hop.1 hstore) fun _ _ _ _ hvalue => hvalue

/-- After any sequence of uses, Redis holds what was last set. -/
theorem cacheHolds_run (hsha : Function.Injective sha256Hex) (ops : List CacheOp) :
    CacheHolds sha256Hex c ops (cacheRun sha256Hex c ops) := by
  induction ops using List.reverseRecOn with
  | nil => exact fun _ _ _ hvalue => by cases hvalue
  | append_singleton ops op ih =>
      rw [cacheRun, List.foldl_concat]
      exact ih.step hsha

/-- A result that stands under the key is a hit. -/
theorem cacheGet_of_lookup (hoff : c.off = false)
    (h : w.lookup (makeKey sha256Hex toolName params) = some (.text (jsonDumps result.fields))) :
    cacheGet sha256Hex c .returned toolName params w = (.ok (some (.obj result.fields)), w) := by
  have hloads : Json.loads (jsonDumps result.fields) = some (.obj result.fields) :=
    Json.loads_dumps _ result.distinct
  have hne : jsonDumps result.fields ≠ "" := by
    intro hempty
    rw [hempty] at hloads
    cases hloads
  have hread : readRaw (some (.text (jsonDumps result.fields))) =
      .ok (some (.obj result.fields)) := by
    simp only [readRaw, RedisValue.toText, if_neg hne, hloads]
  have hget : redisGet .returned (makeKey sha256Hex toolName params) w =
      (.ok (some (.text (jsonDumps result.fields))), w) := by
    rw [← h]
    rfl
  rw [cacheGet, if_neg (by simp [hoff]), Run.tryExcept_ok]
  rw [Run.bind_ok hget, hread]
  rfl

/-- A result that was set is found under the question for its lifetime. -/
theorem cacheGet_of_set (ops : List CacheOp) (hsha : Function.Injective sha256Hex)
    (hstore : c.stores o = true)
    (hsame : SameQuestion toolName toolName' params params') {d : ℕ}
    (hd : d < c.ttl.toNat * second) :
    (cacheGet sha256Hex c .returned toolName' params'
      (cacheRun sha256Hex c (ops ++ [.set o toolName params (.json result), .wait d]))).1 =
        .ok (some (.obj result.fields)) := by
  have hoff : c.off = false := by
    simpa using (Bool.and_eq_true_iff.mp (Bool.and_eq_true_iff.mp hstore).1).1
  have hlookup : (cacheRun sha256Hex c
      (ops ++ [.set o toolName params (.json result), .wait d])).lookup
        (makeKey sha256Hex toolName' params') = some (.text (jsonDumps result.fields)) := by
    rw [cacheRun, List.foldl_append, List.foldl_cons, List.foldl_cons, List.foldl_nil,
      CacheOp.perform, CacheOp.perform, cacheSet_world, if_pos hstore,
      (makeKey_eq_iff hsha).mpr hsame]
    exact TtlStore.get_setEx_of_lt (Nat.add_lt_add_left hd _)
  rw [cacheGet_of_lookup hoff hlookup]

end Runs

/-! ## §5  Answers -/

/-- The cache answers only for equal questions: two questions share a key only if
they are one, and a hit is the result last set for the question that is asked. -/
theorem answers_equal_questions {sha256Hex : String → String}
    (hsha : Function.Injective sha256Hex) :
    (∀ toolName toolName' params params',
      makeKey sha256Hex toolName params = makeKey sha256Hex toolName' params' ↔
        SameQuestion toolName toolName' params params') ∧
    ∀ c ops o toolName params found,
      (cacheGet sha256Hex c o toolName params (cacheRun sha256Hex c ops)).1 = .ok (some found) →
        ∃ result, found = .obj result.fields ∧ LastSet c ops toolName params result := by
  refine ⟨fun _ _ _ _ => makeKey_eq_iff hsha, fun c ops o toolName params found hhit => ?_⟩
  obtain ⟨value, hlookup, hloads⟩ := lookup_of_hit hhit
  obtain ⟨result, rfl, hlast⟩ := cacheHolds_run hsha ops toolName params value hlookup
  refine ⟨result, ?_, hlast⟩
  rw [RedisValue.toText, jsonDumps, Json.loads_dumps _ result.distinct] at hloads
  exact (Option.some.inj hloads).symm

/-- A digest of the one question below. -/
def questionDigest : String → String :=
  Equiv.swap "\x7b\"params\": \x7b\"a\": 1, \"b\": 2\x7d, \"tool\": \"tool_a\"\x7d"
    "f600298ede134f564854c2f26ee89931a00f440bdbc54988099b89d5c0121eda"

/-- `{"b": 2, "a": 1}`. -/
def paramsSet : JsonDict := ⟨[("b", .int 2), ("a", .int 1)], by simp, trivial, trivial, trivial⟩

/-- `{"a": 1, "b": 2}`. -/
def paramsAsked : JsonDict := ⟨[("a", .int 1), ("b", .int 2)], by simp, trivial, trivial, trivial⟩

def scoreResult : JsonDict := ⟨[("score", .int 7)], by simp, trivial, trivial⟩

def defaultCache : ContextCache := ⟨900, true, true⟩

def scoreOps : List CacheOp :=
  [.set .returned "tool_a" paramsSet (.json scoreResult), .wait second]

theorem paramsSet_same : SameQuestion "tool_a" "tool_a" paramsSet paramsAsked :=
  ⟨rfl, rfl, ⟨_, rfl, rfl⟩, ⟨_, rfl, rfl⟩, trivial⟩

/-- The result is found under the other order of the keys. -/
theorem answers_equal_questions_reordered :
    Function.Injective questionDigest ∧
      makeKey questionDigest "tool_a" paramsAsked =
        "soc:cache:f600298ede134f564854c2f26ee89931a00f440bdbc54988099b89d5c0121eda" ∧
      makeKey questionDigest "tool_a" paramsSet = makeKey questionDigest "tool_a" paramsAsked ∧
      (cacheGet questionDigest defaultCache .returned "tool_a" paramsAsked
        (cacheRun questionDigest defaultCache scoreOps)).1 =
          .ok (some (.obj scoreResult.fields)) ∧
      ∃ result, Json.obj scoreResult.fields = .obj result.fields ∧
        LastSet defaultCache scoreOps "tool_a" paramsAsked result := by
  have hinj : Function.Injective questionDigest := Equiv.injective _
  have hhit : (cacheGet questionDigest defaultCache .returned "tool_a" paramsAsked
      (cacheRun questionDigest defaultCache scoreOps)).1 =
        .ok (some (.obj scoreResult.fields)) :=
    cacheGet_of_set [] hinj (by decide) paramsSet_same (by decide)
  obtain ⟨hkeys, hanswers⟩ := answers_equal_questions hinj
  refine ⟨hinj, by decide +kernel, (hkeys _ _ _ _).mpr paramsSet_same, hhit, ?_⟩
  exact hanswers _ _ _ _ _ _ hhit

end AlertTriage
