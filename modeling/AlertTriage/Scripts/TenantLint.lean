import Mathlib.Tactic.Common

/-!
# `scripts/lint_tenant_id.py`

The lint that keeps `tenant_id` from being read out of what a client sent. It
visits every node of a syntax tree and looks at the receivers of `E["tenant_id"]`
and `E.get("tenant_id")`; a receiver it follows through attributes only, so that
a read is reported exactly when its receiver comes from something untrusted
without a call or a subscript on the way (`reports_iff`).
-/

namespace AlertTriage

/-! ## §1  Syntax trees -/

/-- `node.lineno`, `node.col_offset`. -/
structure SourcePos where
  line : ℕ
  column : ℕ
deriving DecidableEq, Repr

/-- A node of `ast`: the classes that the lint looks at, and any other class with
its children. -/
inductive SyntaxNode where
  | name (id : String)
  | str (value : String)
  | attribute (value : SyntaxNode) (attr : String)
  | subscript (pos : SourcePos) (value slice : SyntaxNode)
  | call (pos : SourcePos) (func : SyntaxNode) (args keywords : List SyntaxNode)
  | other (children : List SyntaxNode)

mutual
/-- A node and all those under it. -/
def SyntaxNode.nodes : SyntaxNode → List SyntaxNode
  | .name id => [.name id]
  | .str value => [.str value]
  | .attribute value attr => .attribute value attr :: value.nodes
  | .subscript pos value slice =>
      .subscript pos value slice :: (value.nodes ++ slice.nodes)
  | .call pos func args keywords =>
      .call pos func args keywords ::
        (func.nodes ++ (nodesAll args ++ nodesAll keywords))
  | .other children => .other children :: nodesAll children

def nodesAll : List SyntaxNode → List SyntaxNode
  | [] => []
  | node :: rest => node.nodes ++ nodesAll rest
end

/-! ## §2  The visitor -/

def unsafeNames : List String :=
  ["payload", "body", "raw_payload", "raw", "data", "msg", "message", "request",
    "req", "alert_data", "json_body", "input_data"]

def unsafeAttrs : List String :=
  ["json", "data", "raw_payload", "body", "payload"]

/-- `_const_str`. -/
def constStr : SyntaxNode → Option String
  | .str value => some value
  | _ => none

/-- `_root_name`. -/
def rootName : SyntaxNode → Option String
  | .attribute value _ => rootName value
  | .name id => some id
  | _ => none

/-- `_attr_chain`. -/
def attrChain : SyntaxNode → List String
  | .attribute value attr => attr :: attrChain value
  | _ => []

/-- The test on a receiver. -/
def unsafeReceiver (node : SyntaxNode) : Bool :=
  (match rootName node with
    | some recv => unsafeNames.contains recv
    | none => false) ||
  (attrChain node).any unsafeAttrs.contains

/-- The receiver of a read of `tenant_id`, as `visit_Subscript` and `visit_Call`
look for one. -/
def tenantRead : SyntaxNode → Option SyntaxNode
  | .subscript _ value slice =>
      if constStr slice = some "tenant_id" then some value else none
  | .call _ (.attribute value attr) (arg :: _) _ =>
      if attr = "get" ∧ constStr arg = some "tenant_id" then some value else none
  | _ => none

/-- A violation is appended for the node. -/
def reported (node : SyntaxNode) : Bool :=
  match tenantRead node with
  | some receiver => unsafeReceiver receiver
  | none => false

def report (node : SyntaxNode) : List SyntaxNode :=
  if reported node then [node] else []

mutual
/-- `TenantIdViolation.visit`: the nodes that a violation is appended for, in
this order. A node's children are visited whether it is one of them or not. -/
def SyntaxNode.visit : SyntaxNode → List SyntaxNode
  | .name _ => []
  | .str _ => []
  | .attribute value _ => value.visit
  | .subscript pos value slice =>
      report (.subscript pos value slice) ++ (value.visit ++ slice.visit)
  | .call pos func args keywords =>
      report (.call pos func args keywords) ++
        (func.visit ++ (visitAll args ++ visitAll keywords))
  | .other children => visitAll children

def visitAll : List SyntaxNode → List SyntaxNode
  | [] => []
  | node :: rest => node.visit ++ visitAll rest
end

/-- `self.violations`: where the node is and how it reads. -/
def violations (src : SyntaxNode → String) (tree : SyntaxNode) :
    List (Option SourcePos × String) :=
  tree.visit.map fun node =>
    (match node with
      | .subscript pos _ _ => some pos
      | .call pos _ _ _ => some pos
      | _ => none,
    src node)

/-- What a file adds to the total; one that is not parsed adds one. -/
def fileTotal (src : SyntaxNode → String) : Option SyntaxNode → ℕ
  | some tree => (violations src tree).length
  | none => 1

/-- `lint`: the exit code for files that were parsed, or not. -/
def lint (src : SyntaxNode → String) (files : List (Option SyntaxNode)) : ℕ :=
  let total := files.foldl (fun total file => total + fileTotal src file) 0
  if total = 0 then 0 else 1

/-! ## §3  What the visitor reports -/

theorem mem_report {m node : SyntaxNode} :
    m ∈ report node ↔ m = node ∧ reported node = true := by
  unfold report
  split
  · rename_i h
    simp [h]
  · rename_i h
    simp [h]

mutual
/-- **Every node is visited**, and those are reported that meet the test. -/
theorem mem_visit (m : SyntaxNode) : ∀ node : SyntaxNode,
    m ∈ node.visit ↔ m ∈ node.nodes ∧ reported m = true
  | .name id => by
      simp only [SyntaxNode.visit, SyntaxNode.nodes, List.not_mem_nil, List.mem_singleton,
        false_iff, not_and]
      rintro rfl
      exact Bool.false_ne_true
  | .str value => by
      simp only [SyntaxNode.visit, SyntaxNode.nodes, List.not_mem_nil, List.mem_singleton,
        false_iff, not_and]
      rintro rfl
      exact Bool.false_ne_true
  | .attribute value attr => by
      -- a plain attribute is no read of a tenant, but its value may hold one
      rw [SyntaxNode.visit, SyntaxNode.nodes, List.mem_cons, mem_visit m value]
      constructor
      · exact fun ⟨hm, hr⟩ => ⟨.inr hm, hr⟩
      · rintro ⟨rfl | hm, hr⟩
        · exact absurd hr (by simp [reported, tenantRead])
        · exact ⟨hm, hr⟩
  | .subscript pos value slice => by
      rw [SyntaxNode.visit, SyntaxNode.nodes, List.mem_append, List.mem_append, mem_report,
        List.mem_cons, List.mem_append, mem_visit m value, mem_visit m slice]
      constructor
      · rintro (⟨rfl, hr⟩ | ⟨hm, hr⟩ | ⟨hm, hr⟩)
        · exact ⟨.inl rfl, hr⟩
        · exact ⟨.inr (.inl hm), hr⟩
        · exact ⟨.inr (.inr hm), hr⟩
      · rintro ⟨rfl | hm | hm, hr⟩
        · exact .inl ⟨rfl, hr⟩
        · exact .inr (.inl ⟨hm, hr⟩)
        · exact .inr (.inr ⟨hm, hr⟩)
  | .call pos func args keywords => by
      rw [SyntaxNode.visit, SyntaxNode.nodes, List.mem_append, List.mem_append,
        List.mem_append, mem_report, List.mem_cons, List.mem_append,
        List.mem_append, mem_visit m func, mem_visitAll m args,
        mem_visitAll m keywords]
      constructor
      · rintro (⟨rfl, hr⟩ | ⟨hm, hr⟩ | ⟨hm, hr⟩ | ⟨hm, hr⟩)
        · exact ⟨.inl rfl, hr⟩
        · exact ⟨.inr (.inl hm), hr⟩
        · exact ⟨.inr (.inr (.inl hm)), hr⟩
        · exact ⟨.inr (.inr (.inr hm)), hr⟩
      · rintro ⟨rfl | hm | hm | hm, hr⟩
        · exact .inl ⟨rfl, hr⟩
        · exact .inr (.inl ⟨hm, hr⟩)
        · exact .inr (.inr (.inl ⟨hm, hr⟩))
        · exact .inr (.inr (.inr ⟨hm, hr⟩))
  | .other children => by
      rw [SyntaxNode.visit, SyntaxNode.nodes, List.mem_cons, mem_visitAll m children]
      constructor
      · exact fun ⟨hm, hr⟩ => ⟨.inr hm, hr⟩
      · rintro ⟨rfl | hm, hr⟩
        · exact absurd hr (by simp [reported, tenantRead])
        · exact ⟨hm, hr⟩

theorem mem_visitAll (m : SyntaxNode) : ∀ nodes : List SyntaxNode,
    m ∈ visitAll nodes ↔ m ∈ nodesAll nodes ∧ reported m = true
  | [] => by simp [visitAll, nodesAll]
  | node :: rest => by
      rw [visitAll, nodesAll, List.mem_append, List.mem_append,
        mem_visit m node, mem_visitAll m rest]
      exact or_and_right.symm
end

/-! ## §4  What comes from a client -/

/-- A read of `tenant_id` from a receiver: `E["tenant_id"]`, or a call of `E.get`
with that name. -/
inductive TenantRead : SyntaxNode → SyntaxNode → Prop where
  | subscript (pos : SourcePos) (receiver : SyntaxNode) :
      TenantRead (.subscript pos receiver (.str "tenant_id")) receiver
  | get (pos : SourcePos) (receiver : SyntaxNode) (args keywords : List SyntaxNode) :
      TenantRead (.call pos (.attribute receiver "get")
        (.str "tenant_id" :: args) keywords) receiver

/-- What attribute accesses, calls and subscripts make of an unsafe name or of an
unsafe attribute. -/
inductive Untrusted : SyntaxNode → Prop where
  | name {id : String} (h : id ∈ unsafeNames) : Untrusted (.name id)
  | unsafeAttr (value : SyntaxNode) {attr : String} (h : attr ∈ unsafeAttrs) :
      Untrusted (.attribute value attr)
  | attr {value : SyntaxNode} (h : Untrusted value) (attr : String) :
      Untrusted (.attribute value attr)
  | call {func : SyntaxNode} (h : Untrusted func) (pos : SourcePos)
      (args keywords : List SyntaxNode) : Untrusted (.call pos func args keywords)
  | subscript {value : SyntaxNode} (h : Untrusted value) (pos : SourcePos)
      (slice : SyntaxNode) : Untrusted (.subscript pos value slice)

/-- The same with attribute accesses alone. -/
inductive PlainlyUntrusted : SyntaxNode → Prop where
  | name {id : String} (h : id ∈ unsafeNames) : PlainlyUntrusted (.name id)
  | unsafeAttr (value : SyntaxNode) {attr : String} (h : attr ∈ unsafeAttrs) :
      PlainlyUntrusted (.attribute value attr)
  | attr {value : SyntaxNode} (h : PlainlyUntrusted value) (attr : String) :
      PlainlyUntrusted (.attribute value attr)

theorem tenantRead_iff {node receiver : SyntaxNode} :
    tenantRead node = some receiver ↔ TenantRead node receiver := by
  have hconst {n : SyntaxNode} (h : constStr n = some "tenant_id") :
      n = .str "tenant_id" := by
    cases n with
    | str value => exact congrArg SyntaxNode.str (Option.some.inj h)
    | _ => exact absurd h.symm (Option.some_ne_none _)
  constructor
  · intro h
    unfold tenantRead at h
    split at h
    · split at h
      · rename_i hs
        obtain rfl := Option.some.inj h
        rw [hconst hs]
        exact .subscript _ _
      · exact absurd h.symm (Option.some_ne_none _)
    · split at h
      · rename_i hg
        obtain rfl := Option.some.inj h
        rw [hg.1, hconst hg.2]
        exact .get _ _ _ _
      · exact absurd h.symm (Option.some_ne_none _)
    · exact absurd h.symm (Option.some_ne_none _)
  · rintro (_ | _)
    · simp [tenantRead, constStr]
    · simp [tenantRead, constStr]

theorem PlainlyUntrusted.unsafeReceiver {node : SyntaxNode}
    (h : PlainlyUntrusted node) : unsafeReceiver node = true := by
  induction h with
  | name h => simp [AlertTriage.unsafeReceiver, rootName, h]
  | unsafeAttr value h => simp [AlertTriage.unsafeReceiver, attrChain, h]
  | attr h attr ih =>
      unfold AlertTriage.unsafeReceiver at ih ⊢
      rw [rootName, attrChain, List.any_cons]
      rcases (Bool.or_eq_true _ _).mp ih with ih | ih
      · rw [ih, Bool.true_or]
      · rw [ih, Bool.or_true, Bool.or_true]

/-- The helpers follow attributes and nothing else: a call or a subscript hides
what it comes from. -/
theorem plainlyUntrusted_of : ∀ node : SyntaxNode, unsafeReceiver node = true →
    PlainlyUntrusted node
  | .name id, h => by
      refine .name ?_
      simpa [unsafeReceiver, rootName, attrChain] using h
  | .attribute value attr, h => by
      unfold unsafeReceiver at h
      rw [rootName, attrChain, List.any_cons] at h
      by_cases ha : attr ∈ unsafeAttrs
      · exact .unsafeAttr value ha
      · refine .attr (plainlyUntrusted_of value ?_) attr
        have hnot : unsafeAttrs.contains attr = false := by simpa using ha
        rwa [hnot, Bool.false_or] at h
  | .str _, h => absurd h Bool.false_ne_true
  | .subscript _ _ _, h => absurd h Bool.false_ne_true
  | .call _ _ _ _, h => absurd h Bool.false_ne_true
  | .other _, h => absurd h Bool.false_ne_true

/-- **What the test on a receiver finds.** -/
theorem unsafeReceiver_iff (node : SyntaxNode) :
    unsafeReceiver node = true ↔ PlainlyUntrusted node :=
  ⟨plainlyUntrusted_of node, PlainlyUntrusted.unsafeReceiver⟩

theorem PlainlyUntrusted.untrusted {node : SyntaxNode} (h : PlainlyUntrusted node) :
    Untrusted node := by
  induction h with
  | name h => exact .name h
  | unsafeAttr value h => exact .unsafeAttr value h
  | attr _ attr ih => exact .attr ih attr

/-! ## §5  Which reads are reported -/

theorem reported_iff_plainly {node receiver : SyntaxNode}
    (h : TenantRead node receiver) :
    reported node = true ↔ PlainlyUntrusted receiver := by
  unfold reported
  rw [tenantRead_iff.mpr h]
  exact unsafeReceiver_iff receiver

/-- Every read of `tenant_id` in the tree from what comes from a client is
reported. -/
def ReportsAll (tree : SyntaxNode) : Prop :=
  ∀ node receiver, node ∈ tree.nodes → TenantRead node receiver →
    Untrusted receiver → node ∈ tree.visit

/-- **The lint reports all such reads of a tree exactly when** each of their
receivers comes from an unsafe name or attribute by attribute accesses alone. -/
theorem reports_iff (tree : SyntaxNode) : ReportsAll tree ↔
    ∀ node receiver, node ∈ tree.nodes → TenantRead node receiver →
      Untrusted receiver → PlainlyUntrusted receiver := by
  constructor
  · intro h node receiver hmem hread huntrusted
    have hvisit := h node receiver hmem hread huntrusted
    exact (reported_iff_plainly hread).mp ((mem_visit node tree).mp hvisit).2
  · intro h node receiver hmem hread huntrusted
    have hplain := h node receiver hmem hread huntrusted
    exact (mem_visit node tree).mpr
      ⟨hmem, (reported_iff_plainly hread).mpr hplain⟩

/-- Nothing is reported but reads of `tenant_id` from what comes from a client. -/
theorem untrusted_of_visit {tree node : SyntaxNode} (h : node ∈ tree.visit) :
    ∃ receiver, TenantRead node receiver ∧ Untrusted receiver := by
  have hreported := ((mem_visit node tree).mp h).2
  unfold reported at hreported
  split at hreported
  · rename_i receiver hread
    exact ⟨receiver, tenantRead_iff.mp hread,
      (plainlyUntrusted_of receiver hreported).untrusted⟩
  · exact absurd hreported Bool.false_ne_true

theorem foldl_add_eq_zero_iff {α : Type} {f : α → ℕ} {l : List α} {n : ℕ} :
    l.foldl (fun total x => total + f x) n = 0 ↔ n = 0 ∧ ∀ x ∈ l, f x = 0 := by
  induction l generalizing n with
  | nil => simp
  | cons x l ih =>
      rw [List.foldl_cons, ih, Nat.add_eq_zero_iff, List.forall_mem_cons, and_assoc]

/-- **The lint passes** files that were all parsed and have no such read. -/
theorem lint_eq_zero_iff (src : SyntaxNode → String) (files : List (Option SyntaxNode)) :
    lint src files = 0 ↔ ∀ file ∈ files, ∃ tree, file = some tree ∧
      ∀ node ∈ tree.nodes, ∀ receiver, TenantRead node receiver →
        ¬ PlainlyUntrusted receiver := by
  have hfile (tree : SyntaxNode) : (violations src tree).length = 0 ↔
      ∀ node ∈ tree.nodes, ∀ receiver, TenantRead node receiver →
        ¬ PlainlyUntrusted receiver := by
    rw [violations, List.length_map, List.length_eq_zero_iff,
      List.eq_nil_iff_forall_not_mem]
    constructor
    · intro h node hmem receiver hread hplain
      exact h node ((mem_visit node tree).mpr
        ⟨hmem, (reported_iff_plainly hread).mpr hplain⟩)
    · intro h node hvisit
      obtain ⟨hmem, hreported⟩ := (mem_visit node tree).mp hvisit
      obtain ⟨receiver, hread, -⟩ := untrusted_of_visit hvisit
      exact h node hmem receiver hread ((reported_iff_plainly hread).mp hreported)
  have hexit (total : ℕ) : (if total = 0 then 0 else 1) = 0 ↔ total = 0 := by
    split
    · simp [*]
    · simp [*]
  refine (hexit _).trans (foldl_add_eq_zero_iff.trans ?_)
  rw [and_iff_right rfl]
  refine forall_congr' fun file => forall_congr' fun _ => ?_
  cases file with
  | none => simp [fileTotal]
  | some tree =>
      refine (hfile tree).trans ?_
      simp

/-! ## §6  A documented pattern -/

/-- `request.json()["tenant_id"]`. -/
def jsonRead : SyntaxNode :=
  .subscript ⟨1, 0⟩
    (.call ⟨1, 0⟩ (.attribute (.name "request") "json") [] [])
    (.str "tenant_id")

theorem jsonRead_missed : ¬ ∀ tree : SyntaxNode, ReportsAll tree := by
  intro h
  have huntrusted : Untrusted
      (.call ⟨1, 0⟩ (.attribute (.name "request") "json") [] []) :=
    .call (.unsafeAttr (.name "request") (by decide)) _ _ _
  have hmem : jsonRead ∈ jsonRead.nodes := List.mem_cons_self
  have hvisit := h jsonRead jsonRead _ hmem (.subscript _ _) huntrusted
  have hreported := ((mem_visit jsonRead jsonRead).mp hvisit).2
  exact absurd hreported Bool.false_ne_true

end AlertTriage
