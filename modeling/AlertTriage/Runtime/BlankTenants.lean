import AlertTriage.Runtime.TokenTenant
import Mathlib.Data.List.TakeWhile

/-!
# Blank tenants

`verify` asks for a `tid` that is there, `_to_auth` writes it as text whatever it is,
`_publish_phase` keeps silent for the empty text, and nobody on the way calls
`get_tenant_id`, which raises for a tenant that is nothing but white space. A message
whose token has such a tenant is refused only if its body is refused
(`blank_tenant_refused_iff`).
-/

namespace AlertTriage

open Library

/-! ## §1  `get_tenant_id` -/

/-- White space, as `str.strip` sees it. -/
def isPySpace (c : Char) : Bool :=
  let n := c.toNat
  (decide (9 ≤ n) && decide (n ≤ 13)) || (decide (28 ≤ n) && decide (n ≤ 32)) ||
    n == 0x85 || n == 0xA0 || n == 0x1680 ||
    (decide (0x2000 ≤ n) && decide (n ≤ 0x200A)) ||
    n == 0x2028 || n == 0x2029 || n == 0x202F || n == 0x205F || n == 0x3000

/-- `s.strip()`. -/
def pyStrip (s : String) : String :=
  String.ofList (((s.toList.dropWhile isPySpace).reverse.dropWhile isPySpace).reverse)

/-- `get_tenant_id` of a verified context. -/
def getTenantId (auth : AuthContext) : Except PyExn String :=
  if pyStrip auth.tenantId = "" then
    .error (.other "auth context present but tenant_id is empty")
  else .ok auth.tenantId

/-- The token's tenant is null. -/
def NullTenant (deps : WorkerDeps) (token : String) (w : World) : Prop :=
  ∃ payload, tokenPayload deps token w = some payload ∧ claim "tid" payload = some .null

/-- The token's tenant is text without a visible character. -/
def EmptyTenant (deps : WorkerDeps) (token : String) (w : World) : Prop :=
  ∃ payload s, tokenPayload deps token w = some payload ∧
    claim "tid" payload = some (.str s) ∧ pyStrip s = ""

/-- The token's tenant is null, empty or white space. -/
def BlankTenant (deps : WorkerDeps) (token : String) (w : World) : Prop :=
  NullTenant deps token w ∨ EmptyTenant deps token w

theorem not_isPySpace_of_visible {c : Char} (h : Json.Visible c) : isPySpace c = false := by
  obtain ⟨hlow, hhigh⟩ := h
  simp only [isPySpace, Bool.or_eq_false_iff, Bool.and_eq_false_iff, decide_eq_false_iff_not,
    beq_eq_false_iff_ne]
  omega

/-- Text that starts with a visible character is kept in part. -/
theorem pyStrip_ne_of_head {s : String} {c : Char} {cs : List Char}
    (h : s.toList = c :: cs) (hc : Json.Visible c) : pyStrip s ≠ "" := by
  intro hno
  have hspace := not_isPySpace_of_visible hc
  have hnil := congrArg String.toList hno
  rw [pyStrip, h, String.toList_ofList,
    List.dropWhile_cons_of_neg (by rw [hspace]; exact Bool.false_ne_true)] at hnil
  have hlast := List.reverse_eq_nil_iff.mp hnil
  rw [List.dropWhile_eq_nil_iff] at hlast
  have hno := hlast c (by simp)
  rw [hspace] at hno
  exact Bool.false_ne_true hno

/-- Only text is written blank. -/
theorem pyStrip_pyStr {j : Json} (h : pyStrip (pyStr j) = "") : ∃ s, j = .str s := by
  have hdumps : pyStrip (Json.dumps pythonStyle j) ≠ "" := by
    obtain ⟨c, cs, hc, hvisible, -⟩ := Json.render_head_visible pythonStyle j
    refine @pyStrip_ne_of_head _ c cs ?_ hvisible
    rw [Json.dumps, String.toList_ofList, hc]
  cases j with
  | str s => exact ⟨s, rfl⟩
  | null => exact absurd h (by decide)
  | bool b => cases b <;> exact absurd h (by decide)
  | int i => exact absurd h hdumps
  | float m e => exact absurd h hdumps
  | nan => exact absurd h hdumps
  | infinity b => exact absurd h hdumps
  | arr items => exact absurd h hdumps
  | obj fields => exact absurd h hdumps

section

variable {deps : WorkerDeps} {e : HandleEnv} {data : Body} {token : String} {w w' : World}
  {auth : AuthContext}

/-- `get_tenant_id` raises for the tenants that are empty text. -/
theorem getTenantId_raises_iff
    (hauth : verify deps.lib deps.jwtService e.revoked token w = (.ok auth, w')) :
    (∃ x, getTenantId auth = .error x) ↔ EmptyTenant deps token w := by
  have htenant := tenant_of_verify hauth
  obtain ⟨payload, hpayload, hstr⟩ := Option.map_eq_some_iff.mp htenant
  have hraises : (∃ x, getTenantId auth = .error x) ↔ pyStrip auth.tenantId = "" := by
    unfold getTenantId
    split <;> simp_all
  rw [hraises, ← hstr]
  constructor
  · intro hblank
    obtain ⟨s, hs⟩ := pyStrip_pyStr hblank
    rw [hs] at hblank
    refine ⟨payload, s, hpayload, ?_, hblank⟩
    cases hclaim : claim "tid" payload with
    | none =>
        rw [hclaim] at hs
        cases hs
    | some j =>
        rw [hclaim] at hs
        exact congrArg some hs
  · rintro ⟨payload', s, hpayload', hclaim, hblank⟩
    obtain rfl := Option.some.inj (hpayload.symm.trans hpayload')
    rw [hclaim]
    exact hblank

/-- A null tenant does not come from the library. -/
theorem not_nullTenant_of_decoded (hfresh : cachedEntry token w = none) :
    ¬ NullTenant deps token w := by
  rintro ⟨payload, hpayload, hnull⟩
  rw [tokenPayload, hfresh] at hpayload
  obtain ⟨secret, -, hdecode⟩ := List.exists_of_findSome?_eq_some hpayload
  rw [deps.lib.decode_eq, Option.filter_eq_some_iff] at hdecode
  have hvalid := hdecode.2
  simp only [validClaims, requiredClaims, Bool.and_eq_true, List.all_cons] at hvalid
  have htid := hvalid.1.1.1.1.1.1.2.2.2.2.1
  rw [hnull] at htid
  cases htid

/-! ## §2  A message under a blank tenant -/

/-- The message is refused as soon as its token is verified: `handle_message` raises
before the cancellation check, and nothing has happened since. -/
def Refused (deps : WorkerDeps) (e : HandleEnv) (data : Body) (token : String)
    (w w' : World) : Prop :=
  ∃ x, acceptAlert deps e data token w = (.error (.exception x), w') ∧
    handleMessage deps e data token w = (.error (.exception x), w')

/-- Publishing a phase raises nothing. -/
theorem publishPhase_raises_nothing (deps : WorkerDeps) (e : PhaseEnv)
    (alert : NormalizedAlert) (phase : TriagePhase) (w : World) (x : PyExn) :
    (publishPhase deps e alert phase w).1 ≠ .error (.exception x) := by
  cases hr : alert.routable with
  | false => simp [publishPhase_unroutable deps e phase w hr]
  | true =>
      rw [(publishPhase_step deps e alert phase w hr).1]
      split <;> simp

/-- An alert that was read is taken, or its message was cancelled, or the process
dies. -/
theorem acceptAlert_raises_nothing {alert : NormalizedAlert}
    (hauth : verify deps.lib deps.jwtService e.revoked token w = (.ok auth, w'))
    (hparse : parseAlert deps.codec data auth = .ok alert) (x : PyExn) :
    (acceptAlert deps e data token w).1 ≠ .error (.exception x) := by
  have hquiet := publishPhase_raises_nothing deps e.queued alert .queued w' x
  rw [acceptAlert, Run.bind_ok hauth, hparse, Run.ofExcept, Run.bind_ok (Run.pure_apply _ _),
    Run.bind_apply]
  rcases hpublish : publishPhase deps e.queued alert .queued w' with ⟨y | _, w₁⟩
  · rw [hpublish] at hquiet
    intro hno
    exact hquiet (congrArg Except.error (Except.error.inj hno))
  dsimp only
  rw [Run.bind_apply, isCancelled_answer]
  split
  · rename_i heq
    obtain ⟨hanswer, rfl⟩ := Prod.mk.inj heq
    split
    · rename_i hcancelled
      have hlate := publishPhase_raises_nothing deps e.cancelled alert .cancelled w₁ x
      rw [Run.bind_apply]
      rcases hpublish' : publishPhase deps e.cancelled alert .cancelled w₁ with ⟨y | _, w₂⟩
      · rw [hpublish'] at hlate
        intro hno
        exact hlate (congrArg Except.error (Except.error.inj hno))
      · simp
    · simp
  · rename_i heq
    have hanswer := congrArg Prod.fst heq
    dsimp only at hanswer ⊢
    split at hanswer
    · obtain rfl := Except.error.inj hanswer
      simp
    · simp at hanswer

theorem refused_iff
    (hauth : verify deps.lib deps.jwtService e.revoked token w = (.ok auth, w')) :
    Refused deps e data token w w' ↔
      ∀ alert, parseAlert deps.codec data auth ≠ .ok alert := by
  constructor
  · rintro ⟨x, haccept, -⟩ alert hparse
    exact acceptAlert_raises_nothing hauth hparse x (congrArg Prod.fst haccept)
  · intro hnone
    cases hparse : parseAlert deps.codec data auth with
    | ok alert => exact absurd hparse (hnone alert)
    | error x =>
        have haccept : acceptAlert deps e data token w = (.error (.exception x), w') := by
          rw [acceptAlert, Run.bind_ok hauth, hparse]
          rfl
        exact ⟨x, haccept, by rw [handleMessage, Run.bind_error haccept]⟩

/-- **Where no message is processed under a blank tenant**: `handle_message` refuses a
message with a blank tenant exactly where the tenant is not blank or the body is no
alert. `get_tenant_id` would raise for every blank tenant that the library lets
through. -/
theorem blank_tenant_refused_iff
    (hauth : verify deps.lib deps.jwtService e.revoked token w = (.ok auth, w')) :
    ((BlankTenant deps token w → Refused deps e data token w w') ↔
        (¬ BlankTenant deps token w ∨
          ∀ alert, parseAlert deps.codec data auth ≠ .ok alert)) ∧
      ((∃ x, getTenantId auth = .error x) ↔ EmptyTenant deps token w) ∧
      (cachedEntry token w = none → ¬ NullTenant deps token w) := by
  refine ⟨?_, getTenantId_raises_iff hauth, not_nullTenant_of_decoded⟩
  rw [refused_iff hauth]
  exact imp_iff_not_or

end

def blankClaims : Params := [("sub", .str "u1"), ("tid", .str "  "), ("jti", .str "j1")]

/-- A worker that has verified a token whose tenant is two blanks. -/
def blankKnown : World :=
  { World.fresh with jwtCache := [("tok", ⟨blankClaims, "worker", 1000⟩)] }

theorem verify_blankKnown (lib : PyJwt) :
    verify (sampleDeps lib).lib (sampleDeps lib).jwtService smoothHandle.revoked "tok"
      blankKnown = (.ok (toAuth blankClaims "worker"), blankKnown) := rfl

theorem blankKnown_blank : BlankTenant (sampleDeps plainLib) "tok" blankKnown :=
  .inr ⟨blankClaims, "  ", rfl, rfl, by decide⟩

/-- A tenant of two blanks, and a body that is no JSON. -/
theorem blank_tenant_refused_notJson :
    Refused (sampleDeps plainLib) smoothHandle (.utf8 "not-json") "tok" blankKnown
      blankKnown := by
  have hnone : Json.loads "not-json" = none := by decide +kernel
  apply (blank_tenant_refused_iff (verify_blankKnown plainLib)).1.mpr _ blankKnown_blank
  right
  intro alert hno
  simp [parseAlert, hnone] at hno

/-- A tenant of two blanks, and the body of the sample alert: it is processed. -/
theorem blank_tenant_processed :
    ¬ ∀ (deps : WorkerDeps) (e : HandleEnv) (data : Body) (token : String) (w w' : World)
      (auth : AuthContext),
      verify deps.lib deps.jwtService e.revoked token w = (.ok auth, w') →
      BlankTenant deps token w → Refused deps e data token w w' := by
  intro hall
  have hverify := verify_blankKnown plainLib
  obtain ⟨x, haccept, -⟩ := hall (sampleDeps plainLib) smoothHandle (sampleMsg "tok").data
    "tok" _ _ _ hverify blankKnown_blank
  exact acceptAlert_raises_nothing hverify (parseAlert_plain sampleAlert _) x
    (congrArg Prod.fst haccept)

end AlertTriage
