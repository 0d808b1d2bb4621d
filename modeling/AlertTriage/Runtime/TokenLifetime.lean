import AlertTriage.Runtime.Delivery

/-!
# Valid messages and the life of their tokens

A message stays on the ALERTS stream for a day; the token it carries lives for
minutes. A worker terminates a message when `verify` refuses its token, and for
a valid body in no other case. So a message whose token was valid when it was
published is never terminated just when no delivery comes too late for the
token or meets a revocation: too late is `exp` plus the leeway, or `exp` itself
where the process goes by its cache (`terminated_iff`).
-/

namespace AlertTriage

open Library

/-! ## §1  When `verify` refuses -/

/-- The deny-list is asked about the token and says that it is revoked. -/
def isRevoked (svc : JwtService) (e : RevokedAnswer) (payload : Params) : Bool :=
  svc.hasRevoked && (claim "jti" payload).any Json.truthy &&
    decide (e = .answer true)

/-- The refusals of a call: its exceptions are the token's fault. -/
def Refuses (lib : PyJwt) (svc : JwtService) (e : RevokedAnswer)
    (token : String) (w : World) : Prop :=
  ∃ reason w', verify lib svc e token w =
    (.error (.exception (.jwtError reason)), w')

theorem checkRevocation_result (svc : JwtService) (e : RevokedAnswer)
    (payload : Params) (w : World) :
    (isRevoked svc e payload = true ∧ ∃ reason w',
        checkRevocation svc e (claim "jti" payload) w =
          (.error (.exception (.jwtError reason)), w')) ∨
      (isRevoked svc e payload = false ∧
        (checkRevocation svc e (claim "jti" payload) w = (.ok (), w) ∨
          checkRevocation svc e (claim "jti" payload) w = (.error .kill, w))) := by
  unfold checkRevocation isRevoked
  cases hj : claim "jti" payload with
  | none => simp
  | some j =>
      cases hs : svc.hasRevoked with
      | false => simp
      | true =>
          cases ht : j.truthy with
          | false => simp [ht]
          | true => rcases e with (_ | _) | _ | _ <;> simp [ht]

/-- **A cached token** is refused only for its revocation. -/
theorem refuses_cached {lib : PyJwt} {svc : JwtService} {e : RevokedAnswer}
    {token : String} {w : World} {entry : JwtCacheEntry}
    (h : cachedEntry token w = some entry) :
    Refuses lib svc e token w ↔ isRevoked svc e entry.payload = true := by
  have hv : verify lib svc e token w =
      (checkRevocation svc e (claim "jti" entry.payload) >>= fun _ =>
        (pure (toAuth entry.payload entry.audience) : Io AuthContext)) w := by
    simp only [verify, Run.bind_apply, Run.get_apply, h]
  unfold Refuses
  rw [hv, Run.bind_apply]
  rcases checkRevocation_result svc e entry.payload w with
    ⟨hr, reason, w', hc⟩ | ⟨hr, hc | hc⟩
  · simp [hr, hc]
  · simp [hr, hc]
  · simp [hr, hc]

/-- A token that no secret decodes is refused. -/
theorem refuses_undecoded {lib : PyJwt} {svc : JwtService} {e : RevokedAnswer}
    {token : String} {w : World} (h : cachedEntry token w = none)
    (hd : decodeWithRotation lib svc token w.now = none) :
    Refuses lib svc e token w :=
  ⟨"token verification failed", w, by
    simp only [verify, Run.bind_apply, Run.get_apply, h, hd, Run.throw_apply]⟩

/-- The claims that `decode` accepts are all there. -/
theorem required_of_valid {audience : String} {leeway now : ℕ} {claims : Params}
    (h : validClaims audience leeway now claims = true) :
    (["sub", "tid", "jti", "iat", "exp"].any
      fun key => (claim key claims).isNone) = false := by
  have hreq : ∀ key ∈ requiredClaims, (claim key claims).isSome = true := by
    simp only [validClaims, Bool.and_eq_true, List.all_eq_true] at h
    intro key hkey
    obtain ⟨j, hj, -⟩ := (Option.any_eq_true _ _).mp (h.1.1.1.1.1.1 key hkey)
    simp [hj]
  rw [List.any_eq_false]
  intro key hkey
  have hmem : key ∈ requiredClaims := by
    simp only [requiredClaims, List.mem_cons, List.not_mem_nil, or_false] at hkey ⊢
    tauto
  simpa using Option.isSome_iff_ne_none.mp (hreq key hmem)

theorem remember_not_refuses (svc : JwtService) (token : String)
    (payload : Params) : Run.Raises (fun x => settlementOf x = .nak)
      (remember svc token payload) := by
  intro w x w' h
  unfold remember at h
  split at h
  · obtain rfl : PyExn.other "float" = x := by simpa using (Prod.ext_iff.mp h).1
    rfl
  · simp at h

/-- **A decoded token** of the service's audience is refused only for its
revocation. -/
theorem refuses_decoded {lib : PyJwt} {svc : JwtService} {e : RevokedAnswer}
    {token : String} {w : World} {payload : Params}
    (h : cachedEntry token w = none)
    (hd : decodeWithRotation lib svc token w.now = some payload)
    (haud : (claim "aud" payload).bind Json.asStr? = some svc.audience)
    (hvalid : validClaims svc.audience svc.leeway w.now payload = true) :
    Refuses lib svc e token w ↔ isRevoked svc e payload = true := by
  have hv : verify lib svc e token w =
      (checkRevocation svc e (claim "jti" payload) >>= fun _ =>
        remember svc token payload >>= fun _ =>
          (pure (toAuth payload svc.audience) : Io AuthContext)) w := by
    simp only [verify, Run.bind_apply, Run.get_apply, h, hd, haud, ne_eq,
      not_true_eq_false, if_false, required_of_valid hvalid, Bool.false_eq_true]
  unfold Refuses
  rw [hv, Run.bind_apply]
  rcases checkRevocation_result svc e payload w with
    ⟨hr, reason, w', hc⟩ | ⟨hr, hc | hc⟩
  · simp [hr, hc]
  · simp only [hr, hc, Bool.false_eq_true, iff_false]
    rintro ⟨reason, w', hx⟩
    have hrest : Run.Raises (fun x => settlementOf x = .nak)
        (remember svc token payload >>= fun _ =>
          (pure (toAuth payload svc.audience) : Io AuthContext)) :=
      (remember_not_refuses svc token payload).bind fun _ => Run.Raises.pure _
    exact absurd (hrest _ _ _ hx) (by simp [settlementOf])
  · simp [hr, hc]

/-! ## §2  A token that was valid once -/

/-- The token is valid at a time: it is signed, its claims pass the checks, and
it is for this audience and no other. -/
structure ValidToken (lib : PyJwt) (audience : String) (leeway : ℕ)
    (token : String) (payload : Params) (now : ℕ) : Prop where
  nonempty : token ≠ ""
  signed : ∃ secret, lib.unsign token secret = some payload
  claims : validClaims audience leeway now payload = true
  audience : (claim "aud" payload).bind Json.asStr? = some audience

/-- Some secret of the service's bundle verifies the signature. -/
def signedByBundle (lib : PyJwt) (svc : JwtService) (token : String) : Bool :=
  svc.bundle.secrets.any fun secret => (lib.unsign token secret).isSome

/-- It is before `exp` plus the leeway. -/
def beforeExpiry (leeway now : ℕ) (payload : Params) : Bool :=
  (intClaim "exp" payload).any fun exp : ℤ =>
    decide ((now : ℤ) < (exp + leeway) * second)

theorem any_mono {α : Type} {p q : α → Bool} {o : Option α}
    (h : ∀ a, p a = true → q a = true) (ho : o.any p = true) :
    o.any q = true := by
  obtain ⟨a, ha, hp⟩ := (Option.any_eq_true _ _).mp ho
  exact (Option.any_eq_true _ _).mpr ⟨a, ha, h a hp⟩

/-- Of the claim checks only the expiry turns with time. -/
theorem validClaims_later {audience : String} {leeway t now : ℕ}
    {claims : Params} (h : validClaims audience leeway t claims = true)
    (ht : t ≤ now) :
    validClaims audience leeway now claims = beforeExpiry leeway now claims := by
  simp only [validClaims, Bool.and_eq_true] at h
  obtain ⟨⟨⟨⟨⟨⟨hreq, hiat⟩, hnbf⟩, hexp⟩, haud⟩, hsub⟩, hjti⟩ := h
  have hiat' : (intClaim "iat" claims).any (fun iat : ℤ =>
      decide (iat * second ≤ now + leeway * second)) = true := by
    refine any_mono (fun iat hi => ?_) hiat
    simp only [decide_eq_true_eq] at hi ⊢
    omega
  have hnbf' : ((claim "nbf" claims).all fun j => (pyInt j).any fun nbf : ℤ =>
      decide (nbf * second ≤ now + leeway * second)) = true := by
    cases hn : claim "nbf" claims with
    | none => rfl
    | some j =>
        rw [hn] at hnbf
        refine any_mono (fun nbf hi => ?_) hnbf
        simp only [decide_eq_true_eq] at hi ⊢
        omega
  simp only [validClaims, beforeExpiry, hreq, hiat', hnbf', haud, hsub, hjti,
    Bool.and_true, Bool.true_and]

/-- What a service decodes of a signed token whose claims were valid at `t`. -/
theorem decode_later {lib : PyJwt} {svc : JwtService} {token secret : String}
    {payload : Params} {t now : ℕ} (hun : lib.unsign token secret = some payload)
    (hclaims : validClaims svc.audience svc.leeway t payload = true) (ht : t ≤ now) :
    decodeWithRotation lib svc token now =
      if signedByBundle lib svc token && beforeExpiry svc.leeway now payload
      then some payload else none := by
  have hlater := validClaims_later hclaims ht
  -- every secret that signs the token finds the same payload in it
  have hstep : ∀ s, lib.decode token s svc.audience svc.leeway now =
      if (lib.unsign token s).isSome && beforeExpiry svc.leeway now payload
      then some payload else none := by
    intro s
    rw [lib.decode_eq]
    cases hu : lib.unsign token s with
    | none => simp
    | some c =>
        obtain rfl := lib.unsign_payload token s secret c payload hu hun
        cases hb : beforeExpiry svc.leeway now c <;> simp [hlater, hb]
  unfold decodeWithRotation signedByBundle
  simp only [hstep]
  cases hb : beforeExpiry svc.leeway now payload with
  | false => simp
  | true =>
      simp only [Bool.and_true]
      induction svc.bundle.secrets with
      | nil => rfl
      | cons s rest ih =>
          rw [List.findSome?_cons, List.any_cons]
          cases hs : (lib.unsign token s).isSome with
          | true => simp
          | false => simpa using ih

/-- The delivery comes too late for the token, after its secret has been
rotated out, or finds it revoked. An entry of the process's cache goes by its
own payload and its own expiry, and needs no secret. -/
def TooLate (lib : PyJwt) (svc : JwtService) (token : String) (payload : Params)
    (e : RevokedAnswer) (w : World) : Prop :=
  match cachedEntry token w with
  | some entry => isRevoked svc e entry.payload = true
  | none =>
      beforeExpiry svc.leeway w.now payload = false ∨
        signedByBundle lib svc token = false ∨
        isRevoked svc e payload = true

/-- **When a token that was valid at publication is refused later.** -/
theorem refuses_iff {lib : PyJwt} {svc : JwtService} {e : RevokedAnswer}
    {token : String} {payload : Params} {t : ℕ} {w : World}
    (h : ValidToken lib svc.audience svc.leeway token payload t)
    (ht : t ≤ w.now) :
    Refuses lib svc e token w ↔ TooLate lib svc token payload e w := by
  obtain ⟨secret, hun⟩ := h.signed
  have hdec := decode_later hun h.claims ht
  unfold TooLate
  cases hc : cachedEntry token w with
  | some entry => exact refuses_cached hc
  | none =>
      cases hb : beforeExpiry svc.leeway w.now payload with
      | false =>
          rw [if_neg (by simp [hb])] at hdec
          simp [refuses_undecoded hc hdec]
      | true =>
          cases hs : signedByBundle lib svc token with
          | false =>
              rw [if_neg (by simp [hs])] at hdec
              simp [refuses_undecoded hc hdec]
          | true =>
              rw [if_pos (by simp [hs, hb])] at hdec
              simpa using refuses_decoded hc hdec h.audience
                ((validClaims_later h.claims ht).trans hb)

/-! ## §3  Nothing after `verify` is the message's fault -/

/-- The exceptions that lead to redelivery. -/
abbrev Transient (x : PyExn) : Prop := settlementOf x = .nak

theorem localNext_raises {E : PyExn → Prop} (alertId : String) :
    Run.Raises E (localNext alertId) := by
  intro w x w' h
  simp [localNext] at h

theorem nextSeq_raises {E : PyExn → Prop} (deps : WorkerDeps) (e : PhaseEnv)
    (alertId : String) : Run.Raises E (nextSeq deps e alertId) := by
  unfold nextSeq
  split
  · exact localNext_raises alertId
  · exact Run.Raises.tryExcept fun _ => localNext_raises alertId

theorem publishPhase_raises {E : PyExn → Prop} (deps : WorkerDeps)
    (e : PhaseEnv) (alert : NormalizedAlert) (phase : TriagePhase) :
    Run.Raises E (publishPhase deps e alert phase) := by
  unfold publishPhase
  split
  · exact Run.Raises.pure ()
  split
  · exact Run.Raises.pure ()
  refine (nextSeq_raises deps e _).bind fun seq => ?_
  refine Run.Raises.bind ?_ fun _ => Run.Raises.pure ()
  intro w x w' h
  rw [publish_spec] at h
  split at h <;> simp at h

theorem isCancelled_raises {E : PyExn → Prop} (deps : WorkerDeps) (o : Outcome)
    (alertId : String) : Run.Raises E (isCancelled deps o alertId) := by
  unfold isCancelled
  split
  · exact Run.Raises.pure false
  · exact Run.Raises.tryExcept fun _ => Run.Raises.pure false

theorem investigate_raises (deps : WorkerDeps) (e : HandleEnv)
    (alert : NormalizedAlert) :
    Run.Raises Transient (investigate deps e alert) := by
  unfold investigate
  refine Run.Raises.bind (Run.Raises.call rfl) fun _ => ?_
  refine Run.Raises.bind ?_ fun verdict =>
    (isCancelled_raises deps _ _).bind fun _ => publishPhase_raises deps _ _ _
  unfold awaitTriage
  refine (Run.Raises.modify _).bind fun _ => ?_
  split
  · exact Run.Raises.pure _
  · exact (publishPhase_raises deps _ _ _).bind fun _ => Run.Raises.throw rfl
  · intro w x w' h
    simp at h

/-- The body of the message is an alert, whoever reads it. -/
def ValidBody (codec : AlertCodec) (data : Body) : Prop :=
  ∃ auth alert, parseAlert codec data auth = .ok alert

theorem ValidBody.parse {codec : AlertCodec} {data : Body}
    (h : ValidBody codec data) (auth : AuthContext) :
    ∃ alert, parseAlert codec data auth = .ok alert := by
  obtain ⟨auth', alert, ha⟩ := h
  unfold parseAlert at ha ⊢
  cases data with
  | undecodable bytes => simp at ha
  | utf8 text =>
      dsimp only at ha ⊢
      cases hl : Json.loads text with
      | none => simp [hl] at ha
      | some raw =>
          simp only [hl] at ha ⊢
          split at ha
          · simp at ha
          · exact ⟨_, rfl⟩

/-- An exception of `acceptAlert` is one of `verify` or leads to redelivery. -/
theorem acceptAlert_exception {deps : WorkerDeps} {e : HandleEnv} {data : Body}
    {token : String} {w w' : World} {x : PyExn} (hb : ValidBody deps.codec data)
    (h : acceptAlert deps e data token w = (.error (.exception x), w')) :
    (∃ w1, verify deps.lib deps.jwtService e.revoked token w =
      (.error (.exception x), w1)) ∨ Transient x := by
  unfold acceptAlert at h
  rw [Run.bind_apply] at h
  rcases hv : verify deps.lib deps.jwtService e.revoked token w with ⟨r, w1⟩
  rw [hv] at h
  cases r with
  | error u =>
      obtain rfl : u = .exception x := by simpa using (Prod.ext_iff.mp h).1
      exact .inl ⟨w1, rfl⟩
  | ok auth =>
      obtain ⟨alert, hp⟩ := hb.parse auth
      refine .inr (Run.Raises.bind (E := Transient) ?_ (fun alert => ?_) _ _ _ h)
      · rw [hp]
        exact Run.Raises.pure alert
      refine (publishPhase_raises deps _ _ _).bind fun _ => ?_
      refine (isCancelled_raises deps _ _).bind fun cancelled => ?_
      split
      · exact (publishPhase_raises deps _ _ _).bind fun _ => Run.Raises.pure none
      · exact Run.Raises.pure _

/-- So is one of `handle_message`. -/
theorem handleMessage_exception {deps : WorkerDeps} {e : HandleEnv}
    {data : Body} {token : String} {w w' : World} {x : PyExn}
    (hb : ValidBody deps.codec data)
    (h : handleMessage deps e data token w = (.error (.exception x), w')) :
    (∃ w1, verify deps.lib deps.jwtService e.revoked token w =
      (.error (.exception x), w1)) ∨ Transient x := by
  unfold handleMessage at h
  rw [Run.bind_apply] at h
  rcases ha : acceptAlert deps e data token w with ⟨r, w1⟩
  rw [ha] at h
  cases r with
  | error u =>
      obtain rfl : u = .exception x := by simpa using (Prod.ext_iff.mp h).1
      exact acceptAlert_exception hb ha
  | ok alert =>
      cases alert with
      | none => simp at h
      | some alert => exact .inr (investigate_raises deps e alert _ _ _ h)

/-- `verify` raises its own exception or one that leads to redelivery. -/
theorem verify_raises (lib : PyJwt) (svc : JwtService) (e : RevokedAnswer)
    (token : String) :
    Run.Raises (fun x => (∃ reason, x = .jwtError reason) ∨ Transient x)
      (verify lib svc e token) := by
  have hrev : ∀ payload, Run.Raises
      (fun x => (∃ reason, x = .jwtError reason) ∨ Transient x)
      (checkRevocation svc e (claim "jti" payload)) := by
    intro payload w x w' h
    rcases checkRevocation_result svc e payload w with
      ⟨-, reason, w1, hc⟩ | ⟨-, hc | hc⟩ <;> rw [hc] at h
    · exact .inl ⟨reason, by simpa using (Prod.ext_iff.mp h).1.symm⟩
    · simp at h
    · simp at h
  unfold verify
  refine Run.Raises.bind (fun _ _ _ h => by simp at h) fun w => ?_
  split
  · exact (hrev _).bind fun _ => Run.Raises.pure _
  split
  · exact Run.Raises.throw (.inl ⟨_, rfl⟩)
  split
  · exact Run.Raises.throw (.inl ⟨_, rfl⟩)
  split
  · exact Run.Raises.throw (.inl ⟨_, rfl⟩)
  refine (hrev _).bind fun _ => ?_
  refine Run.Raises.bind (fun w x w' h => .inr ?_) fun _ => Run.Raises.pure _
  exact remember_not_refuses svc token _ w x w' h

/-- The delivery settles the message with TERM. -/
def Terminates (msg : NatsMsg) (deps : WorkerDeps) (e : HandleEnv) (w : World) :
    Prop :=
  ∃ w', settleAs deps e msg w = (.ok .term, w')

/-- **A message with a token and a valid body** is terminated just when its
token is refused. -/
theorem terminates_iff {msg : NatsMsg} {deps : WorkerDeps} {e : HandleEnv}
    {w : World} (ht : msg.serviceToken ≠ "")
    (hb : ValidBody deps.codec msg.data) :
    Terminates msg deps e w ↔
      Refuses deps.lib deps.jwtService e.revoked msg.serviceToken w := by
  unfold Terminates settleAs
  rw [if_neg ht]
  constructor
  · rintro ⟨w', h⟩
    unfold Run.tryExcept at h
    rw [Run.bind_apply] at h
    rcases hh : handleMessage deps e msg.data msg.serviceToken w with ⟨r, w1⟩
    rw [hh] at h
    rcases r with (x | _) | _
    · have hterm : settlementOf x = .term := by
        simpa using (Prod.ext_iff.mp h).1
      rcases handleMessage_exception hb hh with ⟨w2, hv⟩ | hnak
      · rcases verify_raises _ _ _ _ _ _ _ hv with ⟨reason, rfl⟩ | hnak
        · exact ⟨reason, w2, hv⟩
        · exact absurd (hnak.symm.trans hterm) (by simp)
      · exact absurd (hnak.symm.trans hterm) (by simp)
    · simp at h
    · simp at h
  · rintro ⟨reason, w', hv⟩
    have haccept : acceptAlert deps e msg.data msg.serviceToken w =
        (.error (.exception (.jwtError reason)), w') := Run.bind_error hv
    have hh : handleMessage deps e msg.data msg.serviceToken w =
        (.error (.exception (.jwtError reason)), w') := Run.bind_error haccept
    refine ⟨w', ?_⟩
    unfold Run.tryExcept
    rw [Run.bind_error hh]
    rfl

/-! ## §4  Runs -/

/-- Workers of one deployment: they share the library, the schema, the audience
and the leeway. Their secrets may have been rotated in between. -/
def SharedWorkers (lib : PyJwt) (codec : AlertCodec) (audience : String)
    (leeway : ℕ) : DeliveryStep → Prop
  | .others _ _ _ _ => True
  | .deliver deps _ _ =>
      deps.lib = lib ∧ deps.codec = codec ∧
        deps.jwtService.audience = audience ∧ deps.jwtService.leeway = leeway

/-- The step is a delivery that ends in TERM. -/
def Poisoned (msg : NatsMsg) (w : World) : DeliveryStep → Prop
  | .others _ _ _ _ => False
  | .deliver deps e _ => Terminates msg deps e w

/-- The step is a delivery that comes too late for the token. -/
def LateDelivery (msg : NatsMsg) (payload : Params) (w : World) :
    DeliveryStep → Prop
  | .others _ _ _ _ => False
  | .deliver deps e _ =>
      TooLate deps.lib deps.jwtService msg.serviceToken payload e.revoked w

/-- No step turns the clock back. -/
theorem time_kept (t : ℕ) :
    KeptByWorker (fun _ => True) (fun _ => True) fun w => t ≤ w.now where
  jwtCache _ _ h := h
  localSeq _ _ h := h
  incr _ _ _ _ h := h
  expire _ _ h := h
  publish e event w _ h := by
    unfold World.afterPublish
    dsimp only
    split <;> exact h
  elapse i w _ h := h.trans (Nat.le_add_right _ _)
  settled _ _ h := h

/-- **A valid message is never terminated** in a run just when every delivery
of it is in time for its token. -/
theorem terminated_iff {lib : PyJwt} {codec : AlertCodec} {audience : String}
    {leeway : ℕ} {msg : NatsMsg} {payload : Params} {writable : String → Bool}
    {w0 : World} {steps : List DeliveryStep}
    (htoken : ValidToken lib audience leeway msg.serviceToken payload w0.now)
    (hbody : ValidBody codec msg.data)
    (hworkers : ∀ a ∈ steps, SharedWorkers lib codec audience leeway a) :
    (¬ (deliverySystem msg writable).Occurs (Poisoned msg) w0 steps) ↔
      ¬ (deliverySystem msg writable).Occurs (LateDelivery msg payload) w0
        steps := by
  refine not_congr (System.occurs_congr (P := fun w => w0.now ≤ w.now)
    (fun _ _ _ hs hp => (time_kept w0.now).step (fun _ _ hw => hw)
      (fun _ _ => trivial) hs hp) (fun w a ha ht => ?_) le_rfl)
  cases a with
  | others i conn jwtCache localSeq => exact Iff.rfl
  | deliver deps e settle =>
      obtain ⟨rfl, rfl, rfl, rfl⟩ := hworkers _ ha
      exact (terminates_iff htoken.nonempty hbody).trans (refuses_iff htoken ht)

/-! ## §5  A delivery that is late by a second -/

/-- The claims of a token for the worker, minted at time 0 with the default
lifetime. -/
def freshClaims : Params :=
  [("iss", .str "ingest"), ("sub", .str "u1"), ("aud", .str "worker"),
    ("tid", .str "acme"), ("jti", .str "j1"), ("iat", .int 0),
    ("exp", .int defaultTtlSec)]

def freshToken (mac : Mac) : String :=
  (standardPyJwt mac).encode freshClaims "k1"

theorem freshToken_valid (mac : Mac) :
    ValidToken (standardPyJwt mac) "worker" defaultLeewaySec
      (sampleMsg (freshToken mac)).serviceToken freshClaims World.fresh.now where
  nonempty := Jws.sign_ne_empty _ _ _ _ _
  signed := ⟨"k1", standardPyJwt_unsign mac "k1" (by
    simp [freshClaims, Json.Distinct, Json.DistinctFields])⟩
  claims := by decide
  audience := rfl

theorem sampleMsg_body (token : String) :
    ValidBody plainCodec (sampleMsg token).data :=
  ⟨⟨none, "acme", "worker", none, none⟩, _, parseAlert_plain _ _⟩

def workerDeps (mac : Mac) : WorkerDeps :=
  ⟨standardPyJwt mac, workerService, plainCodec, true, true⟩

/-- A delivery after some time, by a process that has not seen the token. -/
def deliveredAfter (mac : Mac) (seconds : ℕ) : List DeliveryStep :=
  [.others ⟨seconds * second, []⟩ ⟨false, false⟩ [] [],
    .deliver (workerDeps mac) smoothHandle .returned]

theorem terminated_iff_in_time :
    (¬ (deliverySystem (sampleMsg (freshToken joinMac)) fun _ => true).Occurs
        (Poisoned (sampleMsg (freshToken joinMac))) World.fresh
        (deliveredAfter joinMac 60)) ↔
      ¬ (deliverySystem (sampleMsg (freshToken joinMac)) fun _ => true).Occurs
        (LateDelivery (sampleMsg (freshToken joinMac)) freshClaims) World.fresh
        (deliveredAfter joinMac 60) :=
  terminated_iff (freshToken_valid joinMac) (sampleMsg_body _) (by
    intro a ha
    simp only [deliveredAfter, List.mem_cons, List.not_mem_nil, or_false] at ha
    rcases ha with rfl | rfl
    · trivial
    · exact ⟨rfl, rfl, rfl, rfl⟩)

theorem late_delivery_terminates (mac : Mac) :
    (deliverySystem (sampleMsg (freshToken mac)) fun _ => true).Occurs
      (Poisoned (sampleMsg (freshToken mac))) World.fresh
      (deliveredAfter mac 330) := by
  have hlate : ∀ w : World, w.jwtCache = [] → w.now = 330 * second →
      Terminates (sampleMsg (freshToken mac)) (workerDeps mac) smoothHandle w := by
    intro w hc hn
    have hcached : cachedEntry (sampleMsg (freshToken mac)).serviceToken w =
        none := by simp [cachedEntry, hc, Json.lookup]
    have hafter : beforeExpiry defaultLeewaySec w.now freshClaims = false := by
      rw [hn]
      decide
    have hbody : ValidBody (workerDeps mac).codec
        (sampleMsg (freshToken mac)).data := sampleMsg_body (freshToken mac)
    have htoo : TooLate (standardPyJwt mac) workerService
        (sampleMsg (freshToken mac)).serviceToken freshClaims
        smoothHandle.revoked w := by
      unfold TooLate
      rw [hcached]
      exact .inl hafter
    exact (terminates_iff (freshToken_valid mac).nonempty hbody).mpr
      ((refuses_iff (freshToken_valid mac) (Nat.zero_le _)).mpr htoo)
  unfold deliveredAfter
  refine .inr ⟨{ World.fresh.elapse ⟨330 * second, []⟩ with
    conn := ⟨false, false⟩, jwtCache := [], localSeq := [] }, ?_, .inl ?_⟩
  · rfl
  · exact hlate _ rfl rfl

/-- Valid when published; five and a half minutes later, well within the
retention of the stream, poison. -/
theorem backlog_poisons :
    ValidToken (standardPyJwt joinMac) "worker" defaultLeewaySec
        (sampleMsg (freshToken joinMac)).serviceToken freshClaims
        World.fresh.now ∧
      ValidBody plainCodec (sampleMsg (freshToken joinMac)).data ∧
      330 ≤ alertsMaxAgeSeconds ∧
      (deliverySystem (sampleMsg (freshToken joinMac)) fun _ => true).Occurs
        (Poisoned (sampleMsg (freshToken joinMac))) World.fresh
        (deliveredAfter joinMac 330) :=
  ⟨freshToken_valid joinMac, sampleMsg_body _, by decide,
    late_delivery_terminates joinMac⟩

end AlertTriage
