import AlertTriage.Library.GrowingWorld
import AlertTriage.Library.Transition
import AlertTriage.Pipeline.VendorAnswers
import Mathlib.Algebra.Order.Ring.Rat

/-!
# The token caches under overlapping callers

The caches of `crowdstrike_tool.py` and `cmdb_tool.py` are dicts of the module, and tools of
different triages run side by side: two callers may find the cache stale and both ask for a
token, and either may be the last to save its own. A caller looks at the clock before it asks,
so the expiry it saves is never late, and token and expiry are saved together. So whoever is
handed a token has one with half a minute left, or one issued since he came
(`tokens_handed_out_live`), in every interleaving; provided that the endpoint says in numbers
how long a token lasts, for otherwise the token is saved without its expiry.
-/

namespace AlertTriage.Vendor

open Library Library.Async

/-! ## §1  Lifetimes -/

/-- Valid at least as long. -/
def Expiry.Within (e e' : Expiry) : Prop := ∀ t, e.isAfter t = true → e'.isAfter t = true

/-- The endpoint says in a number how long the token lasts. -/
def hasLifetime (expiresIn : Json) : Bool :=
  match expiresIn with
  | .nan => true
  | .infinity _ => true
  | expiresIn => (number? expiresIn).isSome

/-- The later the start, the later the end. -/
theorem Expiry.after_within {expiresIn : Json} (h : hasLifetime expiresIn = true) {t t' : ℚ}
    (ht : t ≤ t') : ∃ e e', Expiry.after t expiresIn = .ok e ∧
      Expiry.after t' expiresIn = .ok e' ∧ e.Within e' := by
  have hnumber {seconds : ℚ} : (Expiry.at (t + seconds)).Within (.at (t' + seconds)) := by
    intro x hx
    have hlt : x < t + seconds := of_decide_eq_true hx
    exact decide_eq_true (by linarith)
  cases expiresIn with
  | nan => exact ⟨_, _, rfl, rfl, fun _ hx => hx⟩
  | infinity negative => exact ⟨_, _, rfl, rfl, fun _ hx => hx⟩
  | bool b => exact ⟨_, _, rfl, rfl, hnumber⟩
  | int i => exact ⟨_, _, rfl, rfl, hnumber⟩
  | float m e => cases e <;> exact ⟨_, _, rfl, rfl, hnumber⟩
  | null => cases h
  | str s => cases h
  | arr items => cases h
  | obj fields => cases h

theorem Expiry.isAfter_of_le {e : Expiry} {t t' : ℚ} (h : e.isAfter t' = true) (ht : t ≤ t') :
    e.isAfter t = true := by
  cases e with
  | «at» x => exact decide_eq_true (lt_of_le_of_lt ht (of_decide_eq_true h))
  | never => rfl
  | past => cases h

/-! ## §2  Callers, caches and the endpoints -/

/-- A token that an endpoint has issued. -/
structure Issue where
  request : HttpRequest
  token : Json
  since : ℚ
  expiry : Expiry

/-- The token in a response to the request. -/
def issueOf (now : ℚ) (request : HttpRequest) (reply : Except VendorExn HttpResponse) :
    Option Issue := do
  let response ← reply.toOption
  let body ← (do response.raiseForStatus; response.decoded : Except VendorExn Json).toOption
  let token ← (item "access_token" body).toOption
  let expiresIn ← (field body "expires_in" (.int 1800)).toOption
  let expiry ← (Expiry.after now expiresIn).toOption
  return ⟨request, token, now, expiry⟩

structure TokenWorld where
  now : ℚ
  caches : TokenOwner → TokenCache
  issued : List Issue

/-- `_token_cache["token"] = …`, and `["expires_at"]` where that is computed. -/
def TokenWorld.save (w : TokenWorld) (owner : TokenOwner) (token : Json)
    (expiresAt : Option Expiry) : TokenWorld :=
  { w with caches := fun o =>
      if o = owner then ⟨some token, expiresAt.or (w.caches o).expiresAt⟩ else w.caches o }

/-- What the callers of `_get_token` are answered; the reply to a request is the endpoint's. -/
def answerToken (reply : Except VendorExn HttpResponse) :
    Handler VendorCall VendorCall.Reply TokenWorld
  | .time, w => (w.now, w)
  | .readToken owner, w => (w.caches owner, w)
  | .saveToken owner token expiresAt, w => ((), w.save owner token expiresAt)
  | .http request, w =>
      (reply, { w with issued := w.issued ++ (issueOf w.now request reply).toList })
  -- the callers ask for nothing else
  | .aws _, w => (.error lost, w)
  | .pageCount _, w => ((0 : ℕ), w)
  | .intel _, w => (⟨.timeout, .timeout, .timeout⟩, w)
  | .sleep, w => ((), w)
  | .ago _ _, w => (("" : String), w)

/-- A caller of `_get_token`, and when he came. -/
structure Caller where
  owner : TokenOwner
  came : ℚ
  program : Tool Json

structure TokenSite where
  world : TokenWorld
  callers : List Caller

inductive TokenStep where
  | come (owner : TokenOwner)
  | advance (i : ℕ) (o : Outcome) (reply : Except VendorExn HttpResponse)
  | pass (d : ℚ)

section

variable (requests : TokenOwner → HttpRequest)

def TokenSite.step (s : TokenSite) : TokenStep → Option TokenSite
  | .come owner => some
      { s with callers := s.callers ++ [⟨owner, s.world.now, getToken owner (requests owner)⟩] }
  | .advance i o reply =>
      match s.callers[i]? with
      | some caller =>
          let next := Async.resume (answerToken reply) o caller.program s.world
          some ⟨next.2, s.callers.set i { caller with program := next.1 }⟩
      | none => none
  | .pass d =>
      if 0 ≤ d then some { s with world := { s.world with now := s.world.now + d } } else none

def tokenSystem : System TokenSite TokenStep where
  start s := s.callers = [] ∧ s.world.issued = [] ∧ ∀ owner, s.world.caches owner = ⟨none, none⟩
  step := TokenSite.step requests

end

/-! ## §3  What a caller does -/

/-- The clock, and what was issued so far. -/
structure TokenFacts where
  now : ℚ
  issued : List Issue

instance : Preorder TokenFacts where
  le f g := f.now ≤ g.now ∧ f.issued ⊆ g.issued
  le_refl f := ⟨le_refl _, List.Subset.refl _⟩
  le_trans _ _ _ h h' := ⟨h.1.trans h'.1, List.Subset.trans h.2 h'.2⟩

def TokenWorld.facts (w : TokenWorld) : TokenFacts := ⟨w.now, w.issued⟩

/-- A response with a token says in a number how long it lasts. -/
def Timed (reply : Except VendorExn HttpResponse) : Prop :=
  ∀ response body token expiresIn, reply = .ok response → response.json = some body →
    item "access_token" body = .ok token →
    field body "expires_in" (.int 1800) = .ok expiresIn → hasLifetime expiresIn = true

section

variable (requests : TokenOwner → HttpRequest)

/-- The token was issued to the owner, to last at least that long. -/
def IssuedTo (f : TokenFacts) (owner : TokenOwner) (token : Json) (e : Expiry) : Prop :=
  ∃ issue ∈ f.issued, issue.request = requests owner ∧ issue.token = token ∧
    e.Within issue.expiry

/-- A cache without a token, or with an issued one and no late expiry. -/
def CacheHonest (f : TokenFacts) (owner : TokenOwner) (cache : TokenCache) : Prop :=
  cache.token = none ∨
    ∃ token e, cache = ⟨some token, some e⟩ ∧ IssuedTo requests f owner token e

/-- The token was issued since the caller came, or it lasts for another half minute from
then. -/
def Live (owner : TokenOwner) (came : ℚ) (f : TokenFacts) (token : Json) : Prop :=
  ∃ issue ∈ f.issued, issue.request = requests owner ∧ issue.token = token ∧
    (came ≤ issue.since ∨ issue.expiry.isAfter (came + 30) = true)

def Admits (f : TokenFacts) : (c : VendorCall) → c.Reply → Prop
  | .time, now => now = f.now
  | .readToken owner, cache => CacheHonest requests f owner cache
  | .http request, reply => Timed reply ∧ ∀ issue ∈ issueOf f.now request reply, issue ∈ f.issued
  | _, _ => True

/-- What is saved was issued. -/
def Saves (f : TokenFacts) : VendorCall → Prop
  | .saveToken owner token expiresAt =>
      ∃ e, expiresAt = some e ∧ IssuedTo requests f owner token e
  | _ => True

/-- What a program of a tool returns, where it does. -/
def OnOk {α : Type} (Q : TokenFacts → α → Prop) (f : TokenFacts) (r : Except VendorExn α) : Prop :=
  ∀ a, r = .ok a → Q f a

variable {requests} {f : TokenFacts}

theorem always_error {α : Type} {Q : TokenFacts → α → Prop} (e : VendorExn) :
    (throw e : Tool α).Always (Admits requests) (Saves requests) (OnOk Q) f := by
  intro g hg a ha
  cases ha

theorem always_ok {α : Type} {Q : TokenFacts → α → Prop} {a : α} (h : ∀ g, f ≤ g → Q g a) :
    (pure a : Tool α).Always (Admits requests) (Saves requests) (OnOk Q) f := by
  intro g hg b hb
  obtain rfl := Except.ok.inj hb
  exact h g hg

/-- A call whose reply may be an exception, and what its replies lead to. -/
theorem always_ask {α β : Type} {Q : TokenFacts → β → Prop} {c : VendorCall}
    {k : Option c.Reply → Except VendorExn α} {next : α → Tool β}
    (hC : ∀ g, f ≤ g → Saves requests g c) (hnone : ∀ a, k none ≠ .ok a)
    (hsome : ∀ g, f ≤ g → ∀ r a, Admits requests g c r → k (some r) = .ok a →
      (next a).Always (Admits requests) (Saves requests) (OnOk Q) g) :
    (ask c k >>= next : Tool β).Always (Admits requests) (Saves requests) (OnOk Q) f := by
  intro g hg
  refine ⟨hC g hg, ?_, fun r hr => ?_⟩
  · change Always _ _ _ (ExceptT.bindCont next (k none)) g
    cases hk : k none with
    | ok a => exact absurd hk (hnone a)
    | error e => exact always_error e
  · change Always _ _ _ (ExceptT.bindCont next (k (some r))) g
    cases hk : k (some r) with
    | ok a => exact hsome g hg r a hr hk
    | error e => exact always_error e

/-- A call whose reply is a value. -/
theorem always_call {β : Type} {Q : TokenFacts → β → Prop} {c : VendorCall}
    {next : c.Reply → Tool β} (hC : ∀ g, f ≤ g → Saves requests g c)
    (hsome : ∀ g, f ≤ g → ∀ r, Admits requests g c r →
      (next r).Always (Admits requests) (Saves requests) (OnOk Q) g) :
    (call c >>= next : Tool β).Always (Admits requests) (Saves requests) (OnOk Q) f := by
  refine always_ask hC (fun a hno => by cases hno) fun g hg r a hr hok => ?_
  obtain rfl := Except.ok.inj hok
  exact hsome g hg r hr

/-- The token that a response brings was issued, to last at least so long from any time
before. -/
theorem issued_of_response {owner : TokenOwner} {t : ℚ} {response : HttpResponse}
    {body token expiresIn : Json} (ht : t ≤ f.now)
    (hreply : Admits requests f (.http (requests owner)) (.ok response))
    (hbody : (do response.raiseForStatus; response.decoded : Except VendorExn Json) = .ok body)
    (htoken : item "access_token" body = .ok token)
    (hexpires : field body "expires_in" (.int 1800) = .ok expiresIn) :
    ∃ e issue, Expiry.after t expiresIn = .ok e ∧ issue ∈ f.issued ∧
      issue.request = requests owner ∧ issue.token = token ∧ issue.since = f.now ∧
      e.Within issue.expiry := by
  obtain ⟨htimed, hissued⟩ := hreply
  have hlife := htimed response body token expiresIn rfl (decoded_of_ok hbody).2 htoken hexpires
  obtain ⟨e, e', he, he', hwithin⟩ := Expiry.after_within hlife ht
  have hissue : issueOf f.now (requests owner) (.ok response) =
      some ⟨requests owner, token, f.now, e'⟩ := by
    unfold issueOf
    simp only [Except.toOption, Option.bind_eq_bind, Option.bind_some]
    rw [hbody]
    simp [htoken, hexpires, he']
  exact ⟨e, _, he, hissued _ hissue, rfl, rfl, rfl, hwithin⟩

theorem lift_ok_bind {α β : Type} (a : α) (next : α → Tool β) :
    (lift (.ok a) >>= next : Tool β) = next a := rfl

/-- A token of the caller's own. -/
theorem fetchToken_always (owner : TokenOwner) {came now : ℚ} (hnow : now ≤ f.now)
    (hcame : came ≤ f.now) :
    (fetchToken owner (requests owner) now).Always (Admits requests) (Saves requests)
      (OnOk (Live requests owner came)) f := by
  refine always_ask (fun _ _ => trivial) (fun _ hno => by cases hno)
    fun k hk reply body hreply hbody => ?_
  cases reply with
  | error e => cases hbody
  | ok response =>
      cases htoken : item "access_token" body with
      | error e => exact always_error _
      | ok token =>
          cases hexpires : field body "expires_in" (.int 1800) with
          | error e => exact always_error _
          | ok expiresIn =>
              obtain ⟨e, issue, he, hissue, hrequest, hissued, hsince, hwithin⟩ :=
                issued_of_response (hnow.trans hk.1) hreply hbody htoken hexpires
              rw [lift_ok_bind, lift_ok_bind, he]
              refine always_call (fun l hl => ?_) fun l hl _ _ => always_ok fun m hm => ?_
              · exact ⟨e, rfl, issue, hl.2 hissue, hrequest, hissued, hwithin⟩
              · have hlate : came ≤ issue.since := by
                  rw [hsince]
                  exact hcame.trans hk.1
                exact ⟨issue, hm.2 (hl.2 hissue), hrequest, hissued, .inl hlate⟩

/-- **A caller of `_get_token`** saves what was issued, and is handed a live token. -/
theorem getToken_always (owner : TokenOwner) :
    (getToken owner (requests owner)).Always (Admits requests) (Saves requests)
      (OnOk (Live requests owner f.now)) f := by
  refine always_call (fun _ _ => trivial) fun g hg now hnow => ?_
  refine always_call (fun _ _ => trivial) fun g' hg' cache hcache => ?_
  obtain rfl : now = g.now := hnow
  by_cases hfresh : TokenCache.fresh cache g.now = true
  · -- the cached token was issued to last until later
    rw [if_pos hfresh]
    rcases hcache with hnone | ⟨token, e, rfl, issue, hissue, hrequest, htoken, hwithin⟩
    · rw [hnone]
      exact always_error _
    · refine always_ok fun k hk => ⟨issue, hk.2 hissue, hrequest, htoken, .inr ?_⟩
      have hlasts := hwithin _ hfresh
      exact Expiry.isAfter_of_le hlasts (by linarith [hg.1])
  · rw [if_neg hfresh]
    exact fetchToken_always owner hg'.1 (hg.1.trans hg'.1)

/-! ## §4  Every interleaving -/

/-- The caches are honest, and every caller's program keeps to it from here on. -/
structure Honest (requests : TokenOwner → HttpRequest) (s : TokenSite) : Prop where
  caches : ∀ owner, CacheHonest requests s.world.facts owner (s.world.caches owner)
  callers : ∀ caller ∈ s.callers, caller.program.Always (Admits requests) (Saves requests)
    (OnOk (Live requests caller.owner caller.came)) s.world.facts

theorem IssuedTo.mono {g : TokenFacts} (hfg : f ≤ g) {owner : TokenOwner} {token : Json}
    {e : Expiry} (h : IssuedTo requests f owner token e) : IssuedTo requests g owner token e := by
  obtain ⟨issue, hissue, hrest⟩ := h
  exact ⟨issue, hfg.2 hissue, hrest⟩

theorem CacheHonest.mono {g : TokenFacts} (hfg : f ≤ g) {owner : TokenOwner}
    {cache : TokenCache} (h : CacheHonest requests f owner cache) :
    CacheHonest requests g owner cache :=
  h.imp id fun ⟨token, e, hcache, hissued⟩ => ⟨token, e, hcache, hissued.mono hfg⟩

/-- What a call makes of the world: the clock stands, and no issue is forgotten. -/
theorem answerToken_facts (reply : Except VendorExn HttpResponse) (c : VendorCall)
    (w : TokenWorld) : w.facts ≤ (answerToken reply c w).2.facts := by
  cases c with
  | http request => exact ⟨le_refl _, List.subset_append_left _ _⟩
  | _ => exact le_refl _

/-- And what it is answered is admitted, where the caches are honest. -/
theorem answerToken_admits {reply : Except VendorExn HttpResponse} (hreply : Timed reply)
    {w : TokenWorld} (hcaches : ∀ owner, CacheHonest requests w.facts owner (w.caches owner))
    (c : VendorCall) :
    Admits requests (answerToken reply c w).2.facts c (answerToken reply c w).1 := by
  cases c with
  | http request =>
      refine ⟨hreply, fun issue hissue => List.mem_append_right _ ?_⟩
      rwa [Option.mem_toList]
  | readToken owner => exact hcaches owner
  | time => rfl
  | _ => trivial

theorem answerToken_caches {reply : Except VendorExn HttpResponse} {w : TokenWorld}
    (hcaches : ∀ owner, CacheHonest requests w.facts owner (w.caches owner)) {c : VendorCall}
    (hc : Saves requests w.facts c) (owner : TokenOwner) :
    CacheHonest requests (answerToken reply c w).2.facts owner
      ((answerToken reply c w).2.caches owner) := by
  cases c with
  | saveToken owner' token expiresAt =>
      obtain ⟨e, rfl, hissued⟩ := hc
      change CacheHonest requests w.facts owner
        (if owner = owner' then ⟨some token, some e⟩ else w.caches owner)
      split
      · rename_i howner
        subst howner
        exact .inr ⟨token, e, rfl, hissued⟩
      · exact hcaches owner
  | http request =>
      exact (hcaches owner).mono (answerToken_facts reply (.http request) w)
  | _ => exact hcaches owner

/-- The endpoints say in numbers how long their tokens last. -/
def TimedStep (_ : TokenSite) : TokenStep → Prop
  | .advance _ _ reply => Timed reply
  | _ => True

theorem Honest.step {s s' : TokenSite} {l : TokenStep} (h : Honest requests s)
    (hl : TimedStep s l) (hstep : s.step requests l = some s') : Honest requests s' := by
  cases l with
  | come owner =>
      obtain rfl := Option.some.inj hstep
      refine ⟨h.caches, fun caller hcaller => ?_⟩
      rcases List.mem_append.mp hcaller with hold | hnew
      · exact h.callers caller hold
      · obtain rfl := List.mem_singleton.mp hnew
        exact getToken_always owner
  | pass d =>
      simp only [TokenSite.step] at hstep
      split at hstep
      · rename_i hd
        obtain rfl := Option.some.inj hstep
        have hgrow : s.world.facts ≤ ⟨s.world.now + d, s.world.issued⟩ :=
          ⟨le_add_of_nonneg_right hd, List.Subset.refl _⟩
        exact ⟨fun owner => (h.caches owner).mono hgrow, fun caller hcaller =>
          (h.callers caller hcaller).mono hgrow⟩
      · cases hstep
  | advance i o reply =>
      simp only [TokenSite.step] at hstep
      split at hstep
      · rename_i caller hi
        obtain rfl := Option.some.inj hstep
        have hcaller := h.callers caller (List.mem_of_getElem? hi)
        have hworld := resume_world (answerToken reply) o caller.program s.world
        -- the facts grow, and the caches stay honest
        have hgrow : s.world.facts ≤
            (caller.program.resume (answerToken reply) o s.world).2.facts := by
          rcases hworld with heq | ⟨c, -, -, heq⟩
          · rw [heq]
          · rw [heq]
            exact answerToken_facts reply c s.world
        refine ⟨fun owner => ?_, fun other hother => ?_⟩
        · rcases hworld with heq | ⟨c, hc, -, heq⟩
          · dsimp only
            rw [heq]
            exact h.caches owner
          · dsimp only
            rw [heq]
            exact answerToken_caches h.caches (hcaller.of_awaited hc) owner
        · rcases List.mem_or_eq_of_mem_set hother with hold | rfl
          · exact (h.callers other hold).mono hgrow
          · refine hcaller.resume hgrow fun ho c hc => ?_
            subst ho
            rw [resume_applied hc rfl]
            exact answerToken_admits hl h.caches c
      · cases hstep

/-- **Tokens that are handed out are live**: however the callers of `_get_token` overlap, the
clock goes on and calls fail, a caller who returns has a token that his own endpoint issued,
either since he came or to last for more than half a minute from then; if the endpoints say in
numbers how long their tokens last. -/
theorem tokens_handed_out_live (requests : TokenOwner → HttpRequest) {s : TokenSite}
    (h : (tokenSystem requests).Reached TimedStep s) {caller : Caller}
    (hcaller : caller ∈ s.callers) {token : Json}
    (hreturned : caller.program = (pure token : Tool Json)) :
    Live requests caller.owner caller.came s.world.facts token := by
  have hhonest : Honest requests s := by
    refine h.invariant (P := Honest requests) ?_ fun s l s' hs hl hstep => hs.step hl hstep
    rintro s ⟨hcallers, -, hcaches⟩
    refine ⟨fun owner => .inl (by rw [hcaches]), fun caller hno => ?_⟩
    rw [hcallers] at hno
    cases hno
  have halways := hhonest.callers caller hcaller
  rw [hreturned] at halways
  exact halways _ le_rfl token rfl

end

/-! ## §5  A token in half an hour -/

def sampleRequests (owner : TokenOwner) : HttpRequest :=
  match owner with
  | .crowdstrike => tokenRequest "https://api.crowdstrike.com/oauth2/token" [] []
  | .servicenow => tokenRequest "https://snow/oauth_token.do" [] []

def tokenResponse : HttpResponse :=
  ⟨200, "", some (.obj [("access_token", .str "t1"), ("expires_in", .int 1799)])⟩

def siteBefore : TokenSite := ⟨⟨0, fun _ => ⟨none, none⟩, []⟩, []⟩

/-- The caller has found nothing in the cache. -/
def siteAsking : TokenSite :=
  ⟨siteBefore.world,
    [⟨.crowdstrike, 0, fetchToken .crowdstrike (sampleRequests .crowdstrike) 0⟩]⟩

theorem run_asking : (tokenSystem sampleRequests).run siteBefore
    [.come .crowdstrike, .advance 0 .returned (.error .timeout),
      .advance 0 .returned (.error .timeout)] = some siteAsking := by
  have hstale : ¬ TokenCache.fresh ⟨none, none⟩ 0 = true := by decide +kernel
  have hfetch : (if TokenCache.fresh ⟨none, none⟩ 0 = true then
      (throw (.python (.keyError "token")) : Tool Json)
      else fetchToken .crowdstrike (sampleRequests .crowdstrike) 0) =
        fetchToken .crowdstrike (sampleRequests .crowdstrike) 0 := if_neg hstale
  rw [siteAsking, ← hfetch]
  rfl

theorem timed_tokenResponse : Timed (.ok tokenResponse) := by
  rintro response body token expiresIn hresponse hbody - hexpires
  rw [← Except.ok.inj hresponse] at hbody
  rw [← Option.some.inj hbody] at hexpires
  rw [← Except.ok.inj hexpires]
  rfl

theorem timed_error (e : VendorExn) : Timed (.error e) := fun _ _ _ _ hno => by cases hno

def sampleSteps : List TokenStep :=
  [.come .crowdstrike, .advance 0 .returned (.error .timeout),
      .advance 0 .returned (.error .timeout)] ++
    [.advance 0 .returned (.ok tokenResponse), .advance 0 .returned (.error .timeout)]

theorem timed_sampleSteps : ∀ l ∈ sampleSteps, ∀ s, TimedStep s l := by
  intro l hl s
  simp only [sampleSteps, List.mem_append, List.mem_cons, List.not_mem_nil, or_false] at hl
  rcases hl with (rfl | rfl | rfl) | rfl | rfl
  · trivial
  · exact timed_error _
  · exact timed_error _
  · exact timed_tokenResponse
  · exact timed_error _

theorem tokens_handed_out_live_sample : ∃ s caller,
    (tokenSystem sampleRequests).Reached TimedStep s ∧ caller ∈ s.callers ∧
    Live sampleRequests caller.owner caller.came s.world.facts (.str "t1") := by
  have hstart : (tokenSystem sampleRequests).Reached TimedStep siteBefore :=
    .start ⟨rfl, rfl, fun _ => rfl⟩
  have hrun : (tokenSystem sampleRequests).run siteBefore sampleSteps = some _ :=
    (System.run_append run_asking).trans rfl
  have hreached := (System.Meets.of_forall timed_sampleSteps).reached hstart hrun
  exact ⟨_, _, hreached, List.mem_singleton.mpr rfl,
    tokens_handed_out_live sampleRequests hreached (List.mem_singleton.mpr rfl) rfl⟩

end AlertTriage.Vendor
