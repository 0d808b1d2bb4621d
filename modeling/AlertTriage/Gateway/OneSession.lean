import AlertTriage.Gateway.Sessions

/-!
# One session for each durable object

A ticket is in Redis, in an answer on its way, or behind an accepted websocket,
and in one of these places at most once (`budget`). The object of a ticket is
its own, so an object accepts one websocket at most, its session is the one the
ticket was issued to as long as it has any, and it registers for nobody else
(`one_session`).
-/

namespace AlertTriage.Gateway

open Library

/-! ## §1  Counting a ticket -/

def Event.accepts (ticket : String) : Event → Bool
  | .accepted _ t _ => t == ticket
  | _ => false

def Event.acceptsAt (doId : String) : Event → Bool
  | .accepted d _ _ => d == doId
  | _ => false

def Event.closes (doId : String) : Event → Bool
  | .closed d => d == doId
  | _ => false

/-- The upgrade has the session of the ticket in its answer. -/
def Upgrade.holds (ticket : String) (u : Upgrade) : Bool :=
  u.ticket == ticket && match u.redemption with
    | .answered (some _) => true
    | _ => false

def stored (tickets : TtlStore TicketRedemption) (ticket : String) : ℕ :=
  if (tickets.lookup (wsTicketKey ticket)).isSome then 1 else 0

/-- How often a ticket is anywhere between its issue and its websocket. -/
def budget (tickets : TtlStore TicketRedemption) (upgrades : List Upgrade)
    (log : List Event) (ticket : String) : ℕ :=
  stored tickets ticket + upgrades.countP (Upgrade.holds ticket) +
    log.countP (Event.accepts ticket)

theorem stored_le_one (tickets : TtlStore TicketRedemption) (ticket : String) :
    stored tickets ticket ≤ 1 := by
  unfold stored
  split <;> omega

/-- What holds in every state of the system. -/
structure Inv (p : Platform) (s : Sessions) : Prop where
  issued : (s.issued.map Prod.fst).Nodup
  stored : ∀ ticket e, s.tickets.lookup (wsTicketKey ticket) = some e →
    (ticket, e.value) ∈ s.issued
  routed : ∀ u ∈ s.upgrades, u.doId = p.doId u.ticket
  answered : ∀ u ∈ s.upgrades, ∀ session, u.redemption = .answered (some session) →
    (u.ticket, session) ∈ s.issued
  budget : ∀ ticket, budget s.tickets s.upgrades s.log ticket ≤ 1
  accepted : ∀ d ticket session, .accepted d ticket session ∈ s.log →
    d = p.doId ticket ∧ (ticket, session) ∈ s.issued
  session : ∀ d session, (s.objects d).ticket = some session →
    ∃ ticket, .accepted d ticket session ∈ s.log
  registration : ∀ w, .posted (.watch w) ∈ s.log →
    ∃ ticket session, .accepted w.do_id ticket session ∈ s.log ∧
      w.user_id = session.user_id ∧ w.tenant_id = session.tenant_id
  sockets : ∀ d, (s.objects d).sockets + s.log.countP (Event.closes d) ≤
    s.log.countP (Event.acceptsAt d)

theorem Inv.start (p : Platform) : Inv p Sessions.start where
  issued := List.nodup_nil
  stored := fun _ _ h => by cases h
  routed := fun _ h => by cases h
  answered := fun _ h => by cases h
  budget := fun ticket => by simp [Gateway.budget, Gateway.stored, Sessions.start]
  accepted := fun _ _ _ h => by cases h
  session := fun _ _ h => by cases h
  registration := fun _ h => by cases h
  sockets := fun d => by simp [Sessions.start, AnalystSession.fresh]

/-- The session of an issued ticket is one. -/
theorem Inv.session_unique {p : Platform} {s : Sessions} (hs : Inv p s)
    {ticket : String} {a b : TicketRedemption} (ha : (ticket, a) ∈ s.issued)
    (hb : (ticket, b) ∈ s.issued) : a = b :=
  congrArg Prod.snd (List.inj_on_of_nodup_map hs.issued ha hb rfl)

/-! ## §2  Handlers -/

/-- A handler that neither accepts a websocket nor takes on a session, registers
for the session it has, and closes no more sockets than there are. -/
structure Regular (doId : String) (o : AnalystSession)
    (r : AnalystSession × List Event) : Prop where
  ticket : r.1.ticket = o.ticket
  accepted : ∀ d ticket session, .accepted d ticket session ∉ r.2
  registration : ∀ w, .posted (.watch w) ∈ r.2 → w.do_id = doId ∧
    ∃ session, o.ticket = some session ∧ w.user_id = session.user_id ∧
      w.tenant_id = session.tenant_id
  sockets : r.1.sockets + r.2.countP (Event.closes doId) ≤ o.sockets
  closes : ∀ d, .closed d ∈ r.2 → d = doId

namespace AnalystSession

variable {doId : String} {o : AnalystSession}

/-- A handler that only sends and posts nothing of a registration. -/
theorem regular_of_quiet {o' : AnalystSession} {es : List Event}
    (hticket : o'.ticket = o.ticket) (hsockets : o'.sockets = o.sockets)
    (hes : ∀ e ∈ es, (∃ frame, e = .sent doId frame) ∨
      (∃ envelope, e = .pushed doId envelope) ∨
      ∃ p, e = .posted p ∧ ∀ w, p ≠ .watch w) :
    Regular doId o (o', es) where
  ticket := hticket
  accepted := by
    intro d ticket session he
    rcases hes _ he with ⟨frame, h⟩ | ⟨envelope, h⟩ | ⟨p, h, -⟩
    · cases h
    · cases h
    · cases h
  registration := by
    intro w he
    rcases hes _ he with ⟨frame, h⟩ | ⟨envelope, h⟩ | ⟨p, h, hw⟩
    · cases h
    · cases h
    · obtain rfl := Event.posted.inj h
      exact absurd rfl (hw w)
  sockets := by
    have hnone : es.countP (Event.closes doId) = 0 := by
      rw [List.countP_eq_zero]
      intro e he
      rcases hes e he with ⟨frame, rfl⟩ | ⟨envelope, rfl⟩ | ⟨p, rfl, -⟩ <;>
        simp [Event.closes]
    show o'.sockets + es.countP (Event.closes doId) ≤ o.sockets
    omega
  closes := by
    intro d he
    rcases hes _ he with ⟨frame, h⟩ | ⟨envelope, h⟩ | ⟨p, h, -⟩
    · cases h
    · cases h
    · cases h

theorem regular_handleWatch (alertId : String) :
    Regular doId o (handleWatch alertId o) := by
  unfold handleWatch
  split
  · exact regular_of_quiet rfl rfl fun _ h => by cases h
  · exact regular_of_quiet rfl rfl fun _ h => by cases h

theorem regular_afterSnapshot (pushUrl : String) (i : ℕ) (alertId : String)
    (snapshot : Option Snapshot) :
    Regular doId o (afterSnapshot doId pushUrl i alertId snapshot o) := by
  unfold afterSnapshot
  split
  · refine regular_of_quiet rfl rfl fun e he => .inl ⟨_, List.mem_singleton.mp he⟩
  · refine regular_of_quiet rfl rfl fun e he => .inl ⟨_, List.mem_singleton.mp he⟩
  · rename_i session hsession
    exact
      { ticket := rfl
        accepted := by simp
        registration := by
          intro w hw
          simp only [List.mem_cons, List.not_mem_nil, or_false, reduceCtorEq,
            false_or, Event.posted.injEq, Post.watch.injEq] at hw
          subst hw
          exact ⟨rfl, session, hsession, rfl, rfl⟩
        sockets := by simp [Event.closes]
        closes := by simp }

theorem regular_afterRegistration (i : ℕ) (alertId : String) (ok : Bool) :
    Regular doId o (afterRegistration doId i alertId ok o) := by
  unfold afterRegistration
  dsimp only
  split
  · refine regular_of_quiet ?_ ?_ fun _ h => by cases h
    · split <;> rfl
    · split <;> rfl
  · exact regular_of_quiet rfl rfl fun e he => .inl ⟨_, List.mem_singleton.mp he⟩

theorem regular_handleUnwatch (alertId : String) :
    Regular doId o (handleUnwatch doId alertId o) := by
  unfold handleUnwatch
  split
  · exact regular_of_quiet rfl rfl fun _ h => by cases h
  · refine regular_of_quiet rfl rfl fun e he => .inr (.inr ⟨_, List.mem_singleton.mp he, ?_⟩)
    intro w h
    cases h

theorem regular_webSocketMessage (msg : Option ClientMessage) :
    Regular doId o (webSocketMessage doId msg o) := by
  have hsend : ∀ frame, Regular doId o (o, [.sent doId frame]) := fun frame =>
    regular_of_quiet rfl rfl fun e he => .inl ⟨_, List.mem_singleton.mp he⟩
  unfold webSocketMessage
  split
  · exact hsend _
  · split
    · exact hsend _
    · split
      · exact regular_handleWatch _
      · exact regular_handleUnwatch _
      · exact hsend _
      · exact hsend _

theorem regular_handlePush (envelope : Option PushEnvelope) :
    Regular doId o (o, (handlePush doId envelope o).2) := by
  have hnone : Regular doId o (o, []) := regular_of_quiet rfl rfl fun _ h => by cases h
  unfold handlePush
  split
  · exact hnone
  · split
    · exact hnone
    · split
      · exact hnone
      · refine regular_of_quiet rfl rfl fun e he => ?_
        rcases List.mem_cons.mp he with rfl | he
        · exact .inr (.inl ⟨_, rfl⟩)
        · exact .inl ⟨_, List.mem_singleton.mp he⟩

theorem regular_fireCancel (alertId : String) :
    Regular doId o (fireCancel doId alertId o) := by
  unfold fireCancel
  split
  · exact regular_of_quiet rfl rfl fun _ h => by cases h
  · refine regular_of_quiet rfl rfl fun e he => .inr (.inr ⟨_, List.mem_singleton.mp he, ?_⟩)
    intro w h
    cases h

theorem regular_webSocketClose (now : ℕ) (h : o.sockets ≠ 0) :
    Regular doId o (webSocketClose now doId o) := by
  obtain ⟨pending, hfold⟩ := foldl_scheduleCancel_eq now o.watchedAlerts o
  unfold webSocketClose
  rw [hfold]
  have hone : o.sockets - 1 + 1 ≤ o.sockets := by omega
  cases hticket : o.ticket with
  | none =>
      exact
        { ticket := hticket ▸ rfl
          accepted := by simp
          registration := by simp
          sockets := by simpa [Event.closes] using hone
          closes := by simp }
  | some session =>
      exact
        { ticket := hticket ▸ rfl
          accepted := by simp
          registration := by simp
          sockets := by simpa [Event.closes] using hone
          closes := by simp }

end AnalystSession

/-- Only an accepted upgrade gives a session. -/
theorem Turn.regular {p : Platform} {s : Sessions} {l : Step} {d : String} {handler : Handler}
    (ht : Turn p s l d handler) :
    (∃ ticket session, handler = AnalystSession.accept d ticket session) ∨
      Regular d (s.objects d) (handler (s.objects d)) := by
  cases ht with
  | accept hi => exact .inl ⟨_, _, rfl⟩
  | message => exact .inr (AnalystSession.regular_webSocketMessage _)
  | snapshot => exact .inr (AnalystSession.regular_afterSnapshot _ _ _ _)
  | registered => exact .inr (AnalystSession.regular_afterRegistration _ _ _)
  | push => exact .inr (AnalystSession.regular_handlePush _)
  | close hopen => exact .inr (AnalystSession.regular_webSocketClose _ hopen)
  | timer => exact .inr (AnalystSession.regular_fireCancel _)

/-! ## §3  Steps -/

section Step

variable {p : Platform} {s : Sessions} (hs : Inv p s)
include hs

/-- A regular handler keeps the invariant. -/
theorem Inv.handle {doId : String} {h : Handler}
    (hr : Regular doId (s.objects doId) (h (s.objects doId))) :
    Inv p (s.handle doId h) := by
  -- no regular handler accepts, so the counts of accepted sockets stay
  have haccepts : ∀ q : Event → Bool, (∀ e, q e = true → ∃ d t σ, e = .accepted d t σ) →
      (s.handle doId h).log.countP q = s.log.countP q := by
    intro q hq
    show (s.log ++ (h (s.objects doId)).2).countP q = _
    rw [List.countP_append, Nat.add_eq_left, List.countP_eq_zero]
    intro e he hqe
    obtain ⟨d, t, σ, rfl⟩ := hq e hqe
    exact hr.accepted d t σ he
  have hlog : ∀ d t σ, .accepted d t σ ∈ (s.handle doId h).log ↔
      .accepted d t σ ∈ s.log := by
    intro d t σ
    show _ ∈ s.log ++ (h (s.objects doId)).2 ↔ _
    rw [List.mem_append, or_iff_left (hr.accepted d t σ)]
  exact
    { issued := hs.issued
      stored := hs.stored
      routed := hs.routed
      answered := hs.answered
      budget := by
        intro ticket
        unfold Gateway.budget
        rw [haccepts _ (by
          intro e he
          cases e with
          | accepted d t σ => exact ⟨d, t, σ, rfl⟩
          | _ => cases he)]
        exact hs.budget ticket
      accepted := fun d t σ he => hs.accepted d t σ ((hlog d t σ).mp he)
      session := by
        intro d session hsession
        have hold : (s.objects d).ticket = some session := by
          by_cases hd : d = doId
          · subst hd
            simpa [Sessions.handle, hr.ticket] using hsession
          · simpa [Sessions.handle, hd] using hsession
        obtain ⟨t, ht⟩ := hs.session d session hold
        exact ⟨t, (hlog _ _ _).mpr ht⟩
      registration := by
        intro w hw
        rcases List.mem_append.mp hw with hw | hw
        · obtain ⟨t, σ, ht, hfields⟩ := hs.registration w hw
          exact ⟨t, σ, (hlog _ _ _).mpr ht, hfields⟩
        · obtain ⟨rfl, σ, hσ, hfields⟩ := hr.registration w hw
          obtain ⟨t, ht⟩ := hs.session _ σ hσ
          exact ⟨t, σ, (hlog _ _ _).mpr ht, hfields⟩
      sockets := by
        intro d
        rw [haccepts (Event.acceptsAt d) (by
          intro e he
          cases e with
          | accepted d t σ => exact ⟨d, t, σ, rfl⟩
          | _ => cases he)]
        have hold := hs.sockets d
        have happend : (s.handle doId h).log.countP (Event.closes d) =
            s.log.countP (Event.closes d) +
              (h (s.objects doId)).2.countP (Event.closes d) := List.countP_append
        by_cases hd : d = doId
        · subst hd
          have hobj : ((s.handle d h).objects d).sockets =
              (h (s.objects d)).1.sockets := by simp [Sessions.handle]
          have := hr.sockets
          omega
        · have hobj : (s.handle doId h).objects d = s.objects d := by
            simp [Sessions.handle, hd]
          have hzero : (h (s.objects doId)).2.countP (Event.closes d) = 0 := by
            rw [List.countP_eq_zero]
            intro e he hcl
            cases e with
            | closed d' =>
                have hd' : d' = d := by simpa [Event.closes] using hcl
                exact hd (hd' ▸ hr.closes d' he)
            | _ => cases hcl
          rw [hobj]
          omega }

/-- A ticket that was never issued is nowhere. -/
theorem Inv.budget_of_not_issued {ticket : String}
    (h : ticket ∉ s.issued.map Prod.fst) :
    Gateway.budget s.tickets s.upgrades s.log ticket = 0 := by
  have hnot : ∀ session, (ticket, session) ∉ s.issued := fun session hm =>
    h (List.mem_map.mpr ⟨_, hm, rfl⟩)
  have hstored : Gateway.stored s.tickets ticket = 0 := by
    unfold Gateway.stored
    rw [if_neg]
    intro hsome
    obtain ⟨e, he⟩ := Option.isSome_iff_exists.mp hsome
    exact hnot _ (hs.stored ticket e he)
  have hanswered : s.upgrades.countP (Upgrade.holds ticket) = 0 := by
    rw [List.countP_eq_zero]
    intro u hu hholds
    unfold Upgrade.holds at hholds
    split at hholds
    · rename_i session hred
      have hticket : u.ticket = ticket := by simpa using hholds
      exact hnot session (hticket ▸ hs.answered u hu session hred)
    · simp at hholds
  have haccepted : s.log.countP (Event.accepts ticket) = 0 := by
    rw [List.countP_eq_zero]
    intro e he haccepts
    cases e with
    | accepted d t session =>
        have ht : t = ticket := by simpa [Event.accepts] using haccepts
        exact hnot session (ht ▸ (hs.accepted d t session he).2)
    | _ => cases haccepts
  unfold Gateway.budget
  omega

theorem Inv.issueWsTicket {ticket : String} {session : TicketRedemption} {ttl : ℕ}
    (h : ticket ∉ s.issued.map Prod.fst) :
    Inv p { s with
      tickets := s.tickets.setEx s.clock (wsTicketKey ticket) session ttl
      issued := s.issued ++ [(ticket, session)] } where
  issued := by
    rw [List.map_append, List.nodup_append]
    refine ⟨hs.issued, List.nodup_singleton _, ?_⟩
    rintro a ha b hb rfl
    obtain rfl := List.mem_singleton.mp hb
    exact h ha
  stored := by
    intro t e he
    by_cases ht : t = ticket
    · subst ht
      rw [TtlStore.setEx, AList.lookup_insert] at he
      obtain rfl := Option.some.inj he
      exact List.mem_append_right _ (List.mem_singleton_self _)
    · rw [TtlStore.setEx, AList.lookup_insert_ne (fun hk => ht (wsTicketKey_inj.mp hk))] at he
      exact List.mem_append_left _ (hs.stored t e he)
  routed := hs.routed
  answered := fun u hu σ hσ => List.mem_append_left _ (hs.answered u hu σ hσ)
  budget := by
    intro t
    show Gateway.stored (s.tickets.setEx s.clock (wsTicketKey ticket) session ttl) t +
      s.upgrades.countP (Upgrade.holds t) + s.log.countP (Event.accepts t) ≤ 1
    by_cases ht : t = ticket
    · subst ht
      -- a new ticket is nowhere yet
      have hzero := hs.budget_of_not_issued h
      have hone := stored_le_one (s.tickets.setEx s.clock (wsTicketKey t) session ttl) t
      unfold Gateway.budget at hzero
      omega
    · have hold := hs.budget t
      have hstored : Gateway.stored
          (s.tickets.setEx s.clock (wsTicketKey ticket) session ttl) t =
          Gateway.stored s.tickets t := by
        unfold Gateway.stored
        rw [TtlStore.setEx, AList.lookup_insert_ne (fun hk => ht (wsTicketKey_inj.mp hk))]
      unfold Gateway.budget at hold
      omega
  accepted := fun d t σ he =>
    ⟨(hs.accepted d t σ he).1, List.mem_append_left _ (hs.accepted d t σ he).2⟩
  session := hs.session
  registration := hs.registration
  sockets := hs.sockets

/-- A new request holds nothing. -/
theorem Inv.upgrade (ticket : String) :
    Inv p { s with
      upgrades := s.upgrades ++ [⟨p.doId ticket, ticket, .requested⟩] } where
  issued := hs.issued
  stored := hs.stored
  routed := by
    intro u hu
    rcases List.mem_append.mp hu with hu | hu
    · exact hs.routed u hu
    · obtain rfl := List.mem_singleton.mp hu
      rfl
  answered := by
    intro u hu σ hσ
    rcases List.mem_append.mp hu with hu | hu
    · exact hs.answered u hu σ hσ
    · obtain rfl := List.mem_singleton.mp hu
      cases hσ
  budget := by
    intro t
    have hold := hs.budget t
    have hnew : Upgrade.holds t ⟨p.doId ticket, ticket, .requested⟩ = false :=
      Bool.and_false _
    have hcount : (s.upgrades ++ [(⟨p.doId ticket, ticket, .requested⟩ : Upgrade)]).countP
        (Upgrade.holds t) = s.upgrades.countP (Upgrade.holds t) := by
      rw [List.countP_append, List.countP_singleton, hnew]
      rfl
    unfold Gateway.budget at hold ⊢
    rw [hcount]
    exact hold
  accepted := hs.accepted
  session := hs.session
  registration := hs.registration
  sockets := hs.sockets

omit hs in
/-- One upgrade goes on: its ticket is counted as before and after. -/
theorem countP_holds_set {i : ℕ} {u : Upgrade} (hi : s.upgrades[i]? = some u)
    (u' : Upgrade) (ticket : String) :
    (s.upgrades.set i u').countP (Upgrade.holds ticket) +
        (if Upgrade.holds ticket u then 1 else 0) =
      s.upgrades.countP (Upgrade.holds ticket) +
        (if Upgrade.holds ticket u' then 1 else 0) := by
  obtain ⟨hlt, rfl⟩ := List.getElem?_eq_some_iff.mp hi
  have hle : (if Upgrade.holds ticket s.upgrades[i] then 1 else 0) ≤
      s.upgrades.countP (Upgrade.holds ticket) :=
    List.boole_getElem_le_countP (p := Upgrade.holds ticket) hlt
  rw [List.countP_set hlt]
  omega

theorem Inv.routed_set {i : ℕ} {d t : String} {old new : Redemption}
    (hi : s.upgrades[i]? = some ⟨d, t, old⟩) :
    ∀ u ∈ s.upgrades.set i ⟨d, t, new⟩, u.doId = p.doId u.ticket := by
  intro u hu
  rcases List.mem_or_eq_of_mem_set hu with hu | rfl
  · exact hs.routed u hu
  · show d = p.doId t
    exact hs.routed ⟨d, t, old⟩ (List.mem_of_getElem? hi)

omit hs in
theorem holds_eq_false {d t : String} {r : Redemption}
    (h : ∀ session, r ≠ .answered (some session)) (ticket : String) :
    Upgrade.holds ticket ⟨d, t, r⟩ = false := by
  unfold Upgrade.holds
  split
  · rename_i session hr
    exact absurd hr (h session)
  · exact Bool.and_false _

/-- The ticket of a request leaves Redis with its answer, or stays there. -/
theorem Inv.redeem {i : ℕ} {d t : String} {old new : Redemption} {admitted : Bool}
    (hi : s.upgrades[i]? = some ⟨d, t, old⟩)
    (hold : ∀ session, old ≠ .answered (some session))
    (hnew : ∀ session, new = .answered (some session) →
      (Gateway.redeem s.clock admitted t s.tickets).1 = some session) :
    Inv p { s with
      tickets := (Gateway.redeem s.clock admitted t s.tickets).2
      upgrades := s.upgrades.set i ⟨d, t, new⟩ } where
  issued := hs.issued
  stored := by
    intro ticket e he
    apply hs.stored ticket e
    rcases redeem_cases s.clock admitted t s.tickets with h | ⟨h, -⟩
    · rwa [h] at he
    · dsimp only at he
      rw [h, TtlStore.remove] at he
      by_cases hk : wsTicketKey ticket = wsTicketKey t
      · rw [hk, AList.lookup_erase] at he
        cases he
      · rwa [AList.lookup_erase_ne hk] at he
  routed := hs.routed_set hi
  answered := by
    intro u hu session hsession
    rcases List.mem_or_eq_of_mem_set hu with hu | rfl
    · exact hs.answered u hu session hsession
    · have hgot := hnew session hsession
      rcases redeem_cases s.clock admitted t s.tickets with h | ⟨-, h⟩
      · rw [h] at hgot
        cases hgot
      · obtain ⟨e, he, rfl⟩ := h session hgot
        exact hs.stored t e he
  budget := by
    intro ticket
    show Gateway.stored (Gateway.redeem s.clock admitted t s.tickets).2 ticket +
      (s.upgrades.set i ⟨d, t, new⟩).countP (Upgrade.holds ticket) +
        s.log.countP (Event.accepts ticket) ≤ 1
    have hcount := countP_holds_set hi ⟨d, t, new⟩ ticket
    rw [holds_eq_false hold] at hcount
    have hbudget := hs.budget ticket
    unfold Gateway.budget at hbudget
    rcases redeem_cases s.clock admitted t s.tickets with h | ⟨h, hgot⟩
    · have hnone : ∀ session, new ≠ .answered (some session) := by
        intro session hsession
        have := hnew session hsession
        rw [h] at this
        cases this
      rw [holds_eq_false hnone] at hcount
      rw [h]
      dsimp only
      simp only [Bool.false_eq_true, if_false] at hcount
      omega
    · rw [h]
      -- the stored ticket is spent, and goes to at most this one upgrade
      by_cases ht : ticket = t
      · subst ht
        have hzero : Gateway.stored (s.tickets.remove (wsTicketKey ticket)) ticket = 0 := by
          simp [Gateway.stored, TtlStore.remove]
        by_cases hsome : ∃ session, new = .answered (some session)
        · obtain ⟨session, hsession⟩ := hsome
          obtain ⟨e, he, -⟩ := hgot session (hnew session hsession)
          have hone : Gateway.stored s.tickets ticket = 1 := by
            simp [Gateway.stored, he]
          have hle : (if Upgrade.holds ticket ⟨d, ticket, new⟩ then 1 else 0) ≤ 1 := by
            split <;> omega
          simp only [Bool.false_eq_true, if_false] at hcount
          omega
        · rw [holds_eq_false (fun session h => hsome ⟨session, h⟩)] at hcount
          simp only [Bool.false_eq_true, if_false] at hcount
          omega
      · have hsame : Gateway.stored (s.tickets.remove (wsTicketKey t)) ticket =
            Gateway.stored s.tickets ticket := by
          unfold Gateway.stored
          rw [TtlStore.remove, AList.lookup_erase_ne (fun hk => ht (wsTicketKey_inj.mp hk))]
        have hother : Upgrade.holds ticket ⟨d, t, new⟩ = false := by
          simp [Upgrade.holds, Ne.symm ht]
        rw [hother] at hcount
        simp only [Bool.false_eq_true, if_false] at hcount
        omega
  accepted := hs.accepted
  session := hs.session
  registration := hs.registration
  sockets := hs.sockets

/-- An answer that never comes back is lost with the ticket. -/
theorem Inv.drop {i : ℕ} {d t : String} {r : Redemption}
    (hi : s.upgrades[i]? = some ⟨d, t, r⟩) :
    Inv p { s with upgrades := s.upgrades.set i ⟨d, t, r.dropped⟩ } where
  issued := hs.issued
  stored := hs.stored
  routed := hs.routed_set hi
  answered := by
    intro u hu session hsession
    rcases List.mem_or_eq_of_mem_set hu with hu | rfl
    · exact hs.answered u hu session hsession
    · exact absurd hsession (Redemption.dropped_ne r _)
  budget := by
    intro ticket
    show Gateway.stored s.tickets ticket +
      (s.upgrades.set i ⟨d, t, r.dropped⟩).countP (Upgrade.holds ticket) +
        s.log.countP (Event.accepts ticket) ≤ 1
    have hcount := countP_holds_set hi ⟨d, t, r.dropped⟩ ticket
    rw [holds_eq_false (fun session => Redemption.dropped_ne r _)] at hcount
    have hbudget := hs.budget ticket
    unfold Gateway.budget at hbudget
    simp only [Bool.false_eq_true, if_false] at hcount
    omega
  accepted := hs.accepted
  session := hs.session
  registration := hs.registration
  sockets := hs.sockets

/-- The session of an answer goes to the object with its websocket. -/
theorem Inv.accept {i : ℕ} {d t : String} {session : TicketRedemption}
    (hi : s.upgrades[i]? = some ⟨d, t, .answered (some session)⟩) :
    Inv p (Sessions.handle { s with upgrades := s.upgrades.set i ⟨d, t, .over⟩ } d
      (AnalystSession.accept d t session)) := by
  have hd : d = p.doId t := hs.routed _ (List.mem_of_getElem? hi)
  have hissued : (t, session) ∈ s.issued :=
    hs.answered _ (List.mem_of_getElem? hi) session rfl
  have hdrop := hs.drop hi
  exact
    { issued := hs.issued
      stored := hs.stored
      routed := hdrop.routed
      answered := hdrop.answered
      budget := by
        intro ticket
        show Gateway.stored s.tickets ticket +
          (s.upgrades.set i ⟨d, t, .over⟩).countP (Upgrade.holds ticket) +
            (s.log ++ [Event.accepted d t session]).countP (Event.accepts ticket) ≤ 1
        have hcount := countP_holds_set hi ⟨d, t, .over⟩ ticket
        rw [holds_eq_false (r := .over) (fun _ h => by cases h)] at hcount
        have hbudget := hs.budget ticket
        unfold Gateway.budget at hbudget
        rw [List.countP_append, List.countP_singleton]
        simp only [Upgrade.holds, Event.accepts, Bool.and_true, Bool.false_eq_true,
          if_false] at hcount ⊢
        -- the one that held the ticket is the one that is accepted
        by_cases ht : t = ticket
        · simp only [ht, beq_self_eq_true, if_true] at hcount ⊢
          omega
        · have hne : (t == ticket) = false := by simpa using ht
          simp only [hne, Bool.false_eq_true, if_false] at hcount ⊢
          omega
      accepted := by
        intro d' ticket σ he
        rcases List.mem_append.mp he with he | he
        · exact hs.accepted d' ticket σ he
        · obtain ⟨rfl, rfl, rfl⟩ := Event.accepted.inj (List.mem_singleton.mp he)
          exact ⟨hd, hissued⟩
      session := by
        intro d' σ hσ
        by_cases hne : d' = d
        · subst hne
          have hset : some session = some σ := by
            simpa [Sessions.handle, AnalystSession.accept] using hσ
          obtain rfl := Option.some.inj hset
          exact ⟨t, List.mem_append_right _ (List.mem_singleton_self _)⟩
        · have hold : (s.objects d').ticket = some σ := by
            simpa [Sessions.handle, hne] using hσ
          obtain ⟨ticket, hin⟩ := hs.session d' σ hold
          exact ⟨ticket, List.mem_append_left _ hin⟩
      registration := by
        intro w hw
        rcases List.mem_append.mp hw with hw | hw
        · obtain ⟨ticket, σ, hin, hfields⟩ := hs.registration w hw
          exact ⟨ticket, σ, List.mem_append_left _ hin, hfields⟩
        · cases List.mem_singleton.mp hw
      sockets := by
        intro d'
        show (Function.update s.objects d
          (AnalystSession.accept d t session (s.objects d)).1 d').sockets +
          (s.log ++ [Event.accepted d t session]).countP (Event.closes d') ≤
            (s.log ++ [Event.accepted d t session]).countP (Event.acceptsAt d')
        have hold := hs.sockets d'
        simp only [List.countP_append, List.countP_singleton, Event.closes,
          Event.acceptsAt, Bool.false_eq_true, if_false]
        by_cases hne : d' = d
        · subst hne
          simp only [Function.update_self, AnalystSession.accept, beq_self_eq_true,
            if_true]
          omega
        · simp only [Function.update_of_ne hne]
          omega }

/-- An eviction only loses. -/
theorem Inv.evict (doId : String) (hibernated : Bool) :
    Inv p { s with
      objects := Function.update s.objects doId (AnalystSession.fresh
        (if hibernated then (s.objects doId).sockets else 0))
      upgrades := s.upgrades.map fun u =>
        if u.doId = doId then { u with redemption := u.redemption.dropped } else u } where
  issued := hs.issued
  stored := hs.stored
  routed := by
    intro u hu
    obtain ⟨u₀, hu₀, rfl⟩ := List.mem_map.mp hu
    split
    · exact hs.routed u₀ hu₀
    · exact hs.routed u₀ hu₀
  answered := by
    intro u hu session hsession
    obtain ⟨u₀, hu₀, rfl⟩ := List.mem_map.mp hu
    split at hsession
    · exact absurd hsession (Redemption.dropped_ne _ _)
    · rename_i hne
      rw [if_neg hne]
      exact hs.answered u₀ hu₀ session hsession
  budget := by
    intro ticket
    have hbudget := hs.budget ticket
    unfold Gateway.budget at hbudget ⊢
    dsimp only
    rw [List.countP_map]
    -- dropped upgrades hold no ticket
    have hle : s.upgrades.countP (Upgrade.holds ticket ∘ fun u =>
        if u.doId = doId then { u with redemption := u.redemption.dropped } else u) ≤
        s.upgrades.countP (Upgrade.holds ticket) := by
      apply List.countP_mono_left
      intro u _ hholds
      dsimp only [Function.comp_apply] at hholds
      split at hholds
      · rw [holds_eq_false (fun session => Redemption.dropped_ne _ _)] at hholds
        cases hholds
      · exact hholds
    omega
  accepted := hs.accepted
  session := by
    intro d session hsession
    by_cases hd : d = doId
    · subst hd
      simp [AnalystSession.fresh] at hsession
    · exact hs.session d session (by simpa [hd] using hsession)
  registration := hs.registration
  sockets := by
    intro d
    have hold := hs.sockets d
    by_cases hd : d = doId
    · subst hd
      cases hibernated with
      | true => simpa [AnalystSession.fresh] using hold
      | false =>
          simp only [Function.update_self, AnalystSession.fresh, Bool.false_eq_true,
            if_false]
          omega
    · simpa [hd] using hold

/-- **One step** keeps the invariant. -/
theorem Inv.step {s' : Sessions} {l : Step} (h : s.step p l = some s') : Inv p s' := by
  cases l with
  | issueWsTicket ticket session =>
      simp only [Sessions.step] at h
      split at h
      · cases h
      · rename_i hnew
        obtain rfl := Option.some.inj h
        exact hs.issueWsTicket hnew
  | upgrade ticket =>
      simp only [Sessions.step] at h
      split at h
      · obtain rfl := Option.some.inj h
        exact hs
      · obtain rfl := Option.some.inj h
        exact hs.upgrade ticket
  | redeem i admitted =>
      simp only [Sessions.step] at h
      split at h
      · rename_i d t hi
        obtain rfl := Option.some.inj h
        apply hs.redeem hi (fun _ hr => by cases hr)
        intro session hr
        exact Redemption.answered.inj hr
      · rename_i d t hi
        obtain rfl := Option.some.inj h
        exact hs.redeem hi (fun _ hr => by cases hr) fun _ hr => by cases hr
      · cases h
  | answer i arrived =>
      -- an answer that arrives opens the socket, a lost one ends the upgrade
      simp only [Sessions.step] at h
      split at h
      · rename_i d t r hi
        split at h
        · obtain rfl := Option.some.inj h
          exact hs.accept hi
        · obtain rfl := Option.some.inj h
          exact hs.drop hi
      · cases h
  | message d msg =>
      simp only [Sessions.step] at h
      split at h
      · cases h
      · obtain rfl := Option.some.inj h
        exact hs.handle (AnalystSession.regular_webSocketMessage msg)
  | snapshot d i result =>
      simp only [Sessions.step] at h
      split at h
      · obtain rfl := Option.some.inj h
        exact hs.handle (AnalystSession.regular_afterSnapshot _ i _ result)
      · cases h
  | registered d i ok =>
      simp only [Sessions.step] at h
      split at h
      · obtain rfl := Option.some.inj h
        exact hs.handle (AnalystSession.regular_afterRegistration i _ ok)
      · cases h
  | push d envelope =>
      obtain rfl := Option.some.inj h
      exact hs.handle (AnalystSession.regular_handlePush envelope)
  | close d =>
      simp only [Sessions.step] at h
      split at h
      · cases h
      · rename_i hopen
        obtain rfl := Option.some.inj h
        exact hs.handle (AnalystSession.regular_webSocketClose s.clock hopen)
  | timer d a =>
      simp only [Sessions.step] at h
      split at h
      · split at h
        · obtain rfl := Option.some.inj h
          exact hs.handle (AnalystSession.regular_fireCancel a)
        · cases h
      · cases h
  | evict d hibernated =>
      obtain rfl := Option.some.inj h
      exact hs.evict d hibernated
  | pass n =>
      obtain rfl := Option.some.inj h
      exact { hs with }

end Step

theorem inv_run {p : Platform} {s t : Sessions} {as : List Step}
    (h : (sessionSystem p).run s as = some t) (hs : Inv p s) : Inv p t :=
  System.run_keeps (fun _ _ _ hstep hi => hi.step hstep) h hs

/-! ## §4  One session -/

/-- What the sessions of a state have behind them. -/
structure OneSession (p : Platform) (s : Sessions) : Prop where
  /-- Each ticket leads to one accepted websocket at most. -/
  once : ∀ ticket, s.log.countP (Event.accepts ticket) ≤ 1
  /-- An object that has accepted a websocket never has another session. -/
  same : ∀ d ticket session, .accepted d ticket session ∈ s.log →
    ∀ as t, (sessionSystem p).run s as = some t →
      ∀ session', (t.objects d).ticket = some session' → session' = session
  /-- A registration names whom the one ticket of its object was issued to. -/
  names : ∀ w, .posted (.watch w) ∈ s.log →
    ∃ ticket session, .accepted w.do_id ticket session ∈ s.log ∧
      (∀ ticket' session', .accepted w.do_id ticket' session' ∈ s.log →
        ticket' = ticket ∧ session' = session) ∧
      (ticket, session) ∈ s.issued ∧
      w.user_id = session.user_id ∧ w.tenant_id = session.tenant_id

/-- The object decides the ticket, and the ticket the session. -/
theorem Inv.accepted_unique {p : Platform} {s : Sessions} (hs : Inv p s) {d : String}
    {ticket ticket' : String} {a b : TicketRedemption}
    (ha : .accepted d ticket a ∈ s.log) (hb : .accepted d ticket' b ∈ s.log) :
    ticket' = ticket ∧ b = a := by
  obtain ⟨hd, hia⟩ := hs.accepted d ticket a ha
  obtain ⟨hd', hib⟩ := hs.accepted d ticket' b hb
  have hname := p.idFromName_injective (hd'.symm.trans hd)
  obtain rfl : ticket' = ticket := (String.append_right_inj _).mp hname
  exact ⟨rfl, hs.session_unique hib hia⟩

/-- **One session for each durable object**, in every state reached. -/
theorem one_session {p : Platform} {s : Sessions}
    (h : (sessionSystem p).Reachable s) : OneSession p s := by
  have hs : Inv p s := by
    refine h.invariant (P := Inv p) ?_ fun s l s' hi _ hstep => hi.step hstep
    rintro s rfl
    exact Inv.start p
  exact
    { once := by
        intro ticket
        have hbudget := hs.budget ticket
        unfold budget at hbudget
        omega
      same := by
        intro d ticket session hin as t hrun session' hsession
        have ht := inv_run hrun hs
        obtain ⟨ticket', hin'⟩ := ht.session d session' hsession
        exact (ht.accepted_unique (log_run hrun hin) hin').2
      names := by
        intro w hw
        obtain ⟨ticket, session, hin, huser, htenant⟩ := hs.registration w hw
        exact ⟨ticket, session, hin, fun ticket' session' h => hs.accepted_unique hin h,
          (hs.accepted _ _ _ hin).2, huser, htenant⟩ }

/-- A replayed ticket: one of its two upgrades gets the session and watches. -/
theorem one_session_replayed :
    let p : Platform := ⟨id, Function.injective_id, "https://gateway/", 60⟩
    let steps : List Step :=
      [.issueWsTicket "ticket-1" ⟨"user", "tenant", none⟩,
        .upgrade "ticket-1", .upgrade "ticket-1", .redeem 1 true, .redeem 0 true,
        .answer 0 true, .answer 1 true,
        .message "ticket:ticket-1" (some (.watch "alert")),
        .snapshot "ticket:ticket-1" 0 (some ⟨3, none⟩)]
    ∃ s, (sessionSystem p).run Sessions.start steps = some s ∧
      .posted (.watch ⟨"ticket:ticket-1", "user", "tenant", "alert",
        "https://gateway/push"⟩) ∈ s.log ∧
      OneSession p s := by
  intro p steps
  have hrun : ∃ s, (sessionSystem p).run Sessions.start steps = some s ∧
      .posted (.watch ⟨"ticket:ticket-1", "user", "tenant", "alert",
        "https://gateway/push"⟩) ∈ s.log :=
    ⟨_, rfl, by decide⟩
  obtain ⟨s, hs, hposted⟩ := hrun
  exact ⟨s, hs, hposted, one_session (System.reached_of_run (.start rfl) hs)⟩

end AlertTriage.Gateway
