import AlertTriage.Gateway.CancelOnClose

/-!
# Hibernation

A hibernated object keeps its websocket and loses its memory, the session of its ticket and the
timers of its cancels with it. Nobody sees that only where there is nothing to lose: an object
without a websocket, a timer and a request under way never does anything again, or has not begun
(`hibernation_keeps`).
-/

namespace AlertTriage.Gateway

open Library

/-! ## §1  With and without hibernation -/

def Step.hibernates : Step → Bool
  | .evict _ hibernated => hibernated
  | _ => false

/-- The steps of a run without its hibernations. -/
def awake (as : List Step) : List Step := as.filter fun l => !l.hibernates

/-- Nothing but an upgrade has anything to do at the object. -/
def AnalystSession.Idle (o : AnalystSession) : Prop :=
  o.sockets = 0 ∧ o.pendingCancels = [] ∧ o.watches = []

instance (o : AnalystSession) : Decidable o.Idle := inferInstanceAs (Decidable (_ ∧ _ ∧ _))

/-- A hibernation finds its object idle, and no upgrade of it under way. -/
def HibernatesIdle (s : Sessions) : Step → Prop
  | .evict d true => (s.objects d).Idle ∧
      ∀ u ∈ s.upgrades, u.doId = d → u.redemption.dropped = u.redemption
  | _ => True

/-- `t` has gone on as `s`: others have seen the same, and an open websocket is served as one of
an object that has not hibernated. -/
structure AsAwake (t s : Sessions) : Prop where
  log : t.log = s.log
  sockets : ∀ d, (t.objects d).sockets = (s.objects d).sockets
  /-- No message on an accepted websocket is refused for want of a session. -/
  answered : ∀ d, (t.objects d).sockets ≠ 0 → ∀ msg,
    .sent d (.error "session_not_initialised") ∉
      (AnalystSession.webSocketMessage d (some msg) (t.objects d)).2
  /-- A close leaves a timer for every alert that is watched. -/
  cancels : ∀ d, (t.objects d).sockets ≠ 0 → ∀ a ∈ (s.objects d).watchedAlerts, ∀ now,
    (AnalystSession.webSocketClose now d (t.objects d)).1.hasPending a = true
  /-- A close has the BFF drop the object. -/
  dropped : ∀ d, (t.objects d).sockets ≠ 0 → ∀ now, ∃ user,
    .posted (.disconnect d user) ∈ (AnalystSession.webSocketClose now d (t.objects d)).2

variable {p : Platform} {s s' t : Sessions} {l : Step} {d : String} {handler : Handler}

/-! ## §2  An idle object -/

/-- At an idle object a push does nothing. -/
theorem push_idle {o : AnalystSession} (ho : o.Idle) (envelope : Option PushEnvelope) :
    (o.handlePush d envelope).2 = [] := by
  unfold AnalystSession.handlePush
  split
  · rfl
  · rw [if_pos ho.1]

/-- No other handler runs there. -/
theorem Turn.of_idle (ht : Turn p s l d handler) (hidle : (s.objects d).Idle) :
    (∃ ticket session, handler = AnalystSession.accept d ticket session) ∨
      handler (s.objects d) = (s.objects d, []) := by
  obtain ⟨hsockets, hpending, hwatches⟩ := hidle
  cases ht with
  | accept hi => exact .inl ⟨_, _, rfl⟩
  | message hopen => exact absurd hsockets hopen
  | snapshot hi =>
      rw [hwatches] at hi
      cases hi
  | registered hi =>
      rw [hwatches] at hi
      cases hi
  | push => exact .inr (congrArg (Prod.mk _) (push_idle ⟨hsockets, hpending, hwatches⟩ _))
  | close hopen => exact absurd hsockets hopen
  | timer hfind =>
      rw [hpending] at hfind
      cases hfind

theorem handle_quiet (h : handler (s.objects d) = (s.objects d, [])) :
    s.handle d handler = s := by
  unfold Sessions.handle
  rw [h, Function.update_eq_self, List.append_nil]

/-! ## §3  Runs without hibernation -/

/-- The object has accepted its websocket. -/
def Accepted (s : Sessions) (d : String) : Prop :=
  ∃ ticket session, .accepted d ticket session ∈ s.log

/-- An open websocket has a session, and an object is new until it accepts. -/
structure Awake (p : Platform) (s : Sessions) : Prop where
  inv : Inv p s
  session : ∀ d, (s.objects d).sockets ≠ 0 → (s.objects d).ticket ≠ none
  untouched : ∀ d, ¬ Accepted s d → s.objects d = .fresh 0

theorem Awake.start (p : Platform) : Awake p Sessions.start where
  inv := Inv.start p
  session := fun _ h => absurd rfl h
  untouched := fun _ _ => rfl

theorem Accepted.step (h : s.step p l = some s') (ha : Accepted s d) : Accepted s' d := by
  obtain ⟨ticket, session, hin⟩ := ha
  obtain ⟨es, hes⟩ := step_log h
  exact ⟨ticket, session, by rw [hes]; exact List.mem_append_left _ hin⟩

theorem idle_fresh : (AnalystSession.fresh 0).Idle := ⟨rfl, rfl, rfl⟩

theorem Awake.step (hs : Awake p s) (hl : l.hibernates = false) (h : s.step p l = some s') :
    Awake p s' := by
  refine ⟨hs.inv.step h, ?_, ?_⟩
  · intro d hopen
    rcases step_turn h with ⟨d', handler, ht, hobj, -⟩ | ⟨-, hobj⟩
    · rw [hobj] at hopen ⊢
      by_cases hd : d = d'
      · subst hd
        simp only [Sessions.handle, Function.update_self] at hopen ⊢
        rcases ht.regular with ⟨ticket, session, rfl⟩ | hregular
        · exact Option.some_ne_none session
        · rw [hregular.ticket]
          have hsockets := hregular.sockets
          exact hs.session d (by omega)
      · simp only [Sessions.handle, Function.update_of_ne hd] at hopen ⊢
        exact hs.session d hopen
    · rcases hobj d with heq | ⟨hibernated, rfl, -⟩
      · rw [heq] at hopen ⊢
        exact hs.session d hopen
      · -- the websocket of an evicted object is severed
        obtain rfl : hibernated = false := hl
        obtain rfl := Option.some.inj h
        simp [AnalystSession.fresh] at hopen
  · intro d hnew
    have hold : s.objects d = .fresh 0 := hs.untouched d fun ha => hnew (ha.step h)
    rcases step_turn h with ⟨d', handler, ht, hobj, hlog⟩ | ⟨-, hobj⟩
    · rw [hobj]
      by_cases hd : d = d'
      · subst hd
        rcases ht.of_idle (hold ▸ idle_fresh) with ⟨ticket, session, rfl⟩ | hquiet
        · refine absurd ⟨ticket, session, ?_⟩ hnew
          rw [hlog]
          exact List.mem_append_right _ List.mem_cons_self
        · rw [handle_quiet hquiet, hold]
      · simp only [Sessions.handle, Function.update_of_ne hd]
        exact hold
    · rcases hobj d with heq | ⟨hibernated, rfl, -⟩
      · rw [heq, hold]
      · obtain rfl : hibernated = false := hl
        obtain rfl := Option.some.inj h
        exact Function.update_self ..

/-! ## §4  The same run with hibernation -/

/-- `t` is `s` but for objects that have closed and are idle in both. -/
def Alike (t s : Sessions) : Prop :=
  ∃ objects, t = { s with objects } ∧ ∀ d, objects d = s.objects d ∨
    (objects d).Idle ∧ (s.objects d).Idle ∧ Accepted s d

theorem Alike.refl (s : Sessions) : Alike s s := ⟨s.objects, rfl, fun _ => .inl rfl⟩

/-- A handler does the same at the same object. -/
theorem Alike.handle (h : Alike t s) (hd : t.objects d = s.objects d) :
    Alike (t.handle d handler) (s.handle d handler) := by
  obtain ⟨objects, rfl, hobjects⟩ := h
  change objects d = s.objects d at hd
  refine ⟨Function.update objects d (handler (objects d)).1, ?_, fun d' => ?_⟩
  · simp only [Sessions.handle, hd]
  · by_cases hne : d' = d
    · subst hne
      simp [Sessions.handle, hd]
    · simp only [Sessions.handle, Function.update_of_ne hne]
      rcases hobjects d' with heq | ⟨hidle, hidle', ticket, session, hin⟩
      · exact .inl heq
      · exact .inr ⟨hidle, hidle', ticket, session, List.mem_append_left _ hin⟩

/-- What does not touch the objects does the same. -/
theorem Alike.same {t' : Sessions} (h : Alike t s) (hobj : t'.objects = t.objects)
    (hobj' : s'.objects = s.objects) (hlog : s'.log = s.log)
    (hrest : t' = { s' with objects := t'.objects }) : Alike t' s' := by
  obtain ⟨objects, rfl, hobjects⟩ := h
  refine ⟨t'.objects, hrest, fun d => ?_⟩
  rw [hobj, hobj', Accepted, hlog]
  exact hobjects d

/-- A second websocket is never accepted. -/
theorem Awake.not_accepts {i : ℕ} {ticket : String} {session : TicketRedemption}
    (hs : Awake p s) (ha : Accepted s d)
    (hi : s.upgrades[i]? = some ⟨d, ticket, .answered (some session)⟩) : False := by
  obtain ⟨ticket', session', hin⟩ := ha
  have hstep : s.step p (.answer i true) = some (Sessions.handle
      { s with upgrades := s.upgrades.set i ⟨d, ticket, .over⟩ } d
      (AnalystSession.accept d ticket session)) := by
    simp only [Sessions.step, hi, Redemption.dropped]
  have hone := (hs.inv.step hstep).acceptsAt_le_one d
  have hpos : 0 < s.log.countP (Event.acceptsAt d) :=
    List.countP_pos_iff.mpr ⟨_, hin, by simp [Event.acceptsAt]⟩
  have hnew : [Event.accepted d ticket session].countP (Event.acceptsAt d) = 1 := by
    simp [Event.acceptsAt]
  simp only [Sessions.handle, AnalystSession.accept, List.countP_append, hnew] at hone
  omega

/-- **One step** of both. -/
theorem Alike.step (h : Alike t s) (hs : Awake p s) (hl : l.hibernates = false) :
    Option.Rel Alike (t.step p l) (s.step p l) := by
  have halike := h
  obtain ⟨objects, rfl, hobjects⟩ := h
  -- an object that has closed and is idle refuses the event in both
  cases l with
  | issueWsTicket ticket session =>
      simp only [Sessions.step]
      split
      · exact .none
      · exact .some (halike.same rfl rfl rfl rfl)
  | upgrade ticket =>
      simp only [Sessions.step]
      split
      · exact .some halike
      · exact .some (halike.same rfl rfl rfl rfl)
  | redeem i admitted =>
      simp only [Sessions.step]
      split
      · exact .some (halike.same rfl rfl rfl rfl)
      · exact .some (halike.same rfl rfl rfl rfl)
      · exact .none
  | answer i arrived =>
      simp only [Sessions.step]
      split
      · rename_i d ticket redemption hi
        split
        · rename_i session
          rcases hobjects d with heq | ⟨-, -, ha⟩
          · refine .some (Alike.handle ?_ heq)
            exact halike.same rfl rfl rfl rfl
          · exact (hs.not_accepts ha hi).elim
        · exact .some (halike.same rfl rfl rfl rfl)
      · exact .none
  | message d msg =>
      simp only [Sessions.step]
      rcases hobjects d with heq | ⟨hidle, hidle', -⟩
      · simp only [heq]
        split
        · exact .none
        · exact .some (halike.handle heq)
      · rw [if_pos hidle.1, if_pos hidle'.1]
        exact .none
  | snapshot d i result =>
      simp only [Sessions.step]
      rcases hobjects d with heq | ⟨hidle, hidle', -⟩
      · simp only [heq]
        split
        · exact .some (halike.handle heq)
        · exact .none
      · rw [hidle.2.2, hidle'.2.2]
        exact .none
  | registered d i ok =>
      simp only [Sessions.step]
      rcases hobjects d with heq | ⟨hidle, hidle', -⟩
      · simp only [heq]
        split
        · exact .some (halike.handle heq)
        · exact .none
      · rw [hidle.2.2, hidle'.2.2]
        exact .none
  | push d envelope =>
      rcases hobjects d with heq | ⟨hidle, hidle', -⟩
      · exact .some (halike.handle heq)
      · simp only [Sessions.step]
        rw [handle_quiet (congrArg (Prod.mk _) (push_idle hidle envelope)),
          handle_quiet (congrArg (Prod.mk _) (push_idle hidle' envelope))]
        exact .some halike
  | close d =>
      simp only [Sessions.step]
      rcases hobjects d with heq | ⟨hidle, hidle', -⟩
      · simp only [heq]
        split
        · exact .none
        · exact .some (halike.handle heq)
      · rw [if_pos hidle.1, if_pos hidle'.1]
        exact .none
  | timer d a =>
      simp only [Sessions.step]
      rcases hobjects d with heq | ⟨hidle, hidle', -⟩
      · simp only [heq]
        split
        · split
          · exact .some (halike.handle heq)
          · exact .none
        · exact .none
      · rw [hidle.2.1, hidle'.2.1]
        exact .none
  | evict d hibernated =>
      obtain rfl : hibernated = false := hl
      refine .some ⟨Function.update objects d (.fresh 0), rfl, fun d' => ?_⟩
      by_cases hd : d' = d
      · subst hd
        exact .inl (by simp)
      · simp only [Function.update_of_ne hd]
        exact hobjects d'
  | pass n => exact .some (halike.same rfl rfl rfl rfl)

/-- A hibernation that takes nothing. -/
theorem Alike.hibernate (h : Alike t s) (hs : Awake p s)
    (hidle : HibernatesIdle t (.evict d true)) :
    ∃ t', t.step p (.evict d true) = some t' ∧ Alike t' s := by
  obtain ⟨objects, rfl, hobjects⟩ := h
  obtain ⟨hidle, hnone⟩ := hidle
  have hupgrades : (s.upgrades.map fun u =>
      if u.doId = d then { u with redemption := u.redemption.dropped } else u) = s.upgrades := by
    refine (List.map_congr_left fun u hu => ?_).trans (List.map_id _)
    by_cases hd : u.doId = d
    · rw [if_pos hd, hnone u hu hd]
      rfl
    · rw [if_neg hd]
      rfl
  refine ⟨_, rfl, Function.update objects d (.fresh (objects d).sockets), ?_, fun d' => ?_⟩
  · simp only [hupgrades, if_true]
  by_cases hd : d' = d
  · subst hd
    rw [Function.update_self, hidle.1]
    by_cases ha : Accepted s d'
    · refine .inr ⟨idle_fresh, ?_, ha⟩
      rcases hobjects d' with heq | ⟨-, hidle', -⟩
      · exact heq ▸ hidle
      · exact hidle'
    · exact .inl (hs.untouched d' ha).symm
  · rw [Function.update_of_ne hd]
    exact hobjects d'

/-- With a session no message is refused for want of one. -/
theorem not_refused {o : AnalystSession} {session : TicketRedemption}
    (h : o.ticket = some session) (msg : ClientMessage) :
    .sent d (.error "session_not_initialised") ∉
      (AnalystSession.webSocketMessage d (some msg) o).2 := by
  have hticket : o.ticket ≠ none := h ▸ Option.some_ne_none session
  simp only [AnalystSession.webSocketMessage, if_neg hticket]
  cases msg with
  | watch a =>
      show _ ∉ (AnalystSession.handleWatch a o).2
      unfold AnalystSession.handleWatch
      split <;> exact List.not_mem_nil
  | unwatch a =>
      show _ ∉ (AnalystSession.handleUnwatch d a o).2
      unfold AnalystSession.handleUnwatch
      split <;> simp
  | ping => simp
  | unknown => simp

/-- An open websocket is served. -/
theorem Alike.asAwake (h : Alike t s) (hs : Awake p s) : AsAwake t s := by
  obtain ⟨objects, rfl, hobjects⟩ := h
  have hopen (d : String) (hd : (objects d).sockets ≠ 0) :
      objects d = s.objects d ∧ ∃ session, (objects d).ticket = some session := by
    rcases hobjects d with heq | ⟨hidle, -⟩
    · refine ⟨heq, Option.ne_none_iff_exists'.mp ?_⟩
      rw [heq] at hd ⊢
      exact hs.session d hd
    · exact absurd hidle.1 hd
  constructor
  · rfl
  · intro d
    rcases hobjects d with heq | ⟨hidle, hidle', -⟩
    · exact congrArg AnalystSession.sockets heq
    · exact hidle.1.trans hidle'.1.symm
  · intro d hd msg
    obtain ⟨-, session, hsession⟩ := hopen d hd
    exact not_refused hsession msg
  · intro d hd a ha now
    obtain ⟨heq, session, hsession⟩ := hopen d hd
    have hticket : (objects d).ticket ≠ none := hsession ▸ Option.some_ne_none session
    have hscheduled : ∃ due, (a, due) ∈ ((objects d).watchedAlerts.foldl
        (AnalystSession.scheduleCancel now) (objects d)).pendingCancels :=
      foldl_scheduleCancel_mem hticket (.inl (heq ▸ ha))
    obtain ⟨due, hdue⟩ := hscheduled
    exact List.contains_iff_mem.mpr (List.mem_map.mpr ⟨_, hdue, rfl⟩)
  · intro d hd now
    obtain ⟨-, session, hsession⟩ := hopen d hd
    refine ⟨session.user_id, ?_⟩
    simp [AnalystSession.webSocketClose, hsession]

/-! ## §5  Every run -/

/-- **Hibernation keeps the session** in a run that hibernates idle objects only: it is the run
without its hibernations. -/
theorem hibernation_keeps (p : Platform) (as : List Step)
    (h : (sessionSystem p).Meets HibernatesIdle Sessions.start as) :
    Option.Rel AsAwake ((sessionSystem p).run Sessions.start as)
      ((sessionSystem p).run Sessions.start (awake as)) := by
  have hrel : Option.Rel (fun t s => Awake p s ∧ Alike t s)
      ((sessionSystem p).run Sessions.start as)
      ((sessionSystem p).run Sessions.start (as.filter fun l => !l.hibernates)) := by
    refine h.rel ?_ ?_ ⟨Awake.start p, Alike.refl _⟩
    · rintro t s l ⟨hs, halike⟩ hidle hl
      cases l with
      | evict d hibernated =>
          obtain rfl : hibernated = true := hl
          obtain ⟨t', hstep, halike⟩ := halike.hibernate hs hidle
          exact ⟨t', hstep, hs, halike⟩
      | _ => cases hl
    · rintro t s l ⟨hs, halike⟩ hl
      have hrel := halike.step hs hl
      show Option.Rel _ (t.step p l) (s.step p l)
      generalize hs' : s.step p l = s' at hrel ⊢
      generalize t.step p l = t' at hrel ⊢
      cases hrel with
      | none => exact .none
      | some halike => exact .some ⟨hs.step hl hs', halike⟩
  unfold awake
  generalize (sessionSystem p).run Sessions.start as = t at hrel ⊢
  generalize (sessionSystem p).run Sessions.start (as.filter _) = s at hrel ⊢
  cases hrel with
  | none => exact .none
  | some hrel => exact .some (hrel.2.asAwake hrel.1)

/-- Where there is a websocket, the next message on it is refused. -/
theorem refused_after_hibernation (hopen : (s.objects d).sockets ≠ 0)
    (h : s.step p (.evict d true) = some s') (msg : ClientMessage) :
    ∃ s₂, s'.step p (.message d (some msg)) = some s₂ ∧
      s₂.log = s.log ++ [.sent d (.error "session_not_initialised")] := by
  obtain rfl := Option.some.inj h
  simp [Sessions.step, Sessions.handle, AnalystSession.webSocketMessage, AnalystSession.fresh,
    hopen]

instance : (s : Sessions) → (l : Step) → Decidable (HibernatesIdle s l)
  | s, .evict d true => inferInstanceAs (Decidable ((s.objects d).Idle ∧ _))
  | _, .evict _ false => .isTrue trivial
  | _, .issueWsTicket .. | _, .upgrade _ | _, .redeem .. | _, .answer .. | _, .message ..
  | _, .snapshot .. | _, .registered .. | _, .push .. | _, .close _ | _, .timer ..
  | _, .pass _ => .isTrue trivial

/-- The object hibernates before its upgrade, and when its cancel has been posted. -/
def restedRun : List Step :=
  .evict "ticket:ticket-1" true :: opened 0 "ticket-1" "alert" ++
    [.close "ticket:ticket-1", .pass cancelGrace, .timer "ticket:ticket-1" "alert",
      .evict "ticket:ticket-1" true, .push "ticket:ticket-1" (some .revoked)]

theorem hibernation_keeps_rested :
    ((sessionSystem identityPlatform).run Sessions.start restedRun).isSome = true ∧
      Option.Rel AsAwake ((sessionSystem identityPlatform).run Sessions.start restedRun)
        ((sessionSystem identityPlatform).run Sessions.start (awake restedRun)) :=
  ⟨rfl, hibernation_keeps identityPlatform restedRun (by decide)⟩

/-- An object with a websocket hibernates. -/
theorem session_lost :
    ¬ ∀ (p : Platform) (as : List Step),
      Option.Rel AsAwake ((sessionSystem p).run Sessions.start as)
        ((sessionSystem p).run Sessions.start (awake as)) := by
  intro h
  have hrun : ∃ t s, (sessionSystem identityPlatform).run Sessions.start
        (opened 0 "ticket-1" "alert" ++ [.evict "ticket:ticket-1" true,
          .message "ticket:ticket-1" (some (.watch "other"))]) = some t ∧
      (sessionSystem identityPlatform).run Sessions.start
        (awake (opened 0 "ticket-1" "alert" ++ [.evict "ticket:ticket-1" true,
          .message "ticket:ticket-1" (some (.watch "other"))])) = some s ∧
      .sent "ticket:ticket-1" (.error "session_not_initialised") ∈ t.log ∧
      .sent "ticket:ticket-1" (.error "session_not_initialised") ∉ s.log :=
    ⟨_, _, rfl, rfl, by decide, by decide⟩
  obtain ⟨t, s, ht, hs, hrefused, hserved⟩ := hrun
  have hrel := h identityPlatform (opened 0 "ticket-1" "alert" ++
    [.evict "ticket:ticket-1" true, .message "ticket:ticket-1" (some (.watch "other"))])
  rw [ht, hs] at hrel
  cases hrel with
  | some hrel => exact hserved (hrel.log ▸ hrefused)

end AlertTriage.Gateway
