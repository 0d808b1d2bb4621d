import AlertTriage.Gateway.OneSession

/-!
# Cancels on close

A close schedules the cancel of every alert the object watches, and the timer
posts it; nothing else posts one. As an object accepts one websocket at most, it
closes once at most, and after that no message reaches it: only the loss of its
memory keeps a timer from its end (`cancelled_iff_timer`).

So a reopened connection, which has an object of its own, saves nothing
(`reopening_saves_iff`), and an alert that has long ended is cancelled like any
other (`cancels_unfinished`, where the client has left the ended ones before).
-/

namespace AlertTriage.Gateway

open Library

/-! ## §1  Handlers that schedule nothing -/

def Event.cancels (doId alertId : String) : Event → Bool
  | .posted (.cancel d _ _ a) => d == doId && a == alertId
  | _ => false

/-- Neither a close nor a cancel. -/
def Event.plain : Event → Bool
  | .closed _ => false
  | .posted (.cancel ..) => false
  | _ => true

theorem Event.plain_of_cancels {e : Event} {d a : String} (h : e.cancels d a = true) :
    e.plain = false := by
  unfold Event.cancels at h
  split at h
  · rfl
  · cases h

/-- A handler that adds no timer, and stops one only for a message. -/
structure Unscheduling (o : AnalystSession) (r : AnalystSession × List Event) :
    Prop where
  events : ∀ e ∈ r.2, e.plain = true
  pending : r.1.pendingCancels ⊆ o.pendingCancels
  kept : o.sockets = 0 → r.1.pendingCancels = o.pendingCancels
  ticket : o.ticket.isSome → r.1.ticket.isSome

namespace AnalystSession

variable {doId : String} {o : AnalystSession}

theorem unscheduling_of_same {o' : AnalystSession} {es : List Event}
    (hpending : o'.pendingCancels = o.pendingCancels)
    (hticket : o.ticket.isSome → o'.ticket.isSome) (hes : ∀ e ∈ es, e.plain = true) :
    Unscheduling o (o', es) where
  events := hes
  pending := by
    intro x hx
    exact hpending ▸ hx
  kept := fun _ => hpending
  ticket := hticket

theorem unscheduling_accept (ticket : String) (session : TicketRedemption) :
    Unscheduling o (accept doId ticket session o) :=
  unscheduling_of_same rfl (fun _ => rfl) (by simp [Event.plain])

theorem unscheduling_webSocketMessage (msg : Option ClientMessage)
    (hopen : o.sockets ≠ 0) : Unscheduling o (webSocketMessage doId msg o) := by
  have hsend : ∀ frame, Unscheduling o (o, [.sent doId frame]) := fun frame =>
    unscheduling_of_same rfl id (by simp [Event.plain])
  have hnone : Unscheduling o (o, []) :=
    unscheduling_of_same rfl id fun _ h => by cases h
  unfold webSocketMessage
  split
  · exact hsend _
  · split
    · exact hsend _
    · split
      · unfold handleWatch
        split
        · exact hnone
        · exact
            { events := fun _ h => by cases h
              pending := List.filter_subset_self _
              kept := fun h => absurd h hopen
              ticket := id }
      · unfold handleUnwatch
        split
        · exact hnone
        · exact unscheduling_of_same rfl id (by simp [Event.plain])
      · exact hsend _
      · exact hsend _

theorem unscheduling_afterSnapshot (pushUrl : String) (i : ℕ) (alertId : String)
    (snapshot : Option Snapshot) :
    Unscheduling o (afterSnapshot doId pushUrl i alertId snapshot o) := by
  unfold afterSnapshot
  split <;> exact unscheduling_of_same rfl id (by simp [Event.plain])

theorem unscheduling_afterRegistration (i : ℕ) (alertId : String) (ok : Bool) :
    Unscheduling o (afterRegistration doId i alertId ok o) := by
  unfold afterRegistration
  dsimp only
  split
  · refine unscheduling_of_same ?_ ?_ fun _ h => by cases h
    · split <;> rfl
    · split <;> exact id
  · exact unscheduling_of_same rfl id (by simp [Event.plain])

theorem unscheduling_handlePush (envelope : Option PushEnvelope) :
    Unscheduling o (o, (handlePush doId envelope o).2) := by
  apply unscheduling_of_same rfl id
  unfold handlePush
  split
  · exact fun _ h => by cases h
  · split
    · exact fun _ h => by cases h
    · split
      · exact fun _ h => by cases h
      · simp [Event.plain]

end AnalystSession

variable {p : Platform} {s s' : Sessions} {l : Step} {d a : String}

/-- Only a close and a timer touch the schedule. -/
theorem Turn.unscheduling {handler : Handler} (ht : Turn p s l d handler)
    (hclose : l ≠ .close d) (htimer : ∀ a, l ≠ .timer d a) :
    Unscheduling (s.objects d) (handler (s.objects d)) := by
  cases ht with
  | accept => exact AnalystSession.unscheduling_accept _ _
  | message hopen => exact AnalystSession.unscheduling_webSocketMessage _ hopen
  | snapshot => exact AnalystSession.unscheduling_afterSnapshot _ _ _ _
  | registered => exact AnalystSession.unscheduling_afterRegistration _ _ _
  | push => exact AnalystSession.unscheduling_handlePush _
  | close => exact absurd rfl hclose
  | timer => exact absurd rfl (htimer _)

/-- What a step adds to the log, apart from plain events. -/
theorem new_event (h : s.step p l = some s') {e : Event} (he : e ∈ s'.log)
    (hplain : e.plain = false) :
    e ∈ s.log ∨ (∃ d, l = .close d ∧ e = .closed d) ∨
      ∃ d a, l = .timer d a ∧ e.cancels d a = true := by
  rcases step_turn h with ⟨d, handler, ht, -, hlog⟩ | ⟨hlog, -⟩
  · rw [hlog] at he
    rcases List.mem_append.mp he with he | he
    · exact .inl he
    · refine .inr ?_
      -- only a close and a timer log what is not plain
      by_cases hclose : l = .close d
      · subst hclose
        cases ht with
        | close =>
            refine .inl ⟨d, rfl, ?_⟩
            unfold AnalystSession.webSocketClose at he
            dsimp only at he
            rcases List.mem_cons.mp he with he | he
            · exact he
            · split at he
              · obtain rfl := List.mem_singleton.mp he
                cases hplain
              · cases he
      · by_cases htimer : ∃ a, l = .timer d a
        · obtain ⟨a, rfl⟩ := htimer
          cases ht with
          | timer =>
              refine .inr ⟨d, a, rfl, ?_⟩
              unfold AnalystSession.fireCancel at he
              split at he
              · cases he
              · obtain rfl := List.mem_singleton.mp he
                simp [Event.cancels]
        · have hun := ht.unscheduling hclose fun a ha => htimer ⟨a, ha⟩
          rw [hun.events e he] at hplain
          cases hplain
  · exact .inl (hlog ▸ he)

/-! ## §2  The schedule -/

section Schedule

variable {now : ℕ} {o : AnalystSession} {x : String × ℕ}

theorem mem_scheduleCancel
    (hx : x ∈ (AnalystSession.scheduleCancel now o a).pendingCancels) :
    x ∈ o.pendingCancels ∨ x = (a, now + cancelGrace) ∧ o.ticket ≠ none := by
  unfold AnalystSession.scheduleCancel at hx
  split at hx
  · exact .inl hx
  · rename_i hno
    rcases List.mem_append.mp hx with hx | hx
    · exact .inl hx
    · exact .inr ⟨List.mem_singleton.mp hx, fun h => hno (.inl h)⟩

/-- The timers after a close: the old ones, and one of the alerts watched. -/
theorem mem_foldl_scheduleCancel {alertIds : List String}
    (hx : x ∈ (alertIds.foldl (AnalystSession.scheduleCancel now) o).pendingCancels) :
    x ∈ o.pendingCancels ∨
      x.1 ∈ alertIds ∧ x.2 = now + cancelGrace ∧ o.ticket ≠ none := by
  induction alertIds generalizing o with
  | nil => exact .inl hx
  | cons a alertIds ih =>
      rw [List.foldl_cons] at hx
      obtain ⟨pending, hsame⟩ := AnalystSession.scheduleCancel_eq now o a
      rcases ih hx with hx | ⟨hin, hdue, hticket⟩
      · rcases mem_scheduleCancel hx with hx | ⟨rfl, hticket⟩
        · exact .inl hx
        · exact .inr ⟨List.mem_cons_self, rfl, hticket⟩
      · rw [hsame] at hticket
        exact .inr ⟨List.mem_cons_of_mem _ hin, hdue, hticket⟩

theorem scheduleCancel_subset (alertId : String) :
    o.pendingCancels ⊆ (AnalystSession.scheduleCancel now o alertId).pendingCancels := by
  unfold AnalystSession.scheduleCancel
  split
  · exact fun _ h => h
  · exact List.subset_append_left _ _

theorem scheduleCancel_mem (hticket : o.ticket ≠ none) :
    ∃ due, (a, due) ∈ (AnalystSession.scheduleCancel now o a).pendingCancels := by
  unfold AnalystSession.scheduleCancel
  split
  · rename_i hno
    rcases hno with hno | hno
    · exact absurd hno hticket
    · have hmem : a ∈ o.pendingCancels.map Prod.fst := by
        simpa [AnalystSession.hasPending] using hno
      obtain ⟨x, hx, rfl⟩ := List.mem_map.mp hmem
      exact ⟨x.2, hx⟩
  · exact ⟨_, List.mem_append_right _ (List.mem_singleton_self _)⟩

/-- A close with a session leaves a timer for every alert watched. -/
theorem foldl_scheduleCancel_mem {alertIds : List String} (hticket : o.ticket ≠ none)
    (ha : a ∈ alertIds ∨ ∃ due, (a, due) ∈ o.pendingCancels) : ∃ due,
      (a, due) ∈ (alertIds.foldl (AnalystSession.scheduleCancel now) o).pendingCancels := by
  induction alertIds generalizing o with
  | nil => exact ha.resolve_left (fun h => by cases h)
  | cons b alertIds ih =>
      rw [List.foldl_cons]
      obtain ⟨pending, hsame⟩ := AnalystSession.scheduleCancel_eq now o b
      apply ih (by rw [hsame]; exact hticket)
      rcases ha with ha | ⟨due, hdue⟩
      · rcases List.mem_cons.mp ha with rfl | ha
        · exact .inr (scheduleCancel_mem hticket)
        · exact .inl ha
      · exact .inr ⟨due, scheduleCancel_subset b hdue⟩

end Schedule

/-- The cancel of the alert waits for its timer, or is posted. -/
def Scheduled (s : Sessions) (d a : String) : Prop :=
  (∃ due, (a, due) ∈ (s.objects d).pendingCancels) ∨
    ∃ e ∈ s.log, e.cancels d a = true

theorem not_scheduled_start : ¬ Scheduled Sessions.start d a := by
  rintro (⟨due, h⟩ | ⟨e, he, -⟩)
  · cases h
  · cases he

theorem Event.cancels_inj {e : Event} {d' a' : String} (h : e.cancels d a = true)
    (h' : e.cancels d' a' = true) : d' = d ∧ a' = a := by
  unfold Event.cancels at h h'
  split at h
  · simp only [Bool.and_eq_true, beq_iff_eq] at h h'
    exact ⟨h'.1.symm.trans h.1, h'.2.symm.trans h.2⟩
  · cases h

theorem timer_pending (h : s.step p (.timer d a) = some s') :
    ∃ due, (a, due) ∈ (s.objects d).pendingCancels ∧ due ≤ s.clock := by
  simp only [Sessions.step] at h
  split at h
  · rename_i b due hfind
    split at h
    · rename_i hdue
      obtain rfl : b = a := by simpa using List.find?_some hfind
      exact ⟨due, List.mem_of_find?_eq_some hfind, hdue⟩
    · cases h
  · cases h

/-- **Only a close schedules**, and only what is watched. -/
theorem pending_step (h : s.step p l = some s') {x : String × ℕ}
    (hx : x ∈ (s'.objects d).pendingCancels) :
    x ∈ (s.objects d).pendingCancels ∨
      l = .close d ∧ x.1 ∈ (s.objects d).watchedAlerts ∧ x.2 = s.clock + cancelGrace ∧
        (s.objects d).ticket ≠ none := by
  rcases step_turn h with ⟨d', handler, ht, hobj, -⟩ | ⟨-, hobj⟩
  · rw [hobj] at hx
    by_cases hd : d = d'
    · subst hd
      simp only [Sessions.handle, Function.update_self] at hx
      by_cases hclose : l = .close d
      · subst hclose
        cases ht with
        | close =>
            rcases mem_foldl_scheduleCancel hx with hx | ⟨hin, hdue, hticket⟩
            · exact .inl hx
            · exact .inr ⟨rfl, hin, hdue, hticket⟩
      · by_cases htimer : ∃ a, l = .timer d a
        · obtain ⟨a, rfl⟩ := htimer
          cases ht with
          | timer =>
              unfold AnalystSession.fireCancel at hx
              split at hx
              · exact .inl hx
              · exact .inl (List.mem_of_mem_filter hx)
        · have hun := ht.unscheduling hclose fun a ha => htimer ⟨a, ha⟩
          exact .inl (hun.pending hx)
    · simp only [Sessions.handle, Function.update_of_ne hd] at hx
      exact .inl hx
  · rcases hobj d with hobj | ⟨_, -, n, hobj⟩
    · exact .inl (hobj ▸ hx)
    · rw [hobj] at hx
      cases hx

theorem scheduled_step (h : s.step p l = some s') (hs : Scheduled s' d a) :
    Scheduled s d a ∨
      l = .close d ∧ a ∈ (s.objects d).watchedAlerts ∧ (s.objects d).ticket ≠ none := by
  rcases hs with ⟨due, hdue⟩ | ⟨e, he, hcancels⟩
  · rcases pending_step h hdue with hdue | ⟨hl, hin, -, hticket⟩
    · exact .inl (.inl ⟨due, hdue⟩)
    · exact .inr ⟨hl, hin, hticket⟩
  · rcases new_event h he (Event.plain_of_cancels hcancels) with he | ⟨d', -, rfl⟩ |
      ⟨d', a', rfl, hnew⟩
    · exact .inl (.inr ⟨e, he, hcancels⟩)
    · cases hcancels
    · obtain ⟨rfl, rfl⟩ := Event.cancels_inj hcancels hnew
      obtain ⟨due, hdue, -⟩ := timer_pending h
      exact .inl (.inl ⟨due, hdue⟩)

/-! ## §3  One close for each object -/

/-- An object accepts one websocket at most. -/
theorem Inv.acceptsAt_le_one (hs : Inv p s) (d : String) :
    s.log.countP (Event.acceptsAt d) ≤ 1 := by
  by_cases hany : ∃ e ∈ s.log, e.acceptsAt d = true
  · obtain ⟨e, he, hat⟩ := hany
    cases e with
    | accepted d' ticket session =>
        have hd' : d' = d := by simpa [Event.acceptsAt] using hat
        have hdoId := (hs.accepted d' ticket session he).1
        -- whatever the object accepts is of this ticket
        have hmono : s.log.countP (Event.acceptsAt d) ≤
            s.log.countP (Event.accepts ticket) := by
          apply List.countP_mono_left
          intro e' he' hat'
          cases e' with
          | accepted d'' t session' =>
              have hd'' : d'' = d := by simpa [Event.acceptsAt] using hat'
              have ht := (hs.accepted d'' t session' he').1
              have hname := p.idFromName_injective
                (ht.symm.trans (hd''.trans (hd'.symm.trans hdoId)))
              have hsame : t = ticket := (String.append_right_inj _).mp hname
              simp [Event.accepts, hsame]
          | _ => cases hat'
        have hbudget := hs.budget ticket
        unfold Gateway.budget at hbudget
        omega
    | _ => cases hat
  · rw [List.countP_eq_zero.mpr fun e he hat => hany ⟨e, he, hat⟩]
    exact Nat.zero_le 1

theorem countP_closes_pos {log : List Event} (h : .closed d ∈ log) :
    0 < log.countP (Event.closes d) :=
  List.countP_pos_iff.mpr ⟨_, h, by simp [Event.closes]⟩

/-- No socket is left after the close. -/
theorem Inv.sockets_of_closed (hs : Inv p s) (h : .closed d ∈ s.log) :
    (s.objects d).sockets = 0 := by
  have hsockets := hs.sockets d
  have hone := hs.acceptsAt_le_one d
  have hpos := countP_closes_pos h
  omega

/-- An object that closes has not closed before. -/
theorem Inv.not_closed (hs : Inv p s) (h : s.step p (.close d) = some s') :
    .closed d ∉ s.log := by
  intro hclosed
  simp only [Sessions.step, hs.sockets_of_closed hclosed, if_true] at h
  cases h

/-- What is scheduled was scheduled by a close, and a timer has a session. -/
structure Closed (p : Platform) (s : Sessions) : Prop where
  inv : Inv p s
  closed : ∀ d a, Scheduled s d a → .closed d ∈ s.log
  ticket : ∀ d x, x ∈ (s.objects d).pendingCancels → (s.objects d).ticket.isSome

theorem Closed.start (p : Platform) : Closed p Sessions.start where
  inv := Inv.start p
  closed := fun _ _ h => absurd h not_scheduled_start
  ticket := fun _ _ h => by cases h

theorem close_closed (h : s.step p (.close d) = some s') : .closed d ∈ s'.log := by
  simp only [Sessions.step] at h
  split at h
  · cases h
  · obtain rfl := Option.some.inj h
    exact List.mem_append_right _ List.mem_cons_self

/-- An object with timers keeps its session, or loses both. -/
theorem ticket_step (h : s.step p l = some s') (hsome : (s.objects d).ticket.isSome) :
    (s'.objects d).ticket.isSome ∨ (s'.objects d).pendingCancels = [] := by
  rcases step_turn h with ⟨d', handler, ht, hobj, -⟩ | ⟨-, hobj⟩
  · rw [hobj]
    by_cases hd : d = d'
    · subst hd
      simp only [Sessions.handle, Function.update_self]
      refine .inl ?_
      by_cases hclose : l = .close d
      · subst hclose
        cases ht with
        | close =>
            obtain ⟨pending, hfold⟩ := AnalystSession.foldl_scheduleCancel_eq s.clock
              (s.objects d).watchedAlerts (s.objects d)
            unfold AnalystSession.webSocketClose
            rw [hfold]
            exact hsome
      · by_cases htimer : ∃ a, l = .timer d a
        · obtain ⟨a, rfl⟩ := htimer
          cases ht with
          | timer =>
              unfold AnalystSession.fireCancel
              split
              · exact hsome
              · exact hsome
        · exact (ht.unscheduling hclose fun a ha => htimer ⟨a, ha⟩).ticket hsome
    · simp only [Sessions.handle, Function.update_of_ne hd]
      exact .inl hsome
  · rcases hobj d with hobj | ⟨_, -, n, hobj⟩
    · exact .inl (hobj ▸ hsome)
    · exact .inr (by rw [hobj]; rfl)

theorem Closed.step (hs : Closed p s) (h : s.step p l = some s') : Closed p s' where
  inv := hs.inv.step h
  closed := by
    intro d a hscheduled
    obtain ⟨es, hes⟩ := step_log h
    rcases scheduled_step h hscheduled with hold | ⟨rfl, -, -⟩
    · rw [hes]
      exact List.mem_append_left _ (hs.closed d a hold)
    · exact close_closed h
  ticket := by
    intro d x hx
    have hsome : (s.objects d).ticket.isSome := by
      rcases pending_step h hx with hx | ⟨-, -, -, hticket⟩
      · exact hs.ticket d x hx
      · exact Option.isSome_iff_ne_none.mpr hticket
    rcases ticket_step h hsome with hsome | hnil
    · exact hsome
    · rw [hnil] at hx
      cases hx

theorem closed_of_reachable (h : (sessionSystem p).Reachable s) : Closed p s := by
  refine h.invariant (P := Closed p) ?_ fun s l s' hi _ hstep => hi.step hstep
  rintro s rfl
  exact Closed.start p

/-! ## §4  The timer decides -/

/-- What the timer of an alert does. -/
theorem timer_step (hs : Closed p s) (h : s.step p (.timer d a) = some s') :
    (∃ e ∈ s'.log, e.cancels d a = true) ∧
      ∀ due, (a, due) ∉ (s'.objects d).pendingCancels := by
  obtain ⟨due, hdue, -⟩ := timer_pending h
  obtain ⟨session, hsession⟩ := Option.isSome_iff_exists.mp (hs.ticket d _ hdue)
  simp only [Sessions.step] at h
  split at h
  · split at h
    · obtain rfl := Option.some.inj h
      refine ⟨⟨.posted (.cancel d session.tenant_id session.user_id a), ?_, ?_⟩, ?_⟩
      · simp [Sessions.handle, AnalystSession.fireCancel, hsession]
      · simp [Event.cancels]
      · simp [Sessions.handle, AnalystSession.fireCancel, hsession,
          AnalystSession.cancelScheduledCancel]
    · cases h
  · cases h

/-- **A cancel is posted** just when its timer runs. -/
theorem cancelled_iff_timer {t : Sessions} {as : List Step} (hs : Closed p s)
    (h : (sessionSystem p).run s as = some t) :
    (∃ e ∈ t.log, e.cancels d a = true) ↔
      (∃ e ∈ s.log, e.cancels d a = true) ∨ .timer d a ∈ as := by
  induction as generalizing s with
  | nil =>
      obtain rfl := System.run_nil h
      simp
  | cons l as ih =>
      obtain ⟨s', hstep, h⟩ := System.run_cons h
      rw [ih (hs.step hstep) h, List.mem_cons, ← or_assoc]
      apply or_congr_left
      constructor
      · rintro ⟨e, he, hcancels⟩
        rcases new_event hstep he (Event.plain_of_cancels hcancels) with
          he | ⟨d', -, rfl⟩ | ⟨d', a', rfl, hnew⟩
        · exact .inl ⟨e, he, hcancels⟩
        · cases hcancels
        · obtain ⟨rfl, rfl⟩ := Event.cancels_inj hcancels hnew
          exact .inr rfl
      · rintro (⟨e, he, hcancels⟩ | rfl)
        · obtain ⟨es, hes⟩ := step_log hstep
          exact ⟨e, hes ▸ List.mem_append_left _ he, hcancels⟩
        · exact (timer_step hs hstep).1

/-- After the close an alert without a timer stays without one. -/
theorem waiting_run {t : Sessions} {as : List Step} (hs : Closed p s)
    (hclosed : .closed d ∈ s.log) (hnot : ∀ due, (a, due) ∉ (s.objects d).pendingCancels)
    (h : (sessionSystem p).run s as = some t) :
    .timer d a ∉ as ∧ ∀ due, (a, due) ∉ (t.objects d).pendingCancels := by
  induction as generalizing s with
  | nil =>
      obtain rfl := System.run_nil h
      exact ⟨List.not_mem_nil, hnot⟩
  | cons l as ih =>
      obtain ⟨s', hstep, h⟩ := System.run_cons h
      obtain ⟨es, hes⟩ := step_log hstep
      have hclosed' : .closed d ∈ s'.log := hes ▸ List.mem_append_left _ hclosed
      have hnot' : ∀ due, (a, due) ∉ (s'.objects d).pendingCancels := by
        intro due hdue
        rcases pending_step hstep hdue with hold | ⟨rfl, -⟩
        · exact hnot due hold
        · exact hs.inv.not_closed hstep hclosed
      obtain ⟨hmem, hend⟩ := ih (hs.step hstep) hclosed' hnot' h
      refine ⟨?_, hend⟩
      rw [List.mem_cons, not_or]
      refine ⟨?_, hmem⟩
      rintro rfl
      obtain ⟨due, hdue, -⟩ := timer_pending (p := p) hstep
      exact hnot due hdue

/-- After the close a timer waits until it runs or is lost with the memory. -/
theorem waiting_step (hs : Closed p s) (hclosed : .closed d ∈ s.log)
    (h : s.step p l = some s') {x : String × ℕ} (hx : x ∈ (s.objects d).pendingCancels)
    (htimer : l ≠ .timer d x.1) (hevict : ∀ hibernated, l ≠ .evict d hibernated) :
    x ∈ (s'.objects d).pendingCancels := by
  rcases step_turn h with ⟨d', handler, ht, hobj, -⟩ | ⟨-, hobj⟩
  · rw [hobj]
    by_cases hd : d = d'
    · subst hd
      simp only [Sessions.handle, Function.update_self]
      by_cases hclose : l = .close d
      · subst hclose
        exact absurd hclosed (hs.inv.not_closed h)
      · by_cases hother : ∃ a, l = .timer d a
        · obtain ⟨a, rfl⟩ := hother
          cases ht with
          | timer =>
              unfold AnalystSession.fireCancel
              split
              · exact hx
              · refine List.mem_filter.mpr ⟨hx, ?_⟩
                have hne : x.1 ≠ a := fun ha => htimer (by rw [ha])
                simpa using hne
        · have hun := ht.unscheduling hclose fun a ha => hother ⟨a, ha⟩
          rw [hun.kept (hs.inv.sockets_of_closed hclosed)]
          exact hx
    · simp only [Sessions.handle, Function.update_of_ne hd]
      exact hx
  · rcases hobj d with hobj | ⟨hibernated, hl, -⟩
    · exact hobj ▸ hx
    · exact absurd hl (hevict hibernated)

/-- The object loses its memory before the timer runs. -/
def EvictedFirst (d a : String) (after : List Step) : Prop :=
  ∃ x hibernated y, after = x ++ .evict d hibernated :: y ∧ .timer d a ∉ x

theorem evictedFirst_cons {as : List Step} :
    EvictedFirst d a (l :: as) ↔
      (∃ hibernated, l = .evict d hibernated) ∨ l ≠ .timer d a ∧ EvictedFirst d a as := by
  constructor
  · rintro ⟨x, hibernated, y, heq, hx⟩
    cases x with
    | nil => exact .inl ⟨hibernated, (List.cons.inj heq).1⟩
    | cons b x =>
        obtain ⟨rfl, rfl⟩ := List.cons.inj heq
        rw [List.mem_cons, not_or] at hx
        exact .inr ⟨fun h => hx.1 h.symm, x, hibernated, y, rfl, hx.2⟩
  · rintro (⟨hibernated, rfl⟩ | ⟨hl, x, hibernated, y, rfl, hx⟩)
    · exact ⟨[], hibernated, as, rfl, List.not_mem_nil⟩
    · refine ⟨l :: x, hibernated, y, rfl, ?_⟩
      rw [List.mem_cons, not_or]
      exact ⟨fun h => hl h.symm, hx⟩

/-- **A timer runs** unless the object is evicted first, or the run ends while it
is waiting. -/
theorem timer_iff {t : Sessions} {as : List Step} {due : ℕ} (hs : Closed p s)
    (hclosed : .closed d ∈ s.log) (hx : (a, due) ∈ (s.objects d).pendingCancels)
    (h : (sessionSystem p).run s as = some t) :
    .timer d a ∈ as ↔
      ¬ EvictedFirst d a as ∧ ∀ due, (a, due) ∉ (t.objects d).pendingCancels := by
  -- on the steps: the cancel waits until its timer fires or its object is evicted
  induction as generalizing s with
  | nil =>
      obtain rfl := System.run_nil h
      apply iff_of_false List.not_mem_nil
      rintro ⟨-, hnot⟩
      exact hnot due hx
  | cons l as ih =>
      obtain ⟨s', hstep, hrun⟩ := System.run_cons h
      obtain ⟨es, hes⟩ := step_log hstep
      have hs' : Closed p s' := hs.step hstep
      have hclosed' : .closed d ∈ s'.log := hes ▸ List.mem_append_left _ hclosed
      rw [evictedFirst_cons, List.mem_cons]
      by_cases htimer : l = .timer d a
      · subst htimer
        refine iff_of_true (.inl rfl) ⟨?_, ?_⟩
        · rintro (⟨hibernated, hl⟩ | ⟨hl, -⟩)
          · cases hl
          · exact hl rfl
        · exact (waiting_run hs' hclosed' (timer_step hs hstep).2 hrun).2
      · by_cases hevict : ∃ hibernated, l = .evict d hibernated
        · obtain ⟨hibernated, rfl⟩ := hevict
          obtain rfl := Option.some.inj hstep
          have hnot : ∀ due, (a, due) ∉ (Function.update s.objects d
              (AnalystSession.fresh (if hibernated then (s.objects d).sockets
                else 0)) d).pendingCancels := by
            intro due hdue
            rw [Function.update_self] at hdue
            cases hdue
          refine iff_of_false ?_ fun hno => hno.1 (.inl ⟨hibernated, rfl⟩)
          rintro (hl | hmem)
          · cases hl
          · exact (waiting_run hs' hclosed' hnot hrun).1 hmem
        · have hx' := waiting_step hs hclosed hstep hx htimer
            fun hibernated hl => hevict ⟨hibernated, hl⟩
          have hl : ¬ .timer d a = l := fun hl => htimer hl.symm
          rw [or_iff_right hl, or_iff_right hevict, and_iff_right htimer]
          exact ih hs' hclosed' hx' hrun

/-! ## §5  Reopening -/

/-- The user of a closed object is back: within the grace another object accepts
a websocket of the user, is told to watch the alert, and is not closed. -/
def Reopened (p : Platform) (s₁ : Sessions) (d a : String) (after : List Step) : Prop :=
  ∃ x y ticket ticket' session session' s₂,
    after = x ++ .message (p.doId ticket') (some (.watch a)) :: y ∧
    (sessionSystem p).run s₁ x = some s₂ ∧ s₂.clock ≤ s₁.clock + cancelGrace ∧
    .accepted d ticket session ∈ s₁.log ∧
    .accepted (p.doId ticket') ticket' session' ∉ s₁.log ∧
    .accepted (p.doId ticket') ticket' session' ∈ s₂.log ∧
    session'.user_id = session.user_id ∧ session'.tenant_id = session.tenant_id ∧
    .close (p.doId ticket') ∉ after

/-- **A reopened connection saves an alert** just when the closing object did not
watch it, or had no session, or is evicted before the timer runs, or the run ends
before that: what the new connection does has no part in it. -/
theorem reopening_saves_iff {before after : List Step} {s₁ t : Sessions}
    (hbefore : (sessionSystem p).run Sessions.start before = some s)
    (hclose : (sessionSystem p).run s [.close d] = some s₁)
    (hafter : (sessionSystem p).run s₁ after = some t) :
    (Reopened p s₁ d a after → ∀ e ∈ t.log, e.cancels d a = false) ↔
      (Reopened p s₁ d a after →
        a ∉ (s.objects d).watchedAlerts ∨ (s.objects d).ticket = none ∨
          EvictedFirst d a after ∨ ∃ due, (a, due) ∈ (t.objects d).pendingCancels) := by
  refine imp_congr_right fun _ => ?_
  have hs : Closed p s :=
    closed_of_reachable (System.reached_of_run (.start rfl) hbefore)
  have hstep : s.step p (.close d) = some s₁ := by
    obtain ⟨s', hs', hnil⟩ := System.run_cons hclose
    obtain rfl := System.run_nil hnil
    exact hs'
  have hs₁ : Closed p s₁ := hs.step hstep
  have hclosed : .closed d ∈ s₁.log := close_closed hstep
  have hfresh : ¬ Scheduled s d a := fun h => hs.inv.not_closed hstep (hs.closed d a h)
  have hposted : ¬ ∃ e ∈ s₁.log, e.cancels d a = true := by
    rintro ⟨e, he, hcancels⟩
    rcases new_event hstep he (Event.plain_of_cancels hcancels) with he | ⟨d', -, rfl⟩ |
      ⟨d', a', hl, -⟩
    · exact hfresh (.inr ⟨e, he, hcancels⟩)
    · cases hcancels
    · cases hl
  -- nothing was cancelled before the close, so only its timer can
  have hcancelled : (∀ e ∈ t.log, e.cancels d a = false) ↔ .timer d a ∉ after := by
    rw [← not_iff_not, not_not]
    refine Iff.trans ?_ ((cancelled_iff_timer hs₁ hafter).trans (or_iff_right hposted))
    simp
  rw [hcancelled]
  -- the close schedules a cancel for what the session watches
  by_cases hwatched : a ∈ (s.objects d).watchedAlerts ∧ (s.objects d).ticket ≠ none
  · have hwaits : ∃ due, (a, due) ∈ (s₁.objects d).pendingCancels := by
      simp only [Sessions.step] at hstep
      split at hstep
      · cases hstep
      · obtain rfl := Option.some.inj hstep
        simp only [Sessions.handle, Function.update_self]
        exact foldl_scheduleCancel_mem hwatched.2 (.inl hwatched.1)
    obtain ⟨due, hdue⟩ := hwaits
    rw [timer_iff hs₁ hclosed hdue hafter, or_iff_right (not_not_intro hwatched.1),
      or_iff_right hwatched.2, not_and_or, not_not]
    simp
  · have hnot : ∀ due, (a, due) ∉ (s₁.objects d).pendingCancels := by
      intro due hdue
      rcases pending_step hstep hdue with hold | ⟨-, hin, -, hticket⟩
      · exact hfresh (.inl ⟨due, hold⟩)
      · exact hwatched ⟨hin, hticket⟩
    refine iff_of_true (waiting_run hs₁ hclosed hnot hafter).1 ?_
    rcases not_and_or.mp hwatched with h | h
    · exact .inl h
    · exact .inr (.inl (not_not.mp h))

/-- A platform for the runs below. -/
def identityPlatform : Platform := ⟨id, Function.injective_id, "https://gateway", 60⟩

/-- One websocket, from the ticket to the registration of a watched alert. -/
def opened (i : ℕ) (ticket alertId : String) : List Step :=
  [.issueWsTicket ticket ⟨"user", "tenant", none⟩, .upgrade ticket, .redeem i true,
    .answer i true, .message ("ticket:" ++ ticket) (some (.watch alertId)),
    .snapshot ("ticket:" ++ ticket) 0 (some ⟨3, none⟩),
    .registered ("ticket:" ++ ticket) 0 true]

/-- The user leaves, is back after two seconds, and stays beyond the five. -/
def reopenedRun (first : List Step) : List Step :=
  first ++ .pass (2 * second) :: opened 1 "ticket-2" "alert" ++ [.pass (3 * second)]

/-- Where the closed object is evicted at once, its timer is lost. -/
theorem reopening_saves_evicted :
    ∃ s s₁ t, (sessionSystem identityPlatform).run Sessions.start
        (opened 0 "ticket-1" "alert") = some s ∧
      (sessionSystem identityPlatform).run s [.close "ticket:ticket-1"] = some s₁ ∧
      (sessionSystem identityPlatform).run s₁
        (reopenedRun [.evict "ticket:ticket-1" false]) = some t ∧
      (Reopened identityPlatform s₁ "ticket:ticket-1" "alert"
          (reopenedRun [.evict "ticket:ticket-1" false]) →
        ∀ e ∈ t.log, e.cancels "ticket:ticket-1" "alert" = false) := by
  have hrun : ∃ s s₁ t, (sessionSystem identityPlatform).run Sessions.start
        (opened 0 "ticket-1" "alert") = some s ∧
      (sessionSystem identityPlatform).run s [.close "ticket:ticket-1"] = some s₁ ∧
      (sessionSystem identityPlatform).run s₁
        (reopenedRun [.evict "ticket:ticket-1" false]) = some t :=
    ⟨_, _, _, rfl, rfl, rfl⟩
  obtain ⟨s, s₁, t, hs, hs₁, ht⟩ := hrun
  refine ⟨s, s₁, t, hs, hs₁, ht, (reopening_saves_iff hs hs₁ ht).mpr fun _ => ?_⟩
  exact .inr (.inr (.inl ⟨[], false, _, rfl, List.not_mem_nil⟩))

/-- The user is back after two seconds, and the timer of the closed object runs
after five. -/
theorem reopened_yet_cancelled :
    ¬ ∀ (p : Platform) (before after : List Step) (d a : String) (s s₁ t : Sessions),
      (sessionSystem p).run Sessions.start before = some s →
      (sessionSystem p).run s [.close d] = some s₁ →
      (sessionSystem p).run s₁ after = some t →
      Reopened p s₁ d a after → ∀ e ∈ t.log, e.cancels d a = false := by
  have hrun : ∃ s s₁ t s₂, (sessionSystem identityPlatform).run Sessions.start
        (opened 0 "ticket-1" "alert") = some s ∧
      (sessionSystem identityPlatform).run s [.close "ticket:ticket-1"] = some s₁ ∧
      (sessionSystem identityPlatform).run s₁
        (reopenedRun [] ++ [.timer "ticket:ticket-1" "alert"]) = some t ∧
      (sessionSystem identityPlatform).run s₁ ((reopenedRun []).take 5) = some s₂ ∧
      s₂.clock ≤ s₁.clock + cancelGrace ∧
      .accepted "ticket:ticket-1" "ticket-1" ⟨"user", "tenant", none⟩ ∈ s₁.log ∧
      .accepted "ticket:ticket-2" "ticket-2" ⟨"user", "tenant", none⟩ ∉ s₁.log ∧
      .accepted "ticket:ticket-2" "ticket-2" ⟨"user", "tenant", none⟩ ∈ s₂.log ∧
      ∃ e ∈ t.log, e.cancels "ticket:ticket-1" "alert" = true :=
    ⟨_, _, _, _, rfl, rfl, rfl, rfl, by decide, by decide, by decide, by decide,
      by decide⟩
  obtain ⟨s, s₁, t, s₂, hs, hs₁, ht, hs₂, hclock, hold, hnew, hagain, e, he, hcancels⟩ :=
    hrun
  intro h
  have hnone := h _ _ _ _ _ _ _ _ hs hs₁ ht
    ⟨_, _, "ticket-1", "ticket-2", _, _, s₂, rfl, hs₂, hclock, hold, hnew, hagain, rfl,
      rfl, by decide⟩ e he
  rw [hcancels] at hnone
  cases hnone

/-! ## §6  Alerts that have ended -/

/-- `done`, `failed` or `cancelled`. -/
def TriageEvent.terminates (alertId : String) : TriageEvent → Bool
  | .phase a _ _ name => a == alertId && ["done", "failed", "cancelled"].contains name
  | .token .. => false

def PushEnvelope.terminates (alertId : String) : PushEnvelope → Bool
  | .phase (some e) => e.terminates alertId
  | .token (some e) => e.terminates alertId
  | .cancel (some a) => a == alertId
  | _ => false

/-- The terminal phase of the alert is pushed to the object. -/
def Event.terminates (doId alertId : String) : Event → Bool
  | .pushed d envelope => d == doId && envelope.terminates alertId
  | _ => false

/-- No cancel after a close is for an alert whose terminal phase was pushed before
the close. -/
def CancelsUnfinished (log : List Event) : Prop :=
  ∀ d a terminal cancel, [terminal, .closed d, cancel].Sublist log →
    cancel.cancels d a = true → terminal.terminates d a = false

/-- The closing object, if it has a session, watches no alert whose terminal phase
it was pushed. -/
def ClosesUnfinished (s : Sessions) : Step → Prop
  | .close d => (s.objects d).ticket.isSome = true → (s.objects d).watchedAlerts.all
      (fun a => s.log.all fun e => !e.terminates d a) = true
  | _ => True

instance : (s : Sessions) → (l : Step) → Decidable (ClosesUnfinished s l)
  | s, .close d => inferInstanceAs (Decidable ((s.objects d).ticket.isSome = true → _ = true))
  | _, .issueWsTicket .. | _, .upgrade _ | _, .redeem .. | _, .answer .. | _, .message ..
  | _, .snapshot .. | _, .registered .. | _, .push .. | _, .timer .. | _, .evict ..
  | _, .pass _ => .isTrue trivial

/-- What is scheduled had not ended at the close. -/
def SchedulesUnfinished (s : Sessions) : Prop :=
  ∀ d a terminal, Scheduled s d a → [terminal, .closed d].Sublist s.log →
    terminal.terminates d a = false

/-- A close adds itself and a request. -/
theorem mem_close_log (h : s.step p (.close d) = some s') {e : Event} (he : e ∈ s'.log) :
    e ∈ s.log ∨ e = .closed d ∨ ∃ q, e = .posted q := by
  simp only [Sessions.step] at h
  split at h
  · cases h
  · obtain rfl := Option.some.inj h
    rcases List.mem_append.mp he with he | he
    · exact .inl he
    · refine .inr ?_
      unfold AnalystSession.webSocketClose at he
      rcases List.mem_cons.mp he with he | he
      · exact .inl he
      · split at he
        · exact .inr ⟨_, List.mem_singleton.mp he⟩
        · cases he

/-- What follows in a log does not come before what is not in it. -/
theorem sublist_of_append {x y : Event} {log es : List Event}
    (h : [x, y].Sublist (log ++ es)) (hy : y ∉ es) : [x, y].Sublist log := by
  obtain ⟨l₁, l₂, heq, h₁, h₂⟩ := List.sublist_append_iff.mp h
  have hnil : l₂ = [] := by
    by_contra hne
    have hlast : (l₁ ++ l₂).getLast? = some y := by rw [← heq]; rfl
    rw [List.getLast?_append_of_ne_nil _ hne] at hlast
    exact hy (h₂.subset (List.mem_of_getLast? hlast))
  rw [heq, hnil, List.append_nil]
  exact h₁

theorem schedulesUnfinished_step (hs : Closed p s) (hu : SchedulesUnfinished s)
    (hc : ClosesUnfinished s l) (h : s.step p l = some s') : SchedulesUnfinished s' := by
  intro d a terminal hscheduled hsub
  rcases scheduled_step h hscheduled with hold | ⟨rfl, hin, hticket⟩
  · obtain ⟨es, hes⟩ := step_log h
    -- the object has closed, and it closes once
    have hnot : .closed d ∉ es := by
      intro hagain
      have hle := (hs.step h).inv.sockets d
      have hone := (hs.step h).inv.acceptsAt_le_one d
      have hpos := countP_closes_pos (hs.closed d a hold)
      have hpos' := countP_closes_pos hagain
      rw [hes, List.countP_append] at hle
      rw [hes] at hone
      omega
    rw [hes] at hsub
    exact hu d a terminal hold (sublist_of_append hsub hnot)
  · rw [Bool.eq_false_iff]
    intro hterminal
    have hmem : terminal ∈ s.log := by
      have hnew : terminal ∈ s'.log := hsub.subset List.mem_cons_self
      rcases mem_close_log h hnew with hmem | rfl | ⟨q, rfl⟩
      · exact hmem
      · cases hterminal
      · cases hterminal
    have hall := hc (Option.isSome_iff_ne_none.mpr hticket)
    have hno := List.all_eq_true.mp (List.all_eq_true.mp hall a hin) terminal hmem
    rw [hterminal] at hno
    cases hno

/-- **Only unfinished work is cancelled**, in every state of a run whose closing
objects watch no alert that has ended. -/
theorem cancels_unfinished (h : (sessionSystem p).Reached ClosesUnfinished s) :
    CancelsUnfinished s.log := by
  have hboth : Closed p s ∧ SchedulesUnfinished s := by
    apply h.invariant (P := fun s => Closed p s ∧ SchedulesUnfinished s)
    · rintro s rfl
      refine ⟨Closed.start p, ?_⟩
      intro d a terminal hscheduled
      exact absurd hscheduled not_scheduled_start
    · intro s l s' hi hc hstep
      exact ⟨hi.1.step hstep, schedulesUnfinished_step hi.1 hi.2 hc hstep⟩
  intro d a terminal cancel hsub hcancels
  have hmem : cancel ∈ s.log :=
    hsub.subset (List.mem_cons_of_mem _ (List.mem_cons_of_mem _ List.mem_cons_self))
  refine hboth.2 d a terminal (.inr ⟨cancel, hmem, hcancels⟩) ?_
  exact List.Sublist.trans (List.sublist_append_left [terminal, .closed d] [cancel]) hsub

/-- The alert ends, and the analyst leaves by way of `last`. -/
def endedRun (last : List Step) : List Step :=
  opened 0 "ticket-1" "alert" ++
    .push "ticket:ticket-1" (some (.phase (some (.phase "alert" "tenant" 4 "done")))) ::
      last ++ [.close "ticket:ticket-1", .pass cancelGrace]

/-- Who unwatches an ended alert cancels nothing. -/
theorem cancels_unfinished_unwatched :
    ∃ s, (sessionSystem identityPlatform).run Sessions.start
        (endedRun [.message "ticket:ticket-1" (some (.unwatch "alert"))]) = some s ∧
      CancelsUnfinished s.log := by
  have hrun : ∃ s, (sessionSystem identityPlatform).run Sessions.start
      (endedRun [.message "ticket:ticket-1" (some (.unwatch "alert"))]) = some s := ⟨_, rfl⟩
  obtain ⟨s, hs⟩ := hrun
  have hmeets : (sessionSystem identityPlatform).Meets ClosesUnfinished Sessions.start
      (endedRun [.message "ticket:ticket-1" (some (.unwatch "alert"))]) := by decide
  exact ⟨s, hs, cancels_unfinished (hmeets.reached (.start rfl) hs)⟩

/-- Who stays with it to the end cancels it, done as it is. -/
theorem ended_yet_cancelled :
    ¬ ∀ (p : Platform) (s : Sessions), (sessionSystem p).Reachable s →
      CancelsUnfinished s.log := by
  have hrun : ∃ s, (sessionSystem identityPlatform).run Sessions.start
        (endedRun [] ++ [.timer "ticket:ticket-1" "alert"]) = some s ∧
      [.pushed "ticket:ticket-1" (.phase (some (.phase "alert" "tenant" 4 "done"))),
        .closed "ticket:ticket-1",
        .posted (.cancel "ticket:ticket-1" "tenant" "user" "alert")].Sublist s.log :=
    ⟨_, rfl, by decide⟩
  obtain ⟨s, hs, hsub⟩ := hrun
  intro h
  have hfalse := h _ s (System.reached_of_run (.start rfl) hs) _ "alert" _ _ hsub rfl
  exact absurd hfalse (by decide)

end AlertTriage.Gateway
