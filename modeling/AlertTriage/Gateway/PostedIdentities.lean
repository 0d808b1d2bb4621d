import AlertTriage.Gateway.OneSession

/-!
# Whom a durable object speaks for

Whatever an object posts to the BFF, a registration, a disconnect or the cancel of a timer
long after the close, names the user and the tenant that its one ticket was issued to
(`posted_identity`).
-/

namespace AlertTriage.Gateway

open Library

def Post.doId : Post → String
  | .watch w => w.do_id
  | .unwatch d _ => d
  | .disconnect d _ => d
  | .cancel d _ _ _ => d

/-- What a post says of the user and the tenant is what the session says. -/
def Post.Names (session : TicketRedemption) : Post → Prop
  | .watch w => w.user_id = session.user_id ∧ w.tenant_id = session.tenant_id
  | .unwatch _ _ => True
  | .disconnect _ userId => userId = session.user_id
  | .cancel _ tenantId userId _ => tenantId = session.tenant_id ∧ userId = session.user_id

/-- All that a handler posts is in the name of its object and of the session there. -/
def Speaks (doId : String) (o : AnalystSession) (es : List Event) : Prop :=
  ∀ post, .posted post ∈ es → post.doId = doId ∧
    ∃ session, o.ticket = some session ∧ post.Names session

namespace AnalystSession

variable {doId : String} {o : AnalystSession}

theorem speaks_silent {es : List Event} (h : ∀ post, .posted post ∉ es) : Speaks doId o es :=
  fun post hpost => absurd hpost (h post)

theorem speaks_webSocketMessage (msg : Option ClientMessage) :
    Speaks doId o (webSocketMessage doId msg o).2 := by
  unfold webSocketMessage
  split
  · exact speaks_silent (by simp)
  · split
    · exact speaks_silent (by simp)
    · split
      · unfold handleWatch
        split <;> exact speaks_silent (by simp)
      · unfold handleUnwatch
        split
        · exact speaks_silent (by simp)
        · rename_i hmember
          obtain ⟨session, hsession⟩ := Option.ne_none_iff_exists'.mp (not_or.mp hmember).2
          rintro post hpost
          obtain rfl := Event.posted.inj (List.mem_singleton.mp hpost)
          exact ⟨rfl, session, hsession, trivial⟩
      · exact speaks_silent (by simp)
      · exact speaks_silent (by simp)

theorem speaks_afterSnapshot (pushUrl : String) (i : ℕ) (alertId : String)
    (snapshot : Option Snapshot) :
    Speaks doId o (afterSnapshot doId pushUrl i alertId snapshot o).2 := by
  unfold afterSnapshot
  split
  · exact speaks_silent (by simp)
  · exact speaks_silent (by simp)
  · rename_i session hsession
    rintro post hpost
    simp only [List.mem_cons, List.not_mem_nil, or_false, reduceCtorEq, false_or,
      Event.posted.injEq] at hpost
    subst hpost
    exact ⟨rfl, session, hsession, rfl, rfl⟩

theorem speaks_afterRegistration (i : ℕ) (alertId : String) (ok : Bool) :
    Speaks doId o (afterRegistration doId i alertId ok o).2 := by
  unfold afterRegistration
  dsimp only
  split <;> exact speaks_silent (by simp)

theorem speaks_handlePush (envelope : Option PushEnvelope) :
    Speaks doId o (handlePush doId envelope o).2 := by
  unfold handlePush
  split
  · exact speaks_silent (by simp)
  · split
    · exact speaks_silent (by simp)
    · split <;> exact speaks_silent (by simp)

theorem speaks_webSocketClose (now : ℕ) : Speaks doId o (webSocketClose now doId o).2 := by
  unfold webSocketClose
  rintro post hpost
  simp only [List.mem_cons, reduceCtorEq, false_or] at hpost
  split at hpost
  · rename_i session hsession
    obtain rfl := Event.posted.inj (List.mem_singleton.mp hpost)
    exact ⟨rfl, session, hsession, rfl⟩
  · cases hpost

theorem speaks_fireCancel (alertId : String) : Speaks doId o (fireCancel doId alertId o).2 := by
  unfold fireCancel
  split
  · exact speaks_silent (by simp)
  · rename_i session hsession
    rintro post hpost
    obtain rfl := Event.posted.inj (List.mem_singleton.mp hpost)
    exact ⟨rfl, session, hsession, rfl, rfl⟩

end AnalystSession

theorem Turn.speaks {p : Platform} {s : Sessions} {l : Step} {d : String} {handler : Handler}
    (ht : Turn p s l d handler) : Speaks d (s.objects d) (handler (s.objects d)).2 := by
  cases ht with
  | accept hi => exact AnalystSession.speaks_silent (by simp [AnalystSession.accept])
  | message => exact AnalystSession.speaks_webSocketMessage _
  | snapshot => exact AnalystSession.speaks_afterSnapshot _ _ _ _
  | registered => exact AnalystSession.speaks_afterRegistration _ _ _
  | push => exact AnalystSession.speaks_handlePush _
  | close => exact AnalystSession.speaks_webSocketClose _
  | timer => exact AnalystSession.speaks_fireCancel _

theorem inv_of_reachable {p : Platform} {s : Sessions} (h : (sessionSystem p).Reachable s) :
    Inv p s := by
  refine h.invariant (P := Inv p) ?_ fun s l s' hi _ hstep => hi.step hstep
  rintro s rfl
  exact Inv.start p

/-- **A post names the session of its object**, the one that the ticket of the object was
issued to. -/
theorem posted_identity {p : Platform} {s : Sessions} (h : (sessionSystem p).Reachable s)
    {post : Post} (hpost : .posted post ∈ s.log) :
    ∃ ticket session, .accepted post.doId ticket session ∈ s.log ∧
      (ticket, session) ∈ s.issued ∧ post.Names session := by
  suffices hinv : Inv p s ∧ ∀ post, .posted post ∈ s.log →
      ∃ ticket session, .accepted post.doId ticket session ∈ s.log ∧ post.Names session by
    obtain ⟨ticket, session, haccepted, hnames⟩ := hinv.2 post hpost
    exact ⟨ticket, session, haccepted, (hinv.1.accepted _ _ _ haccepted).2, hnames⟩
  refine h.invariant (P := fun s => Inv p s ∧ ∀ post, .posted post ∈ s.log →
    ∃ ticket session, .accepted post.doId ticket session ∈ s.log ∧ post.Names session) ?_ ?_
  · rintro s rfl
    exact ⟨Inv.start p, fun _ hpost => by cases hpost⟩
  · rintro s l s' ⟨hs, hposts⟩ - hstep
    refine ⟨hs.step hstep, ?_⟩
    intro post hpost
    have hold : .posted post ∈ s.log → ∃ ticket session,
        .accepted post.doId ticket session ∈ s'.log ∧ post.Names session := by
      intro hin
      obtain ⟨ticket, session, haccepted, hnames⟩ := hposts post hin
      obtain ⟨es, hes⟩ := step_log hstep
      exact ⟨ticket, session, hes ▸ List.mem_append_left _ haccepted, hnames⟩
    rcases step_turn hstep with ⟨d, handler, hturn, -, hlog⟩ | ⟨hlog, -⟩
    · rcases List.mem_append.mp (show _ ∈ s.log ++ _ from hlog ▸ hpost) with hin | hnew
      · exact hold hin
      · obtain ⟨rfl, session, hsession, hnames⟩ := hturn.speaks post hnew
        obtain ⟨ticket, haccepted⟩ := hs.session _ session hsession
        refine ⟨ticket, session, ?_, hnames⟩
        rw [hlog]
        exact List.mem_append_left _ haccepted
    · exact hold (hlog ▸ hpost)

end AlertTriage.Gateway
