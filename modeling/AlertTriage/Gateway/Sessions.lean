import AlertTriage.Gateway.AnalystSession
import AlertTriage.Library.Transition
import AlertTriage.Library.UrlPath

/-!
# Sessions over all durable objects

The entry worker routes an upgrade by its ticket to one object, the object has
the ticket redeemed by the BFF, and the BFF takes it out of Redis in one command.
Any number of upgrades, of one ticket or of several, are under way at a time;
the redemption and the arrival of its answer are steps of their own, and either
may be the last that happens to a request.
-/

namespace AlertTriage.Gateway

open Library

/-- What the platform gives: the object of a name, one for each name. -/
structure Platform where
  idFromName : String → String
  idFromName_injective : Function.Injective idFromName
  publicUrl : String
  wsTicketTtlSeconds : ℕ

/-- ``env.ANALYST_SESSION.idFromName(`ticket:${ticket}`)``. -/
def Platform.doId (p : Platform) (ticket : String) : String :=
  p.idFromName ("ticket:" ++ ticket)

/-- The public URL without the slashes at its end, and `/push`. -/
def Platform.pushUrl (p : Platform) : String :=
  String.ofList (p.publicUrl.toList.reverse.dropWhile (· == '/')).reverse ++ "/push"

def wsTicketKey (ticket : String) : String := "wsticket:" ++ ticket

/-! ## §1  Tickets -/

/-- `consumeWsTicket`: `GETDEL`. -/
def consumeWsTicket (now : ℕ) (ticket : String)
    (tickets : TtlStore TicketRedemption) :
    Option TicketRedemption × TtlStore TicketRedemption :=
  (tickets.get now (wsTicketKey ticket), tickets.remove (wsTicketKey ticket))

/-- `POST /api/ws/redeem`: the session of a ticket, nothing for a refusal. -/
def redeem (now : ℕ) (admitted : Bool) (ticket : String)
    (tickets : TtlStore TicketRedemption) :
    Option TicketRedemption × TtlStore TicketRedemption :=
  let length := (Url.utf16 ticket.toList).length
  if admitted = true ∧ 8 ≤ length ∧ length ≤ 256 then consumeWsTicket now ticket tickets
  else (none, tickets)

theorem wsTicketKey_inj {a b : String} : wsTicketKey a = wsTicketKey b ↔ a = b :=
  String.append_right_inj _

/-- **A redemption** takes the ticket out, or changes nothing and gives no
session. -/
theorem redeem_cases (now : ℕ) (admitted : Bool) (ticket : String)
    (tickets : TtlStore TicketRedemption) :
    redeem now admitted ticket tickets = (none, tickets) ∨
      (redeem now admitted ticket tickets).2 = tickets.remove (wsTicketKey ticket) ∧
        ∀ session, (redeem now admitted ticket tickets).1 = some session →
          ∃ e, tickets.lookup (wsTicketKey ticket) = some e ∧ e.value = session := by
  unfold redeem
  dsimp only
  split
  · refine .inr ⟨rfl, ?_⟩
    intro session h
    unfold consumeWsTicket TtlStore.get at h
    split at h
    · rename_i e he
      dsimp only at h
      split at h
      · exact ⟨e, he, Option.some.inj h⟩
      · cases h
    · cases h
  · exact .inl rfl

/-! ## §2  Steps -/

/-- Where the redemption of an upgrade stands. `abandoned`: the request is out,
and nobody waits for it any more. -/
inductive Redemption where
  | requested
  | answered (session : Option TicketRedemption)
  | abandoned
  | over
deriving DecidableEq, Repr

def Redemption.dropped : Redemption → Redemption
  | .requested => .abandoned
  | .answered _ => .over
  | r => r

theorem Redemption.dropped_ne (r : Redemption) (session : Option TicketRedemption) :
    r.dropped ≠ .answered session := by
  cases r <;> simp [Redemption.dropped]

structure Upgrade where
  doId : String
  ticket : String
  redemption : Redemption
deriving DecidableEq, Repr

structure Sessions where
  clock : ℕ
  tickets : TtlStore TicketRedemption
  /-- Every ticket ever issued, with the session it was issued to. -/
  issued : List (String × TicketRedemption)
  upgrades : List Upgrade
  objects : String → AnalystSession
  log : List Event

def Sessions.start : Sessions :=
  ⟨0, ∅, [], [], fun _ => AnalystSession.fresh 0, []⟩

/-- Run a handler of one object. -/
def Sessions.handle (s : Sessions) (doId : String) (h : Handler) : Sessions :=
  { s with
    objects := Function.update s.objects doId (h (s.objects doId)).1
    log := s.log ++ (h (s.objects doId)).2 }

inductive Step where
  | issueWsTicket (ticket : String) (session : TicketRedemption)
  | upgrade (ticket : String)
  | redeem (i : ℕ) (admitted : Bool)
  | answer (i : ℕ) (arrived : Bool)
  | message (doId : String) (msg : Option ClientMessage)
  | snapshot (doId : String) (i : ℕ) (result : Option Snapshot)
  | registered (doId : String) (i : ℕ) (ok : Bool)
  | push (doId : String) (envelope : Option PushEnvelope)
  | close (doId : String)
  | timer (doId alertId : String)
  | evict (doId : String) (hibernated : Bool)
  | pass (d : ℕ)
deriving DecidableEq, Repr

def Sessions.step (p : Platform) (s : Sessions) : Step → Option Sessions
  | .issueWsTicket ticket session =>
      -- tickets are unique
      if ticket ∈ s.issued.map Prod.fst then none
      else some { s with
        tickets := s.tickets.setEx s.clock (wsTicketKey ticket) session
          (p.wsTicketTtlSeconds * second)
        issued := s.issued ++ [(ticket, session)] }
  | .upgrade ticket =>
      -- without a ticket the worker answers itself
      if ticket = "" then some s
      else some { s with
        upgrades := s.upgrades ++ [⟨p.doId ticket, ticket, .requested⟩] }
  | .redeem i admitted =>
      match s.upgrades[i]? with
      | some ⟨doId, ticket, .requested⟩ =>
          let r := redeem s.clock admitted ticket s.tickets
          some { s with
            tickets := r.2
            upgrades := s.upgrades.set i ⟨doId, ticket, .answered r.1⟩ }
      | some ⟨doId, ticket, .abandoned⟩ =>
          let r := redeem s.clock admitted ticket s.tickets
          some { s with
            tickets := r.2
            upgrades := s.upgrades.set i ⟨doId, ticket, .over⟩ }
      | _ => none
  | .answer i arrived =>
      match s.upgrades[i]? with
      | some ⟨doId, ticket, redemption⟩ =>
          let s' := { s with
            upgrades := s.upgrades.set i ⟨doId, ticket, redemption.dropped⟩ }
          match arrived, redemption with
          | true, .answered (some session) =>
              some (s'.handle doId (AnalystSession.accept doId ticket session))
          | _, _ => some s'
      | none => none
  | .message doId msg =>
      if (s.objects doId).sockets = 0 then none
      else some (s.handle doId (AnalystSession.webSocketMessage doId msg))
  | .snapshot doId i result =>
      match (s.objects doId).watches[i]? with
      | some (alertId, .snapshot) =>
          some (s.handle doId (AnalystSession.afterSnapshot doId p.pushUrl i alertId result))
      | _ => none
  | .registered doId i ok =>
      match (s.objects doId).watches[i]? with
      | some (alertId, .registration) =>
          some (s.handle doId (AnalystSession.afterRegistration doId i alertId ok))
      | _ => none
  | .push doId envelope =>
      some (s.handle doId fun o => (o, (o.handlePush doId envelope).2))
  | .close doId =>
      if (s.objects doId).sockets = 0 then none
      else some (s.handle doId (AnalystSession.webSocketClose s.clock doId))
  | .timer doId alertId =>
      match (s.objects doId).pendingCancels.find? fun p => p.1 = alertId with
      | some (_, due) =>
          if due ≤ s.clock then
            some (s.handle doId (AnalystSession.fireCancel doId alertId))
          else none
      | none => none
  | .evict doId hibernated =>
      some { s with
        objects := Function.update s.objects doId (AnalystSession.fresh
          (if hibernated then (s.objects doId).sockets else 0))
        upgrades := s.upgrades.map fun u =>
          if u.doId = doId then { u with redemption := u.redemption.dropped } else u }
  | .pass d => some { s with clock := s.clock + d }

def sessionSystem (p : Platform) : System Sessions Step where
  start := (· = Sessions.start)
  step := Sessions.step p

/-! ## §3  What a step does at the objects -/

/-- The handler that a step runs at an object, and what holds when it does. -/
inductive Turn (p : Platform) (s : Sessions) : Step → String → Handler → Prop where
  | accept {i : ℕ} {doId ticket : String} {session : TicketRedemption} :
      s.upgrades[i]? = some ⟨doId, ticket, .answered (some session)⟩ →
      Turn p s (.answer i true) doId (AnalystSession.accept doId ticket session)
  | message {doId : String} {msg : Option ClientMessage} :
      (s.objects doId).sockets ≠ 0 →
      Turn p s (.message doId msg) doId (AnalystSession.webSocketMessage doId msg)
  | snapshot {doId alertId : String} {i : ℕ} {result : Option Snapshot} :
      (s.objects doId).watches[i]? = some (alertId, .snapshot) →
      Turn p s (.snapshot doId i result) doId
        (AnalystSession.afterSnapshot doId p.pushUrl i alertId result)
  | registered {doId alertId : String} {i : ℕ} {ok : Bool} :
      (s.objects doId).watches[i]? = some (alertId, .registration) →
      Turn p s (.registered doId i ok) doId
        (AnalystSession.afterRegistration doId i alertId ok)
  | push {doId : String} {envelope : Option PushEnvelope} :
      Turn p s (.push doId envelope) doId fun o => (o, (o.handlePush doId envelope).2)
  | close {doId : String} :
      (s.objects doId).sockets ≠ 0 →
      Turn p s (.close doId) doId (AnalystSession.webSocketClose s.clock doId)
  | timer {doId alertId : String} {pending : String × ℕ} :
      (s.objects doId).pendingCancels.find? (fun p => p.1 = alertId) = some pending →
      pending.2 ≤ s.clock →
      Turn p s (.timer doId alertId) doId (AnalystSession.fireCancel doId alertId)

/-- **A step** runs one handler at one object, or none at all; then the log is as
before and no object but an evicted one changes. -/
theorem step_turn {p : Platform} {s s' : Sessions} {l : Step}
    (h : s.step p l = some s') :
    (∃ doId handler, Turn p s l doId handler ∧
      s'.objects = (s.handle doId handler).objects ∧
      s'.log = (s.handle doId handler).log) ∨
    s'.log = s.log ∧ ∀ doId, s'.objects doId = s.objects doId ∨
      ∃ hibernated, l = .evict doId hibernated ∧ ∃ sockets,
        s'.objects doId = AnalystSession.fresh sockets := by
  have hsame : s'.log = s.log → s'.objects = s.objects → s'.log = s.log ∧
      ∀ doId, s'.objects doId = s.objects doId ∨
        ∃ hibernated, l = .evict doId hibernated ∧ ∃ sockets,
          s'.objects doId = AnalystSession.fresh sockets :=
    fun hlog hobjects => ⟨hlog, fun _ => .inl (by rw [hobjects])⟩
  cases l with
  | issueWsTicket ticket session =>
      simp only [Sessions.step] at h
      split at h
      · cases h
      · obtain rfl := Option.some.inj h
        exact .inr (hsame rfl rfl)
  | upgrade ticket =>
      simp only [Sessions.step] at h
      split at h <;>
      · obtain rfl := Option.some.inj h
        exact .inr (hsame rfl rfl)
  | redeem i admitted =>
      simp only [Sessions.step] at h
      split at h
      · obtain rfl := Option.some.inj h
        exact .inr (hsame rfl rfl)
      · obtain rfl := Option.some.inj h
        exact .inr (hsame rfl rfl)
      · cases h
  | answer i arrived =>
      simp only [Sessions.step] at h
      split at h
      · rename_i d t r hi
        split at h
        · obtain rfl := Option.some.inj h
          exact .inl ⟨_, _, .accept hi, rfl, rfl⟩
        · obtain rfl := Option.some.inj h
          exact .inr (hsame rfl rfl)
      · cases h
  | message d msg =>
      simp only [Sessions.step] at h
      split at h
      · cases h
      · rename_i hopen
        obtain rfl := Option.some.inj h
        exact .inl ⟨_, _, .message hopen, rfl, rfl⟩
  | snapshot d i result =>
      simp only [Sessions.step] at h
      split at h
      · rename_i hi
        obtain rfl := Option.some.inj h
        exact .inl ⟨_, _, .snapshot hi, rfl, rfl⟩
      · cases h
  | registered d i ok =>
      simp only [Sessions.step] at h
      split at h
      · rename_i hi
        obtain rfl := Option.some.inj h
        exact .inl ⟨_, _, .registered hi, rfl, rfl⟩
      · cases h
  | push d envelope =>
      obtain rfl := Option.some.inj h
      exact .inl ⟨_, _, .push, rfl, rfl⟩
  | close d =>
      simp only [Sessions.step] at h
      split at h
      · cases h
      · rename_i hopen
        obtain rfl := Option.some.inj h
        exact .inl ⟨_, _, .close hopen, rfl, rfl⟩
  | timer d a =>
      simp only [Sessions.step] at h
      split at h
      · rename_i hpending
        split at h
        · rename_i hdue
          obtain rfl := Option.some.inj h
          exact .inl ⟨_, _, .timer hpending hdue, rfl, rfl⟩
        · cases h
      · cases h
  | evict d hibernated =>
      -- the one step that sets an object anew outside of its handlers
      obtain rfl := Option.some.inj h
      refine .inr ⟨rfl, ?_⟩
      intro doId
      by_cases hd : doId = d
      · subst hd
        exact .inr ⟨hibernated, rfl, _, Function.update_self ..⟩
      · exact .inl (Function.update_of_ne hd ..)
  | pass n =>
      obtain rfl := Option.some.inj h
      exact .inr (hsame rfl rfl)

/-- A step only adds to the log. -/
theorem step_log {p : Platform} {s s' : Sessions} {l : Step}
    (h : s.step p l = some s') : ∃ es, s'.log = s.log ++ es := by
  rcases step_turn h with ⟨doId, handler, -, -, hlog⟩ | ⟨hlog, -⟩
  · exact ⟨_, hlog⟩
  · exact ⟨[], by rw [hlog, List.append_nil]⟩

/-- What is in the log stays there. -/
theorem log_run {p : Platform} {s t : Sessions} {as : List Step}
    (h : (sessionSystem p).run s as = some t) {e : Event} (he : e ∈ s.log) :
    e ∈ t.log := by
  refine System.run_keeps (P := fun s => e ∈ s.log) ?_ h he
  intro s l s' hstep hin
  obtain ⟨es, hes⟩ := step_log hstep
  rw [hes]
  exact List.mem_append_left _ hin

end AlertTriage.Gateway
