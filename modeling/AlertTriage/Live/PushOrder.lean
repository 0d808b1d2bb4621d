import AlertTriage.Live.SnapshotGap

/-!
# The order of pushes

A loop takes its messages in publication order and pushes one to the end before
it takes the next, so what one loop pushes to an object is handed over in
publication order (`ordered_by_loop`). A push is attempted three times at most,
and again only when an attempt has failed: a message is handed over twice where
the object had handed it over and the loop was told otherwise. Between the loops
of several processes, and between the events and the cancels of one, nothing
keeps an order.
-/

namespace AlertTriage.Live

open Library Bff Gateway

/-! ## §1  The attempts of a push -/

def isFetch : Call → Bool
  | .fetch .. => true
  | _ => false

/-- The calls of `refreshTtl`. -/
def isRefresh : Call → Bool
  | .dateNow => true
  | .exec (.refreshTtl ..) => true
  | _ => false

/-- The reply of an object that has handed the message over. -/
def IsAccepted : (c : Call) → c.Reply → Prop
  | .fetch .., (status : ℕ) => status = 204
  | _, _ => False

/-- Unless a refresh fails, there is no further attempt. -/
def Settles : Bff.Task Unit → Prop
  | .pure _ => True
  | .raise => True
  | .call c next => isRefresh c = true ∧ ∀ r, Settles (next (some r))

/-- At most so many requests are still to come, and an accepted one settles the
push. -/
def Attempts : Bff.Task Unit → ℕ → Prop
  | .pure _, _ => True
  | .raise, _ => True
  | .call c next, n =>
      if isFetch c = true then
        ∃ m, n = m + 1 ∧ (∀ r, Attempts (next r) m) ∧
          ∀ r, IsAccepted c r → Settles (next (some r))
      else ∀ r, Attempts (next r) n

/-- A program that sends no request. -/
def Silent {α : Type} : Bff.Task α → Prop
  | .pure _ => True
  | .raise => True
  | .call c next => isFetch c = false ∧ ∀ r, Silent (next r)

theorem Silent.await {c : Call} (h : isFetch c = false) :
    Silent (Async.await c : Bff.Task c.Reply) := by
  refine ⟨h, ?_⟩
  intro r
  cases r <;> trivial

theorem Silent.bind {α β : Type} {x : Bff.Task α} {f : α → Bff.Task β} (hx : Silent x)
    (hf : ∀ a, Silent (f a)) : Silent (x >>= f) := by
  induction x with
  | pure a => exact hf a
  | raise => trivial
  | call c next ih => exact ⟨hx.1, fun r => ih r (hx.2 r)⟩

/-- What comes behind a silent program may have all the attempts. -/
theorem Silent.attempts {α : Type} {x : Bff.Task α} {f : Option α → Bff.Task Unit}
    (hx : Silent x) {n : ℕ} (hf : ∀ a, Attempts (f a) n) :
    Attempts (x.attempt >>= f) n := by
  induction x with
  | pure a => exact hf (some a)
  | raise => exact hf none
  | call c next ih =>
      show if isFetch c = true then _ else ∀ r, Attempts ((next r).attempt >>= f) n
      rw [if_neg (by rw [hx.1]; exact Bool.false_ne_true)]
      exact fun r => ih r (hx.2 r)

theorem silent_refreshTtl (d a t : String) (ttl : Option ℕ) :
    Silent (Bff.refreshTtl d a t ttl) :=
  (Silent.await rfl).bind fun _ => Silent.await rfl

theorem silent_getMeta (d : String) : Silent (getMeta d) :=
  (Silent.await (c := .hgetall (k.meta d)) rfl).bind fun _ => trivial

theorem silent_pruneDoEverywhere (d : String) : Silent (pruneDoEverywhere d) := by
  refine (silent_getMeta d).bind fun info => ?_
  cases info with
  | none => trivial
  | some info => exact (Silent.await rfl).bind fun _ => Silent.await rfl

/-- What the body of the `try` does with a status. -/
def onStatus (p : Push) (status : ℕ) : Bff.Task Bool :=
  if status = 204 then do
    match p.alertId with
    | some alertId => refreshTtl p.watcher.do_id alertId p.tenantId none
    | none => pure ()
    pure true
  else if status = 410 ∨ status = 404 then do
    pruneDoEverywhere p.watcher.do_id
    pure true
  else pure (decide (400 ≤ status ∧ status < 500))

theorem silent_onStatus (p : Push) (status : ℕ) : Silent (onStatus p status) := by
  unfold onStatus
  split
  · cases p.alertId with
    | none => trivial
    | some alertId => exact (silent_refreshTtl _ _ _ _).bind fun _ => trivial
  · split
    · exact (silent_pruneDoEverywhere _).bind fun _ => trivial
    · trivial

theorem send_eq (p : Push) (token : String) :
    p.send token = .call (.fetch p.url token p.envelope) fun r : Option ℕ =>
      r.elim .raise (onStatus p) := by
  show Async.call _ _ = _
  congr 1
  funext (r : Option ℕ)
  cases r <;> rfl

/-- **A retry loop** sends as many requests as it has attempts left. -/
theorem attempts_retry (p : Push) (token : String) (left attempt : ℕ) :
    Attempts (p.retry token left attempt) left := by
  -- on the attempts that are left
  induction left generalizing attempt with
  | zero => trivial
  | succ left ih =>
      have hrest : ∀ returned : Option Bool, Attempts
          (if returned = some true then pure ()
            else do
              if left ≠ 0 then setTimeout (100 * (attempt + 1)) else pure ()
              p.retry token left (attempt + 1)) left := by
        intro returned
        split
        · trivial
        · split
          · show ∀ r, _
            intro r
            cases r with
            | none => trivial
            | some _ => exact ih (attempt + 1)
          · exact ih (attempt + 1)
      unfold Push.retry
      rw [send_eq]
      refine (if_pos (c := isFetch (.fetch p.url token p.envelope) = true) rfl).mpr ?_
      refine ⟨left, rfl, ?_, ?_⟩
      · intro (r : Option ℕ)
        cases r with
        | none => exact hrest none
        | some status => exact (silent_onStatus p status).attempts hrest
      · rintro (status : ℕ) hstatus
        obtain rfl : status = 204 := hstatus
        show Settles ((onStatus p 204).attempt >>= _)
        unfold onStatus
        cases p.alertId with
        | none => trivial
        | some alertId => exact ⟨rfl, fun _ => ⟨rfl, fun _ => trivial⟩⟩

theorem attempts_pushWithRetry (p : Push) : Attempts (pushWithRetry p) maxAttempts := by
  intro r
  cases r with
  | none => trivial
  | some token => exact attempts_retry p token maxAttempts 0

/-! ## §2  One push for each object -/

/-- The replies of a registry that lists the members of a set once. -/
def ListsOnce : (c : Call) → c.Reply → Prop
  | .smembers _, (ds : List String) => ds.Nodup
  | _, _ => True

def OneEach (ps : List Push) : Prop := (ps.map fun p => p.watcher.do_id).Nodup

theorem listsOnce_answer {r : Registry} (hr : r.store.SetsNodup) (env : Environment)
    (c : Call) : ListsOnce c (answer env c r).1 := by
  cases c with
  | smembers key => exact hr.smembers r.clock key
  | _ => trivial

theorem setsNodup_answer {r : Registry} (hr : r.store.SetsNodup) (env : Environment)
    (c : Call) : (answer env c r).2.store.SetsNodup := by
  cases c with
  | exec block => exact hr.multi r.clock block.commands
  | _ => exact hr

theorem setsNodup_resume {α : Type} {r : Registry} (hr : r.store.SetsNodup)
    (reply : Option Environment) (reached : Bool) (x : Bff.Task α) :
    (resume reply reached x r).2.store.SetsNodup := by
  cases x with
  | pure a => exact hr
  | raise => exact hr
  | call c next =>
      cases reply with
      | some env => exact setsNodup_answer hr env c
      | none =>
          cases reached with
          | true => exact setsNodup_answer hr _ c
          | false => exact hr

theorem getMetas_under (ds : List String) :
    (getMetas ds).Under ListsOnce
      (fun infos => ((infos.filterMap id).map WatcherMeta.do_id).Sublist ds) := by
  have hmeta : ∀ d, (getMeta d).Under ListsOnce
      (fun info => ∀ w, info = some w → w.do_id = d) := by
    intro d
    refine (Async.under_true _).bind fun fields _ => Async.Under.pure ?_
    intro w hw
    unfold WatcherMeta.ofHash at hw
    split at hw
    · cases hw
    · rw [← Option.some.inj hw]
  induction ds with
  | nil => exact List.Sublist.refl _
  | cons d ds ih =>
      refine (hmeta d).bind fun info hinfo => ?_
      refine ih.bind fun infos hinfos => Async.Under.pure ?_
      cases info with
      | none => exact hinfos.trans (List.sublist_cons_self d ds)
      | some w =>
          have hw : w.do_id = d := hinfo w rfl
          simp only [List.filterMap_cons, id, List.map_cons, hw]
          exact hinfos.cons_cons d

theorem watchersForAlert_under (t a : String) :
    (watchersForAlert t a).Under ListsOnce
      (fun ws => (ws.map WatcherMeta.do_id).Nodup) := by
  refine (Async.Under.await (Q := fun ds : List String => ds.Nodup) fun ds hds => hds).bind ?_
  intro ds hds
  split
  · exact Async.Under.pure List.nodup_nil
  · refine (getMetas_under ds).bind fun infos hinfos => ?_
    exact Async.Under.pure (hds.sublist hinfos)

/-- A handler pushes once to each object. -/
theorem onTriageEvent_under (numText : Json → String) (subject : String) (body : Json)
    (shape : Shape) : (onTriageEvent numText subject body shape).Under ListsOnce OneEach := by
  unfold onTriageEvent
  refine (Async.under_true _).bind fun tenantId _ => ?_
  refine (Async.under_true _).bind fun alertId _ => ?_
  dsimp only
  split
  · refine (Async.under_true _).bind fun tenantText _ => ?_
    refine (Async.under_true _).bind fun alertText _ => ?_
    refine (watchersForAlert_under tenantText alertText).bind fun ws hws => ?_
    apply Async.Under.pure
    show ((ws.map _).map _).Nodup
    rw [List.map_map]
    exact hws
  · exact Async.Under.pure List.nodup_nil

theorem program_under (D : Deployment) (δ : Delivery) :
    (δ.program D).Under ListsOnce OneEach := by
  have hattempt : ∀ x : Bff.Task (List Push), x.Under ListsOnce OneEach →
      (x.attempt >>= fun pushes => pure (pushes.getD [])).Under ListsOnce OneEach := by
    intro x hx
    refine hx.attempt.bind fun ps hps => Async.Under.pure ?_
    cases ps with
    | none => exact List.nodup_nil
    | some ps => exact hps ps rfl
  unfold Delivery.program
  cases δ.message with
  | phase e => exact hattempt _ (onTriageEvent_under _ _ _ _)
  | cancel => exact hattempt _ (onTriageEvent_under _ _ _ _)

/-! ## §3  The budget of a push -/

/-- A push that its object has handed over `c` times, `l` times in vain, has
attempts left for the rest and is not repeated without reason. -/
structure Budget (x : Bff.Task Unit) (c l : ℕ) : Prop where
  attempts : ∃ n, Attempts x n ∧ c + n ≤ maxAttempts
  again : c ≤ l ∨ c ≤ l + 1 ∧ Settles x

theorem Budget.begin (p : Push) : Budget (pushWithRetry p) 0 0 where
  attempts := ⟨maxAttempts, attempts_pushWithRetry p, by simp⟩
  again := .inl (Nat.le_refl 0)

/-- One more, where the flag is set. -/
def tick (b : Bool) : ℕ := if b then 1 else 0

@[simp] theorem tick_true : tick true = 1 := rfl

@[simp] theorem tick_false : tick false = 0 := rfl

theorem count_append_mark (l : List Handed) (b : Bool) (m h : Handed) :
    (l ++ if b then [m] else []).count h = l.count h + if h = m then tick b else 0 := by
  rw [List.count_append]
  cases b with
  | false => simp [tick]
  | true =>
      by_cases hm : h = m
      · subst hm
        simp [tick]
      · simp [hm, Ne.symm hm]

/-- What a call is told, as its program sees it. -/
theorem resume_call {α : Type} {c : Call} (next : Option c.Reply → Bff.Task α)
    (reply : Option Environment) (reached : Bool) (r : Registry) :
    ∃ told, (resume reply reached (.call c next) r).1 = next told ∧
      (reply = none → told = none) ∧
      ∀ env, reply = some env → told = some (answer env c r).1 := by
  cases reply with
  | none => exact ⟨none, rfl, fun _ => rfl, fun _ h => by cases h⟩
  | some env =>
      refine ⟨_, rfl, fun h => (by cases h), ?_⟩
      rintro env ⟨⟩
      rfl

theorem arriving_silent {call : Call} {next : Option call.Reply → Bff.Task Unit}
    (h : isFetch call = false) (reached : Bool) :
    arriving (.call call next) reached = none := by
  cases call with
  | fetch => cases h
  | _ => rfl

theorem failsHanded_silent {call : Call} {next : Option call.Reply → Bff.Task Unit}
    (h : isFetch call = false) (accepted : Bool) (reply : Option Environment) :
    failsHanded (.call call next) accepted reply = (isRefresh call && reply.isNone) := by
  cases call with
  | fetch => cases h
  | exec block =>
      cases block with
      | refreshTtl => exact (Bool.true_and _).symm
      | _ => rfl
  | dateNow => exact (Bool.true_and _).symm
  | _ => rfl

/-- **One call of a push** keeps within its budget. -/
theorem Budget.advance {x : Bff.Task Unit} {c l : ℕ} (h : Budget x c l)
    {reply : Option Environment} {reached accepted : Bool} {r : Registry}
    (haccepted : accepted = true → (arriving x reached).isSome = true) :
    Budget (resume reply reached x r).1 (c + tick accepted)
      (l + tick (failsHanded x accepted reply)) := by
  obtain ⟨n, hn, hle⟩ := h.attempts
  cases x with
  | pure a =>
      cases accepted with
      | true => cases haccepted rfl
      | false => exact h
  | raise =>
      cases accepted with
      | true => cases haccepted rfl
      | false => exact h
  | call call next =>
      obtain ⟨told, hnext, hnone, hsome⟩ := resume_call next reply reached r
      rw [hnext]
      cases hfetch : isFetch call with
      | true =>
          cases call with
          | fetch url token body =>
              obtain ⟨m, rfl, hrest, hsettle⟩ :=
                (if_pos (c := isFetch (.fetch url token body) = true) rfl).mp hn
              have hcl : c ≤ l := by
                rcases h.again with hcl | ⟨-, hrefresh, -⟩
                · exact hcl
                · cases hrefresh
              cases accepted with
              | false =>
                  exact ⟨⟨m, hrest told, by rw [tick_false]; omega⟩,
                    .inl (Nat.le_trans hcl (Nat.le_add_right _ _))⟩
              | true =>
                  refine ⟨⟨m, hrest told, by rw [tick_true]; omega⟩, ?_⟩
                  cases hlost : failsHanded (.call (.fetch url token body) next) true reply with
                  | true => exact .inl (Nat.succ_le_succ hcl)
                  | false =>
                      -- the answer was a 204, and what is left is the refresh
                      refine .inr ⟨Nat.succ_le_succ hcl, ?_⟩
                      have hstatus : reply.map Environment.status = some 204 := by
                        simpa [failsHanded, Async.awaited] using hlost
                      obtain ⟨env, rfl, henv⟩ := Option.map_eq_some_iff.mp hstatus
                      rw [hsome env rfl]
                      exact hsettle _ henv
          | _ => cases hfetch
      | false =>
          have hno : accepted = false := by
            cases accepted with
            | false => rfl
            | true =>
                have harriving := haccepted rfl
                rw [arriving_silent hfetch] at harriving
                cases harriving
          subst hno
          have hrest : ∀ r, Attempts (next r) n :=
            (if_neg (by rw [hfetch]; exact Bool.false_ne_true)).mp hn
          refine ⟨⟨n, hrest told, hle⟩, ?_⟩
          rw [failsHanded_silent hfetch]
          rcases h.again with hcl | ⟨hcl, hrefresh, hsettle⟩
          · exact .inl (Nat.le_trans hcl (Nat.le_add_right _ _))
          · rw [hrefresh]
            cases reply with
            | none => exact .inl hcl
            | some env =>
                refine .inr ⟨hcl, ?_⟩
                rw [hsome env rfl]
                exact hsettle _

/-! ## §4  Where the messages are -/

def Handed.loop (h : Handed) : LoopId := h.delivery.loop

def Handed.index (h : Handed) : ℕ := h.delivery.index

/-- The indices that the object was handed by the loop. -/
def Feed.handedBy (s : Feed) (d : String) (id : LoopId) : List ℕ :=
  (s.handed.filter fun h => h.doId = d ∧ h.loop = id).map Handed.index

/-- What the loop has handed over is behind what it has in hand, and that is
behind what waits. -/
structure LoopPlaced (s : Feed) (id : LoopId) (loop : Loop) : Prop where
  sorted : (loop.queue.map Delivery.index).Pairwise (· < ·)
  queued : ∀ δ ∈ loop.queue, δ.loop = id ∧ δ.index < s.published
  current : ∀ δ work, loop.current = some (δ, work) → δ.loop = id ∧
    δ.index < s.published ∧ ∀ q ∈ loop.queue, δ.index < q.index
  behind : ∀ h ∈ s.handed, h.loop = id → ∀ q ∈ loop.queue, h.index < q.index
  inHand : ∀ h ∈ s.handed, h.loop = id → ∀ δ work, loop.current = some (δ, work) →
    h.index < δ.index ∨ h.index = δ.index ∧ ∃ ps, work = .pushes ps

structure Placed (s : Feed) : Prop where
  loops : ∀ id, LoopPlaced s id (s.loops id)
  handed : ∀ h ∈ s.handed, h.index < s.published
  order : ∀ d id, (s.handedBy d id).Pairwise (· ≤ ·)

theorem placed_start : Placed Feed.start where
  loops := fun _ =>
    { sorted := List.Pairwise.nil
      queued := fun _ h => by cases h
      current := fun _ _ h => by cases h
      behind := fun _ h => by cases h
      inHand := fun _ h => by cases h }
  handed := fun _ h => by cases h
  order := fun _ _ => List.Pairwise.nil

theorem Placed.frame {s s' : Feed} (hs : Placed s) (hloops : s'.loops = s.loops)
    (hpublished : s'.published = s.published) (hhanded : s'.handed = s.handed) :
    Placed s' where
  loops := by
    intro id
    have h := hs.loops id
    exact
      { sorted := by
          rw [hloops]
          exact h.sorted
        queued := by
          rw [hloops, hpublished]
          exact h.queued
        current := by
          rw [hloops, hpublished]
          exact h.current
        behind := by
          rw [hloops, hhanded]
          exact h.behind
        inHand := by
          rw [hloops, hhanded]
          exact h.inHand }
  handed := by
    rw [hhanded, hpublished]
    exact hs.handed
  order := by
    unfold Feed.handedBy
    rw [hhanded]
    exact hs.order

@[simp] theorem loops_setLoop_self (s : Feed) (id : LoopId) (loop : Loop) :
    (s.setLoop id loop).loops id = loop :=
  Function.update_self ..

theorem loops_setLoop (s : Feed) (id : LoopId) (loop : Loop) (id' : LoopId) :
    id' = id ∧ (s.setLoop id loop).loops id' = loop ∨
      id' ≠ id ∧ (s.setLoop id loop).loops id' = s.loops id' := by
  by_cases h : id' = id
  · subst h
    exact .inl ⟨rfl, loops_setLoop_self s id' loop⟩
  · exact .inr ⟨h, Function.update_of_ne h ..⟩

theorem Placed.setLoop {s : Feed} (hs : Placed s) (id : LoopId) (loop : Loop)
    (h : LoopPlaced s id loop) : Placed (s.setLoop id loop) := by
  refine { hs with loops := ?_ }
  intro id'
  rcases loops_setLoop s id loop id' with ⟨rfl, hid⟩ | ⟨-, hid⟩
  · rw [hid]
    exact { h with }
  · rw [hid]
    exact { hs.loops id' with }

/-- A message is published last. -/
theorem Placed.dispatch {s : Feed} (hs : Placed s) (process : ℕ) (m : Message) :
    Placed (s.dispatch process m) := by
  let δ : Delivery := ⟨s.published, process, m⟩
  -- the new delivery has the highest index so far
  have hmono : ∀ id loop, LoopPlaced s id loop →
      LoopPlaced (s.dispatch process m) id loop := by
    intro id loop h
    refine { h with queued := ?_, current := ?_ }
    · intro q hq
      exact ⟨(h.queued q hq).1, Nat.lt_succ_of_lt (h.queued q hq).2⟩
    · intro q work hq
      obtain ⟨hid, hlt, hqueue⟩ := h.current q work hq
      exact ⟨hid, Nat.lt_succ_of_lt hlt, hqueue⟩
  refine { hs with loops := ?_, handed := ?_ }
  · intro id
    rcases loops_setLoop s δ.loop { s.loops δ.loop with
        queue := (s.loops δ.loop).queue ++ [δ] } id with ⟨rfl, hid⟩ | ⟨-, hid⟩
    · have h := hs.loops δ.loop
      show LoopPlaced _ _ ((s.setLoop δ.loop _).loops δ.loop)
      rw [hid]
      exact
        { sorted := by
            rw [List.map_append, List.pairwise_append]
            refine ⟨h.sorted, List.pairwise_singleton _ _, ?_⟩
            intro i hi j hj
            obtain ⟨q, hq, rfl⟩ := List.mem_map.mp hi
            obtain rfl := List.mem_singleton.mp hj
            exact (h.queued q hq).2
          queued := by
            intro q hq
            rcases List.mem_append.mp hq with hq | hq
            · exact ⟨(h.queued q hq).1, Nat.lt_succ_of_lt (h.queued q hq).2⟩
            · obtain rfl := List.mem_singleton.mp hq
              exact ⟨rfl, Nat.lt_succ_self _⟩
          current := by
            intro q work hq
            obtain ⟨hloop, hlt, hqueue⟩ := h.current q work hq
            refine ⟨hloop, Nat.lt_succ_of_lt hlt, ?_⟩
            intro q' hq'
            rcases List.mem_append.mp hq' with hq' | hq'
            · exact hqueue q' hq'
            · obtain rfl := List.mem_singleton.mp hq'
              exact hlt
          behind := by
            intro x hx hloop q hq
            rcases List.mem_append.mp hq with hq | hq
            · exact h.behind x hx hloop q hq
            · obtain rfl := List.mem_singleton.mp hq
              exact hs.handed x hx
          inHand := h.inHand }
    · show LoopPlaced _ _ ((s.setLoop δ.loop _).loops id)
      rw [hid]
      exact hmono id _ (hs.loops id)
  · intro h hh
    exact Nat.lt_succ_of_lt (hs.handed h hh)

section Loop

variable {s : Feed} {id : LoopId} {queue : List Delivery} {δ : Delivery} {work : Work}

/-- The first message of the queue comes to hand. -/
theorem LoopPlaced.take (h : LoopPlaced s id ⟨δ :: queue, none⟩) :
    LoopPlaced s id ⟨queue, some (δ, .begun)⟩ where
  sorted := (List.pairwise_cons.mp h.sorted).2
  queued := fun q hq => h.queued q (List.mem_cons_of_mem _ hq)
  current := by
    intro q work hq
    obtain ⟨rfl, rfl⟩ := Prod.mk.inj (Option.some.inj hq)
    obtain ⟨hloop, hlt⟩ := h.queued δ List.mem_cons_self
    refine ⟨hloop, hlt, ?_⟩
    intro q' hq'
    exact (List.pairwise_cons.mp h.sorted).1 _ (List.mem_map.mpr ⟨q', hq', rfl⟩)
  behind := fun x hx hloop q hq => h.behind x hx hloop q (List.mem_cons_of_mem _ hq)
  inHand := by
    intro x hx hloop q work hq
    obtain ⟨rfl, rfl⟩ := Prod.mk.inj (Option.some.inj hq)
    exact .inl (h.behind x hx hloop δ List.mem_cons_self)

/-- The message in hand goes on before anything of it is pushed, or after. -/
theorem LoopPlaced.goOn {work' : Work} (h : LoopPlaced s id ⟨queue, some (δ, work)⟩)
    (hwork : (∃ ps, work = .pushes ps) → ∃ ps, work' = .pushes ps) :
    LoopPlaced s id ⟨queue, some (δ, work')⟩ where
  sorted := h.sorted
  queued := h.queued
  current := by
    intro q w hq
    obtain ⟨rfl, rfl⟩ := Prod.mk.inj (Option.some.inj hq)
    exact h.current δ work rfl
  behind := h.behind
  inHand := by
    intro x hx hloop q w hq
    obtain ⟨rfl, rfl⟩ := Prod.mk.inj (Option.some.inj hq)
    exact (h.inHand x hx hloop δ work rfl).imp_right fun heq => ⟨heq.1, hwork heq.2⟩

theorem LoopPlaced.finish (h : LoopPlaced s id ⟨queue, some (δ, work)⟩) :
    LoopPlaced s id ⟨queue, none⟩ where
  sorted := h.sorted
  queued := h.queued
  current := fun _ _ hq => by cases hq
  behind := h.behind
  inHand := fun _ _ _ _ _ hq => by cases hq

/-- Before its pushes nothing of the message in hand is handed over. -/
theorem LoopPlaced.count_eq_zero (h : LoopPlaced s id ⟨queue, some (δ, work)⟩)
    (hwork : ¬ ∃ ps, work = .pushes ps) (d : String) : s.handed.count ⟨d, δ⟩ = 0 := by
  apply List.count_eq_zero.mpr
  intro hmem
  rcases h.inHand _ hmem (h.current δ work rfl).1 δ work rfl with hlt | ⟨-, hpushes⟩
  · exact Nat.lt_irrefl _ hlt
  · exact hwork hpushes

/-- A push of the message in hand arrives, or not. -/
theorem Placed.hand {t : Feed} {ps ps' : List (Push × Bff.Task Unit)} (hs : Placed s)
    (hid : s.loops id = ⟨queue, some (δ, .pushes ps)⟩) {d : String} {b : Bool}
    (hloops : t.loops = (s.setLoop id ⟨queue, some (δ, .pushes ps')⟩).loops)
    (hpublished : t.published = s.published)
    (hhanded : t.handed = s.handed ++ if b then [⟨d, δ⟩] else []) : Placed t := by
  have hloop : LoopPlaced s id ⟨queue, some (δ, .pushes ps)⟩ := hid ▸ hs.loops id
  obtain ⟨hδ, hlt, hbefore⟩ := hloop.current δ _ rfl
  -- at most this delivery is handed on anew
  have hmem : ∀ h ∈ t.handed, h ∈ s.handed ∨ h = ⟨d, δ⟩ := by
    intro h hh
    rw [hhanded] at hh
    rcases List.mem_append.mp hh with hh | hh
    · exact .inl hh
    · cases b with
      | true => exact .inr (List.mem_singleton.mp hh)
      | false => cases hh
  have hset : Placed (s.setLoop id ⟨queue, some (δ, .pushes ps')⟩) :=
    hs.setLoop _ _ (hloop.goOn fun _ => ⟨ps', rfl⟩)
  refine { loops := ?_, handed := ?_, order := ?_ }
  · intro id'
    rw [hloops]
    have hold := hset.loops id'
    refine { hold with queued := ?_, current := ?_, behind := ?_, inHand := ?_ }
    · rw [hpublished]
      exact hold.queued
    · rw [hpublished]
      exact hold.current
    · intro h hh hid' q hq
      rcases hmem h hh with hh | rfl
      · exact hold.behind h hh hid' q hq
      · obtain rfl : id = id' := hδ.symm.trans hid'
        apply hbefore q
        rwa [loops_setLoop_self] at hq
    · intro h hh hid' q work hq
      rcases hmem h hh with hh | rfl
      · exact hold.inHand h hh hid' q work hq
      · obtain rfl : id = id' := hδ.symm.trans hid'
        rw [loops_setLoop_self] at hq
        obtain ⟨rfl, rfl⟩ := Prod.mk.inj (Option.some.inj hq)
        exact .inr ⟨rfl, ps', rfl⟩
  · intro h hh
    rw [hpublished]
    rcases hmem h hh with hh | rfl
    · exact hs.handed h hh
    · exact hlt
  · intro d' id'
    unfold Feed.handedBy
    rw [hhanded, List.filter_append, List.map_append, List.pairwise_append]
    refine ⟨hs.order d' id', ?_, ?_⟩
    · cases b with
      | true => exact (List.pairwise_singleton _ δ.index).sublist (List.filter_sublist.map _)
      | false => exact List.Pairwise.nil
    · intro i hi i' hi'
      obtain ⟨h, hh, rfl⟩ := List.mem_map.mp hi
      obtain ⟨h', hh', rfl⟩ := List.mem_map.mp hi'
      obtain ⟨hh, hcond⟩ := List.mem_filter.mp hh
      obtain ⟨hh', hcond'⟩ := List.mem_filter.mp hh'
      cases b with
      | false => cases hh'
      | true =>
          obtain rfl := List.mem_singleton.mp hh'
          have hsame : h.loop = id := by
            have h1 : h.loop = id' := (of_decide_eq_true hcond).2
            have h2 : δ.loop = id' := (of_decide_eq_true hcond').2
            rw [h1, ← h2, hδ]
          -- what the loop handed on before has no later index
          rcases hloop.inHand h hh hsame δ _ rfl with hlt' | ⟨heq, -⟩
          · exact Nat.le_of_lt hlt'
          · exact Nat.le_of_eq heq

end Loop

/-! ## §5  How often a message is handed over -/

/-- The lookup of a loop will push once to each object, and its pushes keep
within their budgets. -/
def WorkCounted (s : Feed) (δ : Delivery) : Work → Prop
  | .begun => True
  | .lookup x => x.Under ListsOnce OneEach
  | .pushes ps => (ps.map fun q => q.1.watcher.do_id).Nodup ∧
      ∀ q ∈ ps, Budget q.2 (s.handed.count ⟨q.1.watcher.do_id, δ⟩)
        (s.lost.count ⟨q.1.watcher.do_id, δ⟩)

structure Counted (s : Feed) : Prop where
  sets : s.registry.store.SetsNodup
  work : ∀ id δ work, (s.loops id).current = some (δ, work) → WorkCounted s δ work
  thrice : ∀ h, s.handed.count h ≤ maxAttempts
  again : ∀ h, s.handed.count h ≤ s.lost.count h + 1

theorem counted_start : Counted Feed.start where
  sets := Keyspace.SetsNodup.empty
  work := fun _ _ _ h => by cases h
  thrice := fun _ => Nat.zero_le _
  again := fun _ => Nat.zero_le _

theorem WorkCounted.congr {s s' : Feed} {δ : Delivery} {work : Work}
    (h : WorkCounted s δ work) (hhanded : s'.handed = s.handed) (hlost : s'.lost = s.lost) :
    WorkCounted s' δ work := by
  cases work with
  | begun => trivial
  | lookup x => exact h
  | pushes ps =>
      unfold WorkCounted
      rw [hhanded, hlost]
      exact h

theorem Counted.frame {s s' : Feed} (hs : Counted s)
    (hloops : ∀ id δ work, (s'.loops id).current = some (δ, work) →
      (s.loops id).current = some (δ, work) ∨ WorkCounted s δ work)
    (hsets : s'.registry.store.SetsNodup) (hhanded : s'.handed = s.handed)
    (hlost : s'.lost = s.lost) : Counted s' where
  sets := hsets
  work := by
    intro id δ work h
    rcases hloops id δ work h with h | h
    · exact (hs.work id δ work h).congr hhanded hlost
    · exact h.congr hhanded hlost
  thrice := by
    rw [hhanded]
    exact hs.thrice
  again := by
    rw [hhanded, hlost]
    exact hs.again

/-- One loop goes on. -/
theorem Counted.setLoop {s s' : Feed} (hs : Counted s) {id : LoopId} {loop : Loop}
    (hwork : ∀ δ work, loop.current = some (δ, work) → WorkCounted s δ work)
    (hloops : s'.loops = (s.setLoop id loop).loops)
    (hsets : s'.registry.store.SetsNodup) (hhanded : s'.handed = s.handed)
    (hlost : s'.lost = s.lost) : Counted s' := by
  refine hs.frame ?_ hsets hhanded hlost
  intro id' δ work h
  rw [hloops] at h
  rcases loops_setLoop s id loop id' with ⟨-, hid⟩ | ⟨-, hid⟩
  · exact .inr (hwork δ work (hid ▸ h))
  · exact .inl (hid ▸ h)

theorem Counted.dispatch {s : Feed} (hs : Counted s) (process : ℕ) (m : Message) :
    Counted (s.dispatch process m) := by
  refine hs.setLoop ?_ rfl hs.sets rfl rfl
  exact fun δ work hwork => hs.work _ δ work hwork

section Loop

variable {s : Feed} {id : LoopId} {queue : List Delivery} {δ : Delivery} {work : Work}

/-- A lookup goes on, or its pushes begin. -/
theorem workCounted_lookup (hs : Counted s)
    (hplaced : LoopPlaced s id ⟨queue, some (δ, work)⟩)
    (hwork : ¬ ∃ ps, work = .pushes ps) {x : Bff.Task (List Push)}
    (hx : x.Under ListsOnce OneEach) (reply : Option Environment) (reached : Bool) :
    WorkCounted s δ (match (resume reply reached x s.registry).1.result with
      | some ps => .pushes (ps.map fun p => (p, pushWithRetry p))
      | none => .lookup (resume reply reached x s.registry).1) := by
  have hnext : (resume reply reached x s.registry).1.Under ListsOnce OneEach :=
    hx.resume (listsOnce_answer hs.sets _) _
  cases hres : (resume reply reached x s.registry).1 with
  | pure ps =>
      rw [hres] at hnext
      refine ⟨?_, ?_⟩
      · rw [List.map_map]
        exact hnext
      · intro q hq
        obtain ⟨p, -, rfl⟩ := List.mem_map.mp hq
        have hzero := hplaced.count_eq_zero hwork p.watcher.do_id
        rw [hzero]
        exact ⟨(Budget.begin p).attempts, .inl (Nat.zero_le _)⟩
  | raise =>
      rw [hres] at hnext
      exact hnext
  | call c next =>
      rw [hres] at hnext
      exact hnext

/-- The objects that a list of pushes goes to do not change. -/
theorem map_set_push {ps : List (Push × Bff.Task Unit)} {j : ℕ} {p : Push}
    {x : Bff.Task Unit} (hj : ps[j]? = some (p, x)) (y : Bff.Task Unit) :
    (ps.set j (p, y)).map (fun q => q.1.watcher.do_id) =
      ps.map fun q => q.1.watcher.do_id := by
  obtain ⟨hlt, hget⟩ := List.getElem?_eq_some_iff.mp hj
  rw [List.map_set]
  apply List.ext_getElem (by simp)
  intro i hi hi'
  rw [List.getElem_set]
  split
  · rename_i hji
    subst hji
    simp [hget]
  · rfl

/-- Of two pushes of one message, each goes to its own object. -/
theorem watcher_ne {ps : List (Push × Bff.Task Unit)} {i j : ℕ} {p : Push}
    {x : Bff.Task Unit} (hnodup : (ps.map fun q => q.1.watcher.do_id).Nodup)
    (hj : ps[j]? = some (p, x)) (hi : i < ps.length) (hij : ¬ j = i) :
    (ps[i]).1.watcher.do_id ≠ p.watcher.do_id := by
  intro heq
  refine hij ((List.getElem?_inj ?_ hnodup).mp ?_)
  · obtain ⟨hlt, -⟩ := List.getElem?_eq_some_iff.mp hj
    rwa [List.length_map]
  · rw [List.getElem?_map, List.getElem?_map, hj, List.getElem?_eq_getElem hi]
    exact congrArg some heq.symm

/-- The pushes of a message, one of which went on by one call. -/
theorem WorkCounted.set_push {t : Feed} {ps : List (Push × Bff.Task Unit)} {j : ℕ} {p : Push}
    {x y : Bff.Task Unit} (h : WorkCounted s δ (.pushes ps)) (hj : ps[j]? = some (p, x))
    (hmark : Budget y (t.handed.count ⟨p.watcher.do_id, δ⟩)
      (t.lost.count ⟨p.watcher.do_id, δ⟩))
    (hother : ∀ h : Handed, h ≠ ⟨p.watcher.do_id, δ⟩ →
      t.handed.count h = s.handed.count h ∧ t.lost.count h = s.lost.count h) :
    WorkCounted t δ (.pushes (ps.set j (p, y))) := by
  obtain ⟨hnodup, hbudgets⟩ := h
  have hnodup' : ((ps.set j (p, y)).map fun q => q.1.watcher.do_id).Nodup := by
    rw [map_set_push hj]
    exact hnodup
  refine ⟨hnodup', ?_⟩
  intro q hq
  obtain ⟨i, hi, rfl⟩ := List.mem_iff_getElem.mp hq
  rw [List.length_set] at hi
  rw [List.getElem_set]
  split
  · exact hmark
  · rename_i hij
    obtain ⟨hsame, hsameLost⟩ := hother ⟨(ps[i]).1.watcher.do_id, δ⟩ fun heq =>
      watcher_ne hnodup hj hi hij (Handed.mk.inj heq).1
    rw [hsame, hsameLost]
    exact hbudgets _ (List.getElem_mem hi)

/-- The work on another message, while one message is handed over. -/
theorem WorkCounted.elsewhere {t : Feed} {δ' : Delivery} {mark : Handed}
    (h : WorkCounted s δ' work) (hne : δ' ≠ mark.delivery)
    (hother : ∀ h : Handed, h ≠ mark →
      t.handed.count h = s.handed.count h ∧ t.lost.count h = s.lost.count h) :
    WorkCounted t δ' work := by
  cases work with
  | begun => trivial
  | lookup y => exact h
  | pushes ps =>
      refine ⟨h.1, ?_⟩
      intro q hq
      obtain ⟨hsame, hsameLost⟩ := hother ⟨q.1.watcher.do_id, δ'⟩ fun heq =>
        hne (congrArg Handed.delivery heq)
      rw [hsame, hsameLost]
      exact h.2 q hq

/-- **A push goes on by one call**: its message is counted with it, and no other. -/
theorem Counted.hand {t : Feed} {ps : List (Push × Bff.Task Unit)} {j : ℕ} {p : Push}
    {x : Bff.Task Unit} (hs : Counted s) (hp : Placed s)
    (hid : s.loops id = ⟨queue, some (δ, .pushes ps)⟩) (hj : ps[j]? = some (p, x))
    {reply : Option Environment} {reached accepted : Bool}
    (haccepted : accepted = true → (arriving x reached).isSome = true)
    (hloops : t.loops = (s.setLoop id ⟨queue, some (δ, .pushes (ps.set j
      (p, (resume reply reached x s.registry).1)))⟩).loops)
    (hsets : t.registry.store.SetsNodup)
    (hhanded : t.handed = s.handed ++ if accepted then [⟨p.watcher.do_id, δ⟩] else [])
    (hlost : t.lost = s.lost ++ if failsHanded x accepted reply then
      [⟨p.watcher.do_id, δ⟩] else []) : Counted t := by
  have hcurrent : (s.loops id).current = some (δ, .pushes ps) := by rw [hid]
  obtain ⟨-, hbudgets⟩ := hs.work id δ _ hcurrent
  have hδ : δ.loop = id := ((hp.loops id).current δ _ hcurrent).1
  have hbudget : Budget (resume reply reached x s.registry).1
      (s.handed.count ⟨p.watcher.do_id, δ⟩ + tick accepted)
      (s.lost.count ⟨p.watcher.do_id, δ⟩ + tick (failsHanded x accepted reply)) :=
    (hbudgets (p, x) (List.mem_of_getElem? hj)).advance haccepted
  have hcount : ∀ h, t.handed.count h =
      s.handed.count h + if h = ⟨p.watcher.do_id, δ⟩ then tick accepted else 0 := by
    intro h
    rw [hhanded, count_append_mark]
  have hcountLost : ∀ h, t.lost.count h = s.lost.count h +
      if h = ⟨p.watcher.do_id, δ⟩ then tick (failsHanded x accepted reply) else 0 := by
    intro h
    rw [hlost, count_append_mark]
  -- what is pushed elsewhere is counted as before
  have hother : ∀ h : Handed, h ≠ ⟨p.watcher.do_id, δ⟩ →
      t.handed.count h = s.handed.count h ∧ t.lost.count h = s.lost.count h := by
    intro h hne
    rw [hcount, hcountLost, if_neg hne, if_neg hne]
    exact ⟨rfl, rfl⟩
  have hmark : Budget (resume reply reached x s.registry).1
      (t.handed.count ⟨p.watcher.do_id, δ⟩) (t.lost.count ⟨p.watcher.do_id, δ⟩) := by
    rw [hcount, hcountLost, if_pos rfl, if_pos rfl]
    exact hbudget
  refine { sets := hsets, work := ?_, thrice := ?_, again := ?_ }
  · intro id' δ' work' hwork'
    rw [hloops] at hwork'
    rcases loops_setLoop s id ⟨queue, some (δ, .pushes (ps.set j
      (p, (resume reply reached x s.registry).1)))⟩ id' with ⟨-, hid'⟩ | ⟨hne, hid'⟩
    · rw [hid'] at hwork'
      obtain ⟨rfl, rfl⟩ := Prod.mk.inj (Option.some.inj hwork')
      exact (hs.work id δ _ hcurrent).set_push hj hmark hother
    · rw [hid'] at hwork'
      -- a message is worked on by the loop it was delivered to
      have hδ' : δ'.loop = id' := ((hp.loops id').current δ' _ hwork').1
      apply (hs.work id' δ' work' hwork').elsewhere ?_ hother
      rintro rfl
      exact hne (hδ'.symm.trans hδ)
  · intro h
    by_cases hm : h = ⟨p.watcher.do_id, δ⟩
    · obtain ⟨n, -, hle⟩ := hmark.attempts
      rw [hm]
      omega
    · rw [(hother h hm).1]
      exact hs.thrice h
  · intro h
    by_cases hm : h = ⟨p.watcher.do_id, δ⟩
    · rw [hm]
      rcases hmark.again with hle | ⟨hle, -⟩
      · omega
      · exact hle
    · rw [(hother h hm).1, (hother h hm).2]
      exact hs.again h

end Loop

/-! ## §6  Every run -/

variable {D : Deployment}

/-- A lookup of either kind goes on by one call of its program. -/
theorem orderly_lookup {s : Feed} {id : LoopId} {queue : List Delivery} {δ : Delivery}
    {work : Work} {x : Bff.Task (List Push)} (hp : Placed s) (hs : Counted s)
    (hid : s.loops id = ⟨queue, some (δ, work)⟩) (hwork : ¬ ∃ ps, work = .pushes ps)
    (hx : x.Under ListsOnce OneEach) (reply : Option Environment) (reached : Bool)
    {t : Feed}
    (hloops : t.loops = (s.setLoop id ⟨queue, some (δ,
      match (resume reply reached x s.registry).1.result with
      | some ps => .pushes (ps.map fun p => (p, pushWithRetry p))
      | none => .lookup (resume reply reached x s.registry).1)⟩).loops)
    (hregistry : t.registry = (resume reply reached x s.registry).2)
    (hpublished : t.published = s.published) (hhanded : t.handed = s.handed)
    (hlost : t.lost = s.lost) : Placed t ∧ Counted t := by
  have hloop : LoopPlaced s id ⟨queue, some (δ, work)⟩ := hid ▸ hp.loops id
  have hsets : t.registry.store.SetsNodup := by
    rw [hregistry]
    exact setsNodup_resume hs.sets reply reached x
  refine ⟨(hp.setLoop id _ (hloop.goOn fun hps => (hwork hps).elim)).frame hloops
    hpublished hhanded, hs.setLoop ?_ hloops hsets hhanded hlost⟩
  intro δ' work' hwork'
  obtain ⟨rfl, rfl⟩ := Prod.mk.inj (Option.some.inj hwork')
  exact workCounted_lookup hs hloop hwork hx reply reached

theorem orderly_move {s s' : Feed} {l : Label} (hp : Placed s) (hs : Counted s)
    (h : s.move D l = some s') : Placed s' ∧ Counted s' := by
  have haside : ∀ t : Feed, t.loops = s.loops → t.published = s.published →
      t.handed = s.handed → t.lost = s.lost → t.registry.store.SetsNodup →
      Placed t ∧ Counted t := by
    intro t hloops hpublished hhanded hlost hsets
    refine ⟨hp.frame hloops hpublished hhanded, hs.frame ?_ hsets hhanded hlost⟩
    intro id δ work hwork
    rw [hloops] at hwork
    exact .inl hwork
  cases l with
  | session step =>
      simp only [Feed.move] at h
      split at h
      · obtain ⟨t, -, rfl⟩ := Option.map_eq_some_iff.mp h
        exact haside _ rfl rfl rfl rfl hs.sets
      · cases h
  | pass d =>
      obtain rfl := Option.some.inj h
      exact haside _ rfl rfl rfl rfl hs.sets
  | nextSeq tenantId alertId phase emittedAt =>
      simp only [Feed.move] at h
      split at h
      · cases h
      · obtain rfl := Option.some.inj h
        exact haside _ rfl rfl rfl rfl hs.sets
  | publish i process =>
      obtain ⟨e, -, rfl⟩ := Option.map_eq_some_iff.mp h
      obtain ⟨hp', hs'⟩ := haside { s with numbered := s.numbered.eraseIdx i }
        rfl rfl rfl rfl hs.sets
      exact ⟨hp'.dispatch process (.phase e), hs'.dispatch process (.phase e)⟩
  | cancel process tenantId alertId userId requestedAt =>
      obtain rfl := Option.some.inj h
      exact ⟨hp.dispatch process _, hs.dispatch process _⟩
  | take id =>
      simp only [Feed.move] at h
      split at h
      · rename_i δ queue hid
        obtain rfl := Option.some.inj h
        have hloop : LoopPlaced s id ⟨δ :: queue, none⟩ := hid ▸ hp.loops id
        refine ⟨hp.setLoop id _ hloop.take, hs.setLoop ?_ rfl hs.sets rfl rfl⟩
        intro δ' work hwork
        obtain ⟨rfl, rfl⟩ := Prod.mk.inj (Option.some.inj hwork)
        trivial
      · cases h
  | lookup id reply reached =>
      simp only [Feed.move] at h
      split at h
      · rename_i queue δ hid
        obtain rfl := Option.some.inj h
        have hbegun : ¬ ∃ ps, Work.begun = .pushes ps := by
          rintro ⟨_, hps⟩
          cases hps
        exact orderly_lookup hp hs hid hbegun (program_under D δ) reply reached
          rfl rfl rfl rfl rfl
      · rename_i queue δ x hid
        obtain rfl := Option.some.inj h
        have hx := hs.work id δ (.lookup x) (by rw [hid])
        have hlookup : ¬ ∃ ps, Work.lookup x = .pushes ps := by
          rintro ⟨_, hps⟩
          cases hps
        exact orderly_lookup hp hs hid hlookup hx reply reached rfl rfl rfl rfl rfl
      · cases h
  | push id j reply reached =>
      simp only [Feed.move] at h
      split at h
      · rename_i queue δ ps hid
        split at h
        · rename_i p x hj
          split at h
          · cases h
          · obtain rfl := Option.some.inj h
            refine ⟨hp.hand hid rfl rfl rfl, hs.hand hp hid hj ?_ rfl
              (setsNodup_resume hs.sets reply reached x) rfl rfl⟩
            intro haccepted
            cases harriving : arriving x reached with
            | some body => rfl
            | none =>
                rw [harriving] at haccepted
                cases haccepted
        · cases h
      · cases h
  | finish id =>
      simp only [Feed.move] at h
      split at h
      · rename_i queue δ ps hid
        split at h
        · obtain rfl := Option.some.inj h
          have hloop : LoopPlaced s id ⟨queue, some (δ, .pushes ps)⟩ := hid ▸ hp.loops id
          refine ⟨(hp.setLoop id _ hloop.finish).frame rfl rfl rfl,
            hs.setLoop ?_ rfl hs.sets rfl rfl⟩
          exact fun _ _ hwork => by cases hwork
        · cases h
      · cases h
  | read doId alertId named phase =>
      simp only [Feed.move] at h
      split at h
      · obtain rfl := Option.some.inj h
        exact haside _ rfl rfl rfl rfl hs.sets
      · cases h
  | snapshot doId i j =>
      simp only [Feed.move] at h
      split at h
      · split at h
        · obtain ⟨t, -, rfl⟩ := Option.map_eq_some_iff.mp h
          exact haside _ rfl rfl rfl rfl hs.sets
        · cases h
      · cases h
  | post i reply reached =>
      obtain ⟨post, -, rfl⟩ := Option.map_eq_some_iff.mp h
      exact haside _ rfl rfl rfl rfl (setsNodup_resume hs.sets reply reached post.2)
  | registered doId i j =>
      simp only [Feed.move] at h
      split at h
      · split at h
        · obtain ⟨t, -, rfl⟩ := Option.map_eq_some_iff.mp h
          exact haside _ rfl rfl rfl rfl hs.sets
        · cases h
      · cases h

theorem orderly_settle {s : Feed} (hp : Placed s) (hs : Counted s) :
    Placed s.settle ∧ Counted s.settle :=
  ⟨hp.frame rfl rfl rfl, hs.frame (fun _ _ _ h => .inl h) hs.sets rfl rfl⟩

/-- What the pushes of the loops have in common: a loop hands over to an object
in publication order, and a message again only after an attempt that failed
although it was handed over, and three times at most. -/
structure OrderedByLoop (s : Feed) : Prop where
  order : ∀ d id, (s.handedBy d id).Pairwise (· ≤ ·)
  again : ∀ h, s.handed.count h ≤ s.lost.count h + 1
  thrice : ∀ h, s.handed.count h ≤ maxAttempts

/-- **Order within a loop**, for any number of processes and every outcome of
every push. -/
theorem ordered_by_loop {s : Feed} (h : (feedSystem D).Reachable s) :
    OrderedByLoop s := by
  have hboth : Placed s ∧ Counted s := by
    apply h.invariant (P := fun s => Placed s ∧ Counted s)
    · rintro s rfl
      exact ⟨placed_start, counted_start⟩
    · intro s l s' hs _ hstep
      obtain ⟨t, hmove, rfl⟩ := Option.map_eq_some_iff.mp hstep
      obtain ⟨hp, hc⟩ := orderly_move hs.1 hs.2 hmove
      exact orderly_settle hp hc
  exact
    { order := hboth.1.order
      again := hboth.2.again
      thrice := hboth.2.thrice }

/-- A client watches, and the loop takes the event of its alert. -/
def watchedEvent : List Label :=
  snapshotRead ++ registration ++ eventTaken ++
    List.replicate 2 (.lookup ⟨0, .events⟩ told true)

/-- The push arrives, its answer is lost, and it is repeated. -/
def repeated : List Label :=
  [.push ⟨0, .events⟩ 0 told true, .push ⟨0, .events⟩ 0 none true,
    .push ⟨0, .events⟩ 0 told true, .push ⟨0, .events⟩ 0 told true]

theorem ordered_by_loop_repeated :
    ∃ s, (feedSystem sampleDeployment).run Feed.start (watchedEvent ++ repeated) = some s ∧
      s.handed.length = 2 ∧ OrderedByLoop s := by
  have hrun : ((feedSystem sampleDeployment).run Feed.start
      (watchedEvent ++ repeated)).any (fun s => s.handed.length == 2) = true := by
    decide +kernel
  obtain ⟨s, hs, hhanded⟩ := (Option.any_eq_true _ _).mp hrun
  exact ⟨s, hs, beq_iff_eq.mp hhanded,
    ordered_by_loop ((feedSystem sampleDeployment).reached_of_run (.start rfl) hs)⟩

/-- The events of an alert that an object has handed over, by their places in
publication order. -/
def Feed.handedFor (s : Feed) (d alertId : String) : List ℕ :=
  (s.handed.filter fun h => h.doId = d ∧ h.delivery.message.subscription = .events ∧
    h.delivery.message.alertId = alertId).map Handed.index

/-- The loop of a process asks for the watchers and makes its first push. -/
def pushedBy (process : ℕ) : List Label :=
  [.lookup ⟨process, .events⟩ told true, .lookup ⟨process, .events⟩ told true,
    .push ⟨process, .events⟩ 0 told true, .push ⟨process, .events⟩ 0 told true]

/-- The two events of an alert go to two processes, and the second is quicker. -/
def overtaken : List Label :=
  [.nextSeq "tenant" "alert" .extract "2024-01-01T00:00:00",
    .nextSeq "tenant" "alert" .route "2024-01-01T00:00:01",
    .publish 0 0, .publish 0 1, .take ⟨0, .events⟩, .take ⟨1, .events⟩] ++
    pushedBy 1 ++ pushedBy 0

/-- Over all loops there is no order, and one event may be handed over twice. -/
theorem handed_overtaken_and_repeated :
    (¬ ∀ (D : Deployment) (s : Feed), (feedSystem D).Reachable s →
      ∀ d alertId, (s.handedFor d alertId).Pairwise (· ≤ ·)) ∧
    ¬ ∀ (D : Deployment) (s : Feed), (feedSystem D).Reachable s →
      ∀ d alertId, (s.handedFor d alertId).Nodup := by
  have hreach : ∀ (ls : List Label) (is : List ℕ),
      ((feedSystem sampleDeployment).run Feed.start ls).any
        (fun s => s.handedFor "ticket:ticket-1" "alert" == is) = true →
      ∃ s, (feedSystem sampleDeployment).Reachable s ∧
        s.handedFor "ticket:ticket-1" "alert" = is := by
    intro ls is h
    obtain ⟨s, hs, his⟩ := (Option.any_eq_true _ _).mp h
    exact ⟨s, (feedSystem sampleDeployment).reached_of_run (.start rfl) hs,
      beq_iff_eq.mp his⟩
  constructor
  · intro h
    obtain ⟨s, hs, his⟩ := hreach (snapshotRead ++ registration ++ overtaken) [1, 0]
      (by decide +kernel)
    have hsorted := h _ s hs "ticket:ticket-1" "alert"
    rw [his] at hsorted
    exact absurd hsorted (by decide)
  · intro h
    obtain ⟨s, hs, his⟩ := hreach (watchedEvent ++ repeated) [0, 0] (by decide +kernel)
    have honce := h _ s hs "ticket:ticket-1" "alert"
    rw [his] at honce
    exact absurd honce (by decide)

end AlertTriage.Live
