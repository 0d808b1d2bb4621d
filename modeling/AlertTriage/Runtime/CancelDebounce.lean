import AlertTriage.Runtime.CancelRegistry
import AlertTriage.Library.Transition
import Mathlib.Logic.Function.Basic

/-!
# The cancel registry at its awaits

Each `request_cancel` stops the timer that the table names, awaits its `SETEX` and
only then starts its own timer and enters it; `revoke_cancel` stops the timer and
awaits its `DEL`. A timer whose request still waits, that another entry has replaced,
or that the `finally` of an earlier timer has taken out of the table is not stopped,
and one whose write is under way may write all the same. As long as each call finds
every earlier timer in the table, the flag of an alert is set only when its last call
is a request of a grace period ago (`cancel_debounced`).
-/

namespace AlertTriage

open Library

/-! ## §1  Timers -/

/-- A constructed registry. -/
structure CancelRegistry where
  hasClient : Bool
  graceSeconds : ℕ
deriving DecidableEq, Repr

def CancelRegistry.grace (reg : CancelRegistry) : ℕ := reg.graceSeconds * second

/-- Where `_fire_after_grace` stands: not yet run, asleep, or at one of its three
commands. -/
inductive FirePoint where
  | created
  | sleeping (due : ℕ)
  | checking
  | writing
  | clearing
  | done
deriving DecidableEq, Repr

/-- The command at a point, and where the timer stands after it. -/
def FirePoint.next (alertId : String) (o : Outcome) : FirePoint → Io FirePoint
  | .checking =>
      Run.tryExcept
        (do
          let stillPending ← redisGet o (cancelPendingKey alertId)
          if stillPending.map RedisValue.toText ≠ some "1" then return .done
          else return .writing)
        (fun _ => return .done)
  | .writing =>
      Run.tryExcept
        (do
          redisSetEx o (cancelledKey alertId) cancelledTtlSec (.text "1")
          return .clearing)
        (fun _ => return .done)
  | .clearing =>
      Run.tryExcept
        (do
          redisDelete o [cancelPendingKey alertId]
          return .done)
        (fun _ => return .done)
  | p => return p

/-- A timer's task. `cancelled`: it was told to stop, and will see so at the await
where it stands. -/
structure Fire where
  alertId : String
  point : FirePoint
  cancelled : Bool
deriving DecidableEq, Repr

/-- `task.cancel()`, where the task is not done. -/
def Fire.cancel (fire : Fire) : Fire :=
  if fire.point = .done then fire else { fire with cancelled := true }

/-- The task goes on by itself. -/
def Fire.Live (fire : Fire) : Prop := fire.cancelled = false ∧ fire.point ≠ .done

/-! ## §2  The registry -/

inductive CancelCall where
  | request
  | revoke
deriving DecidableEq, Repr

/-- What happens around the flag: a call is issued, the flag is written. -/
inductive CancelEvent where
  | issued (call : CancelCall) (alertId : String) (time : ℕ)
  | flagged (alertId : String) (time : ℕ)
deriving DecidableEq, Repr

/-- The registry of one process: `_timers`, the tasks by number, the calls that wait
for Redis, and what has happened, newest first. -/
structure CancelState where
  world : World
  timers : String → Option ℕ
  fires : ℕ → Option Fire
  spawned : ℕ
  calls : ℕ → Option (CancelCall × String)
  history : List CancelEvent

/-- The steps of the calls, of the timers and of the clock. -/
inductive CancelStep where
  | issue (i : ℕ) (call : CancelCall) (alertId : String)
  | answer (i : ℕ) (o : Outcome)
  | start (f : ℕ)
  | wake (f : ℕ)
  | go (f : ℕ) (o : Outcome)
  | unwind (f : ℕ) (applied : Bool)
  | tick (d : ℕ)
deriving DecidableEq, Repr

namespace CancelState

def setFire (f : ℕ) (fire : Fire) (s : CancelState) : CancelState :=
  { s with fires := Function.update s.fires f (some fire) }

/-- `self._timers.pop(alert_id, None)`. -/
def popTimer (alertId : String) (s : CancelState) : CancelState :=
  { s with timers := Function.update s.timers alertId none }

/-- The timer of the table is taken out and told to stop. -/
def stopTimer (alertId : String) (s : CancelState) : CancelState :=
  match s.timers alertId with
  | none => s
  | some f =>
      { s.popTimer alertId with
        fires := Function.update s.fires f ((s.fires f).map Fire.cancel) }

/-- `asyncio.create_task(self._fire_after_grace(alert_id))`, entered in the table. -/
def spawn (alertId : String) (s : CancelState) : CancelState :=
  { s with
    timers := Function.update s.timers alertId (some s.spawned)
    fires := Function.update s.fires s.spawned (some ⟨alertId, .created, false⟩)
    spawned := s.spawned + 1 }

/-- The code of a call up to its first await. -/
def issue (reg : CancelRegistry) (i : ℕ) (call : CancelCall) (alertId : String)
    (s : CancelState) : CancelState :=
  let s := { s with
    calls := Function.update s.calls i (some (call, alertId))
    history := .issued call alertId s.world.now :: s.history }
  if call = .revoke ∨ reg.hasClient = true then s.stopTimer alertId else s

/-- The `SETEX` or `DEL` of a call ends, and the call with it. -/
def answer (reg : CancelRegistry) (i : ℕ) (o : Outcome) (s : CancelState) :
    CancelCall × String → Option CancelState
  | (.request, alertId) =>
      match requestCancel reg.hasClient reg.graceSeconds o alertId s.world with
      | (.ok started, w) =>
          let s := { s with world := w, calls := Function.update s.calls i none }
          some (if started then s.spawn alertId else s)
      | (.error _, _) => none
  | (.revoke, alertId) =>
      match revokeCancel reg.hasClient o alertId s.world with
      | (.ok (), w) =>
          some { s with world := w, calls := Function.update s.calls i none }
      | (.error _, _) => none

/-- The timer's `finally`. -/
def finish (f : ℕ) (fire : Fire) (s : CancelState) : CancelState :=
  (s.setFire f { fire with point := .done }).popTimer fire.alertId

/-- The write of the flag takes effect. -/
def flag (alertId : String) (s : CancelState) : CancelState :=
  { s with history := .flagged alertId s.world.now :: s.history }

/-- A timer's command ends, and the timer goes on to the next await. -/
def go (f : ℕ) (fire : Fire) (o : Outcome) (s : CancelState) : Option CancelState :=
  match fire.point.next fire.alertId o s.world with
  | (.ok p, w) =>
      let s := if fire.point = .writing ∧ o.applied then s.flag fire.alertId else s
      let s := { s with world := w }
      some (if p = .done then s.finish f fire else s.setFire f { fire with point := p })
  | (.error _, _) => none

/-- A timer that was told to stop sees so. A command that was under way may have been
applied, or be applied yet. -/
def unwind (f : ℕ) (fire : Fire) (applied : Bool) (s : CancelState) : CancelState :=
  match fire.point with
  | .checking => s.finish f fire
  | .writing =>
      if applied then
        ({ s.flag fire.alertId with
          world := s.world.setEx (cancelledKey fire.alertId) (.text "1")
            (cancelledTtlSec * second) }).finish f fire
      else s.finish f fire
  | .clearing =>
      if applied then
        ({ s with
          world := s.world.delete [cancelPendingKey fire.alertId] }).finish f fire
      else s.finish f fire
  | _ => s.setFire f { fire with point := .done }

end CancelState

/-- One step of the registry. -/
def cancelStep (reg : CancelRegistry) (s : CancelState) :
    CancelStep → Option CancelState
  | .issue i call alertId =>
      if s.calls i = none then some (s.issue reg i call alertId) else none
  | .answer i o => (s.calls i).bind (s.answer reg i o)
  | .start f =>
      (s.fires f).bind fun fire =>
        if fire.point = .created ∧ fire.cancelled = false then
          some (s.setFire f { fire with point := .sleeping (s.world.now + reg.grace) })
        else none
  | .wake f =>
      (s.fires f).bind fun fire =>
        match fire.point with
        | .sleeping t =>
            if t ≤ s.world.now ∧ fire.cancelled = false then
              some (s.setFire f
                { fire with point := if reg.hasClient then .checking else .done })
            else none
        | _ => none
  | .go f o =>
      (s.fires f).bind fun fire =>
        if (fire.point = .checking ∨ fire.point = .writing ∨ fire.point = .clearing) ∧
            fire.cancelled = false then
          s.go f fire o
        else none
  | .unwind f applied =>
      (s.fires f).bind fun fire =>
        if fire.point ≠ .done ∧ fire.cancelled = true then
          some (s.unwind f fire applied)
        else none
  | .tick d => some { s with world := s.world.advance d }

/-- A process starts with no call and no timer. -/
def cancelSystem (reg : CancelRegistry) : System CancelState CancelStep where
  start s := (∀ id, s.timers id = none) ∧ (∀ f, s.fires f = none) ∧
    (∀ i, s.calls i = none) ∧ s.history = []
  step := cancelStep reg

/-- The commands of a timer, one after another, are `_fire_after_grace`. -/
theorem fireAfterGrace_points (e : FireEnv) (id : String) :
    fireAfterGrace true e id =
      (do
        let p ← FirePoint.next id e.getPending .checking
        if p = .writing then
          let p ← FirePoint.next id e.setCancelled .writing
          if p = .clearing then
            let _ ← FirePoint.next id e.deletePending .clearing
            return ()
          else return ()
        else return ()) := by
  funext w
  obtain ⟨g, x, d⟩ := e
  unfold fireAfterGrace
  rw [if_neg (by decide)]
  rcases g with _ | b | b
  · by_cases hp : (w.lookup (cancelPendingKey id)).map RedisValue.toText = some "1"
    · simp only [FirePoint.next, Run.tryExcept, Run.bind_apply, redisGet, Run.call,
        if_neg (not_not.mpr hp)]
      rcases x with _ | b | b <;> rcases d with _ | c | c <;> rfl
    · simp only [FirePoint.next, Run.tryExcept, Run.bind_apply, redisGet, Run.call,
        if_pos hp]
      rfl
  · rfl
  · rfl

/-! ## §3  The debounce -/

/-- The event is a call for the alert. -/
def CancelEvent.IsCall (a : String) : CancelEvent → Prop
  | .issued _ id _ => id = a
  | .flagged _ _ => False

/-- Some request of the alert was issued at least the grace period before `t`, and no
call for it since. -/
def Asked (reg : CancelRegistry) (a : String) (t : ℕ) (history : List CancelEvent) :
    Prop :=
  ∃ after tr before, history = after ++ .issued .request a tr :: before ∧
    tr + reg.grace ≤ t ∧ ∀ x ∈ after, ¬ x.IsCall a

/-- The flag is set only where it was asked for. -/
def Debounced (reg : CancelRegistry) (a : String) : List CancelEvent → Prop
  | [] => True
  | .issued _ _ _ :: rest => Debounced reg a rest
  | .flagged id t :: rest => (id = a → Asked reg a t rest) ∧ Debounced reg a rest

/-- A call for the alert finds every timer of it in the table, none of them with its
write under way; and a revoke finds no request of it that still waits. -/
def StopsAll (a : String) (s : CancelState) : CancelStep → Prop
  | .issue _ call id => id = a →
      (∀ f fire, s.fires f = some fire → fire.alertId = a → fire.Live →
        s.timers a = some f ∧ fire.point ≠ .writing) ∧
      (call = .revoke → ∀ i, s.calls i ≠ some (.request, a))
  | _ => True

/-- The last call for the alert, and when it was issued. -/
def lastCall (a : String) : List CancelEvent → Option (CancelCall × ℕ)
  | [] => none
  | .issued call id t :: rest => if id = a then some (call, t) else lastCall a rest
  | .flagged _ _ :: rest => lastCall a rest

theorem asked_of_lastCall {reg : CancelRegistry} {a : String} {t tr : ℕ}
    {history : List CancelEvent} (h : lastCall a history = some (.request, tr))
    (hle : tr + reg.grace ≤ t) : Asked reg a t history := by
  induction history with
  | nil => cases h
  | cons x rest ih =>
      have hskip (hx : ¬ x.IsCall a) (hrest : Asked reg a t rest) :
          Asked reg a t (x :: rest) := by
        obtain ⟨after, tr', before, rfl, htr, hafter⟩ := hrest
        refine ⟨x :: after, tr', before, rfl, htr, ?_⟩
        intro y hy
        rcases List.mem_cons.mp hy with rfl | hy
        · exact hx
        · exact hafter y hy
      cases x with
      | issued call id t' =>
          by_cases hid : id = a
          · subst hid
            simp only [lastCall, if_true] at h
            obtain ⟨rfl, rfl⟩ := Prod.mk.inj (Option.some.inj h)
            exact ⟨[], t', rest, rfl, hle, by simp⟩
          · simp only [lastCall, if_neg hid] at h
            exact hskip hid (ih h)
      | flagged id t' => exact hskip (fun hno => hno) (ih h)

/-- How far a timer whose request was the last call, at `tr`, can have come. -/
def FirePoint.After (reg : CancelRegistry) (tr now : ℕ) : FirePoint → Prop
  | .created => True
  | .sleeping due => tr + reg.grace ≤ due
  | .done => True
  | _ => tr + reg.grace ≤ now

theorem FirePoint.After.later {reg : CancelRegistry} {tr now now' : ℕ} {p : FirePoint}
    (h : p.After reg tr now) (hle : now ≤ now') : p.After reg tr now' := by
  cases p with
  | created => trivial
  | sleeping due => exact h
  | done => trivial
  | _ => exact le_trans h hle

/-- What a run in which every call stops all earlier timers keeps. -/
structure DebounceInv (reg : CancelRegistry) (a : String) (s : CancelState) : Prop where
  fresh : ∀ f, s.spawned ≤ f → s.fires f = none
  client : ∀ f fire, s.fires f = some fire → reg.hasClient = true
  table : ∀ id f, s.timers id = some f →
    ∃ fire, s.fires f = some fire ∧ fire.alertId = id
  past : ∀ call t, lastCall a s.history = some (call, t) → t ≤ s.world.now
  waiting : ∀ i, s.calls i = some (.request, a) →
    ∃ t, lastCall a s.history = some (.request, t)
  live : ∀ f fire, s.fires f = some fire → fire.alertId = a → fire.Live →
    ∃ t, lastCall a s.history = some (.request, t) ∧
      fire.point.After reg t s.world.now
  stopped : ∀ f fire, s.fires f = some fire → fire.alertId = a →
    fire.cancelled = true → fire.point ≠ .writing
  debounced : Debounced reg a s.history

variable {reg : CancelRegistry} {a id : String} {s s' : CancelState} {f : ℕ} {fire : Fire}

/-- A timer goes to another point. -/
theorem DebounceInv.move (h : DebounceInv reg a s) (hf : s.fires f = some fire)
    {p : FirePoint} (hfires : s'.fires =
      Function.update s.fires f (some { fire with point := p }))
    (hspawned : s'.spawned = s.spawned) (hcalls : s'.calls = s.calls)
    (hnow : s'.world.now = s.world.now)
    (htimers : ∀ id g, s'.timers id = some g → s.timers id = some g)
    (hlast : lastCall a s'.history = lastCall a s.history)
    (hdeb : Debounced reg a s'.history)
    (hlive : fire.Live → ∀ t, t ≤ s.world.now → fire.point.After reg t s.world.now →
      p.After reg t s.world.now)
    (hdone : fire.point = .done → p = .done)
    (hstop : fire.cancelled = true → p ≠ .writing) : DebounceInv reg a s' := by
  -- all other fires stay at their points
  have hcase {g : ℕ} {fire' : Fire} (hg : s'.fires g = some fire') :
      g = f ∧ fire' = { fire with point := p } ∨ s.fires g = some fire' := by
    rw [hfires] at hg
    by_cases hgf : g = f
    · subst hgf
      rw [Function.update_self] at hg
      exact .inl ⟨rfl, (Option.some.inj hg).symm⟩
    · rw [Function.update_of_ne hgf] at hg
      exact .inr hg
  constructor
  · intro g hg
    rw [hspawned] at hg
    have hgf : g ≠ f := by
      rintro rfl
      rw [h.fresh _ hg] at hf
      cases hf
    rw [hfires, Function.update_of_ne hgf]
    exact h.fresh g hg
  · intro g fire' hg
    rcases hcase hg with ⟨rfl, rfl⟩ | hg
    · exact h.client _ fire hf
    · exact h.client g fire' hg
  · intro id g hg
    obtain ⟨fire', hfire', hid⟩ := h.table id g (htimers id g hg)
    by_cases hgf : g = f
    · subst hgf
      obtain rfl := Option.some.inj (hf.symm.trans hfire')
      exact ⟨{ fire with point := p }, by rw [hfires, Function.update_self], hid⟩
    · exact ⟨fire', by rw [hfires, Function.update_of_ne hgf]; exact hfire', hid⟩
  · intro call t ht
    rw [hlast] at ht
    rw [hnow]
    exact h.past call t ht
  · intro i hi
    rw [hcalls] at hi
    rw [hlast]
    exact h.waiting i hi
  · intro g fire' hg ha hl
    rw [hlast, hnow]
    rcases hcase hg with ⟨rfl, rfl⟩ | hg
    · have hold : fire.Live := ⟨hl.1, fun hd => hl.2 (hdone hd)⟩
      obtain ⟨t, ht, hafter⟩ := h.live _ fire hf ha hold
      exact ⟨t, ht, hlive hold t (h.past _ t ht) hafter⟩
    · exact h.live g fire' hg ha hl
  · intro g fire' hg ha hc
    rcases hcase hg with ⟨rfl, rfl⟩ | hg
    · exact hstop hc
    · exact h.stopped g fire' hg ha hc
  · exact hdeb

theorem timers_popTimer {g : ℕ} {id' : String}
    (h : (s.popTimer id').timers id = some g) : s.timers id = some g := by
  by_cases hid : id = id'
  · subst hid
    simp [CancelState.popTimer] at h
  · simpa [CancelState.popTimer, Function.update_of_ne hid] using h

/-- The end of a timer. -/
theorem DebounceInv.finish (h : DebounceInv reg a s) (hf : s.fires f = some fire) :
    DebounceInv reg a (s.finish f fire) := by
  refine h.move hf (p := .done) rfl rfl rfl rfl ?_ rfl h.debounced
    (fun _ _ _ _ => trivial) (fun _ => rfl) (fun _ => by simp)
  exact fun id g hg => timers_popTimer hg

theorem DebounceInv.start (h : DebounceInv reg a s) (hf : s.fires f = some fire)
    (hp : fire.point = .created) :
    DebounceInv reg a
      (s.setFire f { fire with point := .sleeping (s.world.now + reg.grace) }) := by
  refine h.move hf rfl rfl rfl rfl (fun _ _ hg => hg) rfl h.debounced ?_ ?_ ?_
  · intro _ t ht _
    exact Nat.add_le_add_right ht _
  · intro hd
    rw [hp] at hd
    cases hd
  · exact fun _ => by simp

theorem DebounceInv.wake (h : DebounceInv reg a s) (hf : s.fires f = some fire) {due : ℕ}
    (hp : fire.point = .sleeping due) (hdue : due ≤ s.world.now) :
    DebounceInv reg a
      (s.setFire f { fire with point := if reg.hasClient then .checking else .done }) := by
  refine h.move hf rfl rfl rfl rfl (fun _ _ hg => hg) rfl h.debounced ?_ ?_ ?_
  · intro _ t _ hafter
    rw [hp] at hafter
    split
    · exact le_trans hafter hdue
    · trivial
  · intro hd
    rw [hp] at hd
    cases hd
  · intro _
    split <;> simp

/-- A command leaves the clock alone, and the timer at its next command or done. -/
theorem next_cases {p p' : FirePoint} {o : Outcome} {w w' : World}
    (hp : p = .checking ∨ p = .writing ∨ p = .clearing)
    (h : p.next id o w = (.ok p', w')) :
    w'.now = w.now ∧ (p' = .writing ∨ p' = .clearing ∨ p' = .done) := by
  have hnow : Run.Keeps (fun v : World => v.now = w.now) (p.next id o) := by
    rcases hp with rfl | rfl | rfl
    · refine Run.Keeps.tryExcept ?_ fun _ => Run.Keeps.pure _
      refine Run.Keeps.bind (Run.Keeps.call fun _ hv => hv) fun _ => ?_
      split
      · exact Run.Keeps.pure _
      · exact Run.Keeps.pure _
    · refine Run.Keeps.tryExcept ?_ fun _ => Run.Keeps.pure _
      exact Run.Keeps.bind (Run.Keeps.call fun _ hv => hv) fun _ => Run.Keeps.pure _
    · refine Run.Keeps.tryExcept ?_ fun _ => Run.Keeps.pure _
      exact Run.Keeps.bind (Run.Keeps.call fun _ hv => hv) fun _ => Run.Keeps.pure _
  have hw := hnow w rfl
  rw [h] at hw
  refine ⟨hw, ?_⟩
  rcases hp with rfl | rfl | rfl
  · rcases o with _ | b | b
    · simp only [FirePoint.next, Run.tryExcept, Run.bind_apply, redisGet, Run.call] at h
      by_cases hp : (w.lookup (cancelPendingKey id)).map RedisValue.toText = some "1"
      · rw [if_neg (not_not.mpr hp)] at h
        cases h
        simp
      · rw [if_pos hp] at h
        cases h
        simp
    · cases h
      simp
    · cases h
  · rcases o with _ | b | b <;> cases h <;> simp
  · rcases o with _ | b | b <;> cases h <;> simp

/-- The flag is set by a timer that goes on, or by none that was told to stop. -/
theorem DebounceInv.flag (h : DebounceInv reg a s) (hf : s.fires f = some fire)
    (hp : fire.point = .writing) (hc : fire.cancelled = false) :
    DebounceInv reg a (s.flag fire.alertId) where
  fresh := h.fresh
  client := h.client
  table := h.table
  past := h.past
  waiting := h.waiting
  live := h.live
  stopped := h.stopped
  debounced := by
    refine ⟨fun ha => ?_, h.debounced⟩
    obtain ⟨tr, htr, hafter⟩ := h.live f fire hf ha ⟨hc, by rw [hp]; simp⟩
    rw [hp] at hafter
    exact asked_of_lastCall htr hafter

/-- The world changes and the clock does not. -/
theorem DebounceInv.world (h : DebounceInv reg a s) {w : World}
    (hw : w.now = s.world.now) : DebounceInv reg a { s with world := w } where
  fresh := h.fresh
  client := h.client
  table := h.table
  past call t ht := (h.past call t ht).trans hw.ge
  waiting := h.waiting
  live g fire' hg ha hl := by
    obtain ⟨t, ht, hafter⟩ := h.live g fire' hg ha hl
    exact ⟨t, ht, hafter.later hw.ge⟩
  stopped := h.stopped
  debounced := h.debounced

theorem DebounceInv.go (h : DebounceInv reg a s) (hf : s.fires f = some fire) {o : Outcome}
    (hp : fire.point = .checking ∨ fire.point = .writing ∨ fire.point = .clearing)
    (hc : fire.cancelled = false) (hgo : s.go f fire o = some s') :
    DebounceInv reg a s' := by
  unfold CancelState.go at hgo
  rcases hn : fire.point.next fire.alertId o s.world with ⟨_ | p, w⟩
  · rw [hn] at hgo
    cases hgo
  rw [hn] at hgo
  obtain rfl := Option.some.inj hgo
  obtain ⟨hnow, hpoint⟩ := next_cases hp hn
  -- the flag is set before the timer moves on
  have hflag : DebounceInv reg a
      (if fire.point = .writing ∧ o.applied then s.flag fire.alertId else s) := by
    split
    · exact h.flag hf (And.left ‹_›) hc
    · exact h
  have hsame : (if fire.point = .writing ∧ o.applied then s.flag fire.alertId else s).fires =
      s.fires ∧ (if fire.point = .writing ∧ o.applied then s.flag fire.alertId
        else s).world = s.world := by
    split <;> exact ⟨rfl, rfl⟩
  generalize (if fire.point = .writing ∧ o.applied then s.flag fire.alertId else s) = s1
    at hflag hsame ⊢
  have hworld : DebounceInv reg a { s1 with world := w } :=
    hflag.world (hnow.trans (congrArg World.now hsame.2.symm))
  have hf1 : s1.fires f = some fire := by rw [hsame.1, hf]
  split
  · exact hworld.finish hf1
  · refine hworld.move hf1 rfl rfl rfl rfl (fun _ _ hg => hg) rfl hworld.debounced ?_ ?_ ?_
    · intro _ t _ hafter
      have hdue : t + reg.grace ≤ w.now := by
        rcases hp with hp | hp | hp <;> rw [hp] at hafter <;> exact hafter
      rcases hpoint with rfl | rfl | rfl
      · exact hdue
      · exact hdue
      · trivial
    · intro hd
      rcases hp with hp | hp | hp <;> rw [hd] at hp <;> cases hp
    · intro hno
      rw [hc] at hno
      cases hno

theorem DebounceInv.unwind (h : DebounceInv reg a s) (hf : s.fires f = some fire)
    (hc : fire.cancelled = true) (hd : fire.point ≠ .done) (applied : Bool) :
    DebounceInv reg a (s.unwind f fire applied) := by
  have hquiet : DebounceInv reg a (s.setFire f { fire with point := .done }) := by
    refine h.move hf rfl rfl rfl rfl (fun _ _ hg => hg) rfl h.debounced
      (fun _ _ _ _ => trivial) (fun _ => rfl) (fun _ => by simp)
  unfold CancelState.unwind
  cases hp : fire.point with
  | created => exact hquiet
  | sleeping due => exact hquiet
  | checking => exact h.finish hf
  | writing =>
      cases applied with
      | false => exact h.finish hf
      | true =>
          have hother : fire.alertId ≠ a := fun ha => h.stopped f fire hf ha hc hp
          have hflag : DebounceInv reg a (s.flag fire.alertId) :=
            ⟨h.fresh, h.client, h.table, h.past, h.waiting, h.live, h.stopped,
              fun ha => absurd ha hother, h.debounced⟩
          exact (hflag.world (w := s.world.setEx (cancelledKey fire.alertId) (.text "1")
            (cancelledTtlSec * second)) rfl).finish hf
  | clearing =>
      cases applied with
      | false => exact h.finish hf
      | true =>
          exact (h.world (w := s.world.delete [cancelPendingKey fire.alertId])
            rfl).finish hf
  | done => exact absurd hp hd

theorem fires_spawn {g : ℕ} {fire' : Fire} (hg : (s.spawn id).fires g = some fire') :
    g = s.spawned ∧ fire' = ⟨id, .created, false⟩ ∨ s.fires g = some fire' := by
  by_cases hgs : g = s.spawned
  · subst hgs
    simp only [CancelState.spawn, Function.update_self] at hg
    exact .inl ⟨rfl, (Option.some.inj hg).symm⟩
  · simp only [CancelState.spawn, Function.update_of_ne hgs] at hg
    exact .inr hg

/-- A request's `SETEX` has ended, and its timer is created. -/
theorem DebounceInv.spawn (h : DebounceInv reg a s) (hclient : reg.hasClient = true)
    (hid : id = a → ∃ t, lastCall a s.history = some (.request, t)) :
    DebounceInv reg a (s.spawn id) where
  fresh g hg := by
    have hlt : s.spawned < g := hg
    show Function.update s.fires s.spawned _ g = none
    rw [Function.update_of_ne hlt.ne']
    exact h.fresh g hlt.le
  client _ _ _ := hclient
  table id' g hg := by
    -- the table names the new timer for its alert, and the old ones for all others
    by_cases hid' : id' = id
    · subst hid'
      simp only [CancelState.spawn, Function.update_self] at hg
      obtain rfl := Option.some.inj hg
      exact ⟨_, Function.update_self .., rfl⟩
    · simp only [CancelState.spawn, Function.update_of_ne hid'] at hg
      obtain ⟨fire', hfire', hid''⟩ := h.table id' g hg
      have hne : g ≠ s.spawned := by
        rintro rfl
        rw [h.fresh _ le_rfl] at hfire'
        cases hfire'
      exact ⟨fire', (Function.update_of_ne hne ..).trans hfire', hid''⟩
  past := h.past
  waiting := h.waiting
  live g fire' hg ha hl := by
    rcases fires_spawn hg with ⟨-, rfl⟩ | hg
    · obtain ⟨t, ht⟩ := hid ha
      exact ⟨t, ht, trivial⟩
    · exact h.live g fire' hg ha hl
  stopped g fire' hg ha hc := by
    rcases fires_spawn hg with ⟨-, rfl⟩ | hg
    · cases hc
    · exact h.stopped g fire' hg ha hc
  debounced := h.debounced

/-- A call has ended. -/
theorem DebounceInv.ended (h : DebounceInv reg a s) (i : ℕ) :
    DebounceInv reg a { s with calls := Function.update s.calls i none } where
  fresh := h.fresh
  client := h.client
  table := h.table
  past := h.past
  waiting j hj := by
    have hne : j ≠ i := by
      rintro rfl
      simp at hj
    simp only [Function.update_of_ne hne] at hj
    exact h.waiting j hj
  live := h.live
  stopped := h.stopped
  debounced := h.debounced

theorem DebounceInv.answer (h : DebounceInv reg a s) {i : ℕ} {o : Outcome}
    {call : CancelCall} (hi : s.calls i = some (call, id))
    (hans : s.answer reg i o (call, id) = some s') : DebounceInv reg a s' := by
  cases call with
  | request =>
      have hnow : Run.Keeps (fun v : World => v.now = s.world.now)
          (requestCancel reg.hasClient reg.graceSeconds o id) := by
        unfold requestCancel
        split
        · exact Run.Keeps.pure _
        · refine Run.Keeps.tryExcept ?_ fun _ => Run.Keeps.pure _
          exact Run.Keeps.bind (Run.Keeps.call fun _ hv => hv) fun _ => Run.Keeps.pure _
      have hw := hnow s.world rfl
      simp only [CancelState.answer] at hans
      rcases hr : requestCancel reg.hasClient reg.graceSeconds o id s.world with
        ⟨_ | started, w⟩
      · rw [hr] at hans
        cases hans
      · rw [hr] at hans hw
        obtain rfl := Option.some.inj hans
        have hend := (h.world hw).ended i
        cases started with
        | false => exact hend
        -- the answer to a request spawns the timer
        | true =>
            have hclient : reg.hasClient = true := by
              by_contra hno
              rw [requestCancel, if_pos (by simpa using hno)] at hr
              cases hr
            exact hend.spawn hclient fun hid => h.waiting i (hid ▸ hi)
  | revoke =>
      have hnow : Run.Keeps (fun v : World => v.now = s.world.now)
          (revokeCancel reg.hasClient o id) := by
        unfold revokeCancel
        split
        · exact Run.Keeps.pure _
        · refine Run.Keeps.tryExcept ?_ fun _ => Run.Keeps.pure _
          exact Run.Keeps.call fun _ hv => hv
      have hw := hnow s.world rfl
      simp only [CancelState.answer] at hans
      rcases hr : revokeCancel reg.hasClient o id s.world with ⟨_ | _, w⟩
      · rw [hr] at hans
        cases hans
      · rw [hr] at hans hw
        obtain rfl := Option.some.inj hans
        exact (h.world hw).ended i

theorem Fire.not_live_cancel (fire : Fire) : ¬ fire.cancel.Live := by
  unfold Fire.cancel Fire.Live
  split
  · exact fun h => h.2 ‹_›
  · exact fun h => by cases h.1

theorem Fire.cancel_point (fire : Fire) : fire.cancel.point = fire.point := by
  unfold Fire.cancel
  split <;> rfl

theorem Fire.cancel_alertId (fire : Fire) : fire.cancel.alertId = fire.alertId := by
  unfold Fire.cancel
  split <;> rfl

/-- Stopping the timer of an alert tells the timer of the table to stop, and no other. -/
theorem fires_stopTimer {g : ℕ} {fire' : Fire}
    (hg : (s.stopTimer id).fires g = some fire') :
    ∃ fire, s.fires g = some fire ∧
      (s.timers id = some g ∧ fire' = fire.cancel ∨
        s.timers id ≠ some g ∧ fire' = fire) := by
  unfold CancelState.stopTimer at hg
  cases ht : s.timers id with
  | none =>
      rw [ht] at hg
      exact ⟨fire', hg, .inr ⟨by simp, rfl⟩⟩
  | some f =>
      rw [ht] at hg
      by_cases hgf : g = f
      · subst hgf
        simp only [Function.update_self] at hg
        obtain ⟨fire, hfire, rfl⟩ := Option.map_eq_some_iff.mp hg
        exact ⟨fire, hfire, .inl ⟨rfl, rfl⟩⟩
      · simp only [Function.update_of_ne hgf] at hg
        exact ⟨fire', hg, .inr ⟨fun hno => hgf (Option.some.inj hno).symm, rfl⟩⟩

theorem fires_stopTimer_none {g : ℕ} (hg : s.fires g = none) :
    (s.stopTimer id).fires g = none := by
  cases hg' : (s.stopTimer id).fires g with
  | none => rfl
  | some fire' =>
      obtain ⟨fire, hfire, -⟩ := fires_stopTimer hg'
      rw [hg] at hfire
      cases hfire

theorem timers_stopTimer {g : ℕ} {id' : String}
    (hg : (s.stopTimer id).timers id' = some g) : s.timers id' = some g := by
  unfold CancelState.stopTimer at hg
  cases ht : s.timers id with
  | none =>
      rw [ht] at hg
      exact hg
  | some f =>
      rw [ht] at hg
      exact timers_popTimer hg

/-- A task stays in its place when the timer of an alert is stopped. -/
theorem fire_of_stopTimer (id : String) {g : ℕ} (hg : s.fires g = some fire) :
    ∃ fire', (s.stopTimer id).fires g = some fire' ∧ fire'.alertId = fire.alertId := by
  unfold CancelState.stopTimer
  cases ht : s.timers id with
  | none => exact ⟨fire, hg, rfl⟩
  | some f =>
      by_cases hgf : g = f
      · subst hgf
        exact ⟨fire.cancel, by simp [hg], fire.cancel_alertId⟩
      · exact ⟨fire, by simp [Function.update_of_ne hgf, hg], rfl⟩

theorem stopTimer_same (id : String) (s : CancelState) :
    (s.stopTimer id).world = s.world ∧ (s.stopTimer id).spawned = s.spawned ∧
      (s.stopTimer id).calls = s.calls ∧ (s.stopTimer id).history = s.history := by
  unfold CancelState.stopTimer
  cases s.timers id <;> exact ⟨rfl, rfl, rfl, rfl⟩

/-- What stopping a timer keeps, whatever the alert: nobody goes on who did not. -/
theorem DebounceInv.stopTimer (h : DebounceInv reg a s) (id : String)
    (hwrite : ∀ f fire, s.timers id = some f → s.fires f = some fire →
      fire.alertId = a → fire.Live → fire.point ≠ .writing) :
    DebounceInv reg a (s.stopTimer id) := by
  obtain ⟨hworld, hspawned, hcalls, hhistory⟩ := stopTimer_same id s
  constructor
  · intro g hg
    rw [hspawned] at hg
    exact fires_stopTimer_none (h.fresh g hg)
  · intro g fire' hg
    obtain ⟨fire, hfire, -⟩ := fires_stopTimer hg
    exact h.client g fire hfire
  · intro id' g hg
    obtain ⟨fire, hfire, hid⟩ := h.table id' g (timers_stopTimer hg)
    obtain ⟨fire', hfire', hsame⟩ := fire_of_stopTimer id hfire
    exact ⟨fire', hfire', hsame.trans hid⟩
  · rw [hhistory, hworld]
    exact h.past
  · rw [hhistory, hcalls]
    exact h.waiting
  · intro g fire' hg ha hl
    rw [hhistory, hworld]
    obtain ⟨fire, hfire, ⟨-, rfl⟩ | ⟨-, rfl⟩⟩ := fires_stopTimer hg
    · -- the timer that was stopped lives no more
      exact absurd hl fire.not_live_cancel
    · exact h.live g fire' hfire ha hl
  · intro g fire' hg ha hc
    obtain ⟨fire, hfire, ⟨ht, rfl⟩ | ⟨-, rfl⟩⟩ := fires_stopTimer hg
    · rw [fire.cancel_alertId] at ha
      rw [fire.cancel_point]
      by_cases hl : fire.Live
      · exact hwrite g fire ht hfire ha hl
      · by_cases hcan : fire.cancelled = true
        · exact h.stopped g fire hfire ha hcan
        · intro hp
          exact hl ⟨by simpa using hcan, by rw [hp]; simp⟩
    · exact h.stopped g fire' hfire ha hc
  · rw [hhistory]
    exact h.debounced

/-- A call for another alert. -/
theorem DebounceInv.issue_other (h : DebounceInv reg a s) {i : ℕ} {call : CancelCall}
    (hid : id ≠ a) : DebounceInv reg a (s.issue reg i call id) := by
  have hnoted : DebounceInv reg a { s with
      calls := Function.update s.calls i (some (call, id))
      history := .issued call id s.world.now :: s.history } := by
    have hlast : lastCall a (.issued call id s.world.now :: s.history) =
        lastCall a s.history := if_neg hid
    refine ⟨h.fresh, h.client, h.table, ?_, ?_, ?_, h.stopped, h.debounced⟩
    · rw [hlast]
      exact h.past
    · intro j hj
      rw [hlast]
      by_cases hji : j = i
      · subst hji
        simp only [Function.update_self] at hj
        exact absurd (congrArg Prod.snd (Option.some.inj hj)) hid
      · simp only [Function.update_of_ne hji] at hj
        exact h.waiting j hj
    · rw [hlast]
      exact h.live
  unfold CancelState.issue
  dsimp only
  split
  · apply hnoted.stopTimer
    intro f fire ht hf ha
    obtain ⟨fire', hf', hid'⟩ := h.table id f ht
    obtain rfl := Option.some.inj (hf.symm.trans hf')
    exact absurd (hid'.symm.trans ha) hid
  · exact hnoted

/-- Where the table has every timer of the alert that goes on, none goes on after the one
in the table is stopped. -/
theorem DebounceInv.gone (h : DebounceInv reg a s)
    (hall : ∀ f fire, s.fires f = some fire → fire.alertId = a → fire.Live →
      s.timers a = some f ∧ fire.point ≠ .writing)
    (hfires : s'.fires = s.fires) (htimers : s'.timers = s.timers) {g : ℕ} {fire' : Fire}
    (hg : (s'.stopTimer a).fires g = some fire') (ha : fire'.alertId = a) :
    ¬ fire'.Live ∧ (fire'.cancelled = true → fire'.point ≠ .writing) := by
  obtain ⟨fire, hfire, hcase⟩ := fires_stopTimer hg
  rw [hfires] at hfire
  rw [htimers] at hcase
  have ha' : fire.alertId = a := by
    rcases hcase with ⟨-, rfl⟩ | ⟨-, rfl⟩
    · rwa [fire.cancel_alertId] at ha
    · exact ha
  have hpoint : fire.Live ∨ fire.cancelled = true → fire.point ≠ .writing := by
    rintro (hl | hc)
    · exact (hall g fire hfire ha' hl).2
    · exact h.stopped g fire hfire ha' hc
  rcases hcase with ⟨-, rfl⟩ | ⟨hno, rfl⟩
  · refine ⟨fire.not_live_cancel, fun _ => ?_⟩
    rw [fire.cancel_point]
    by_cases hd : fire.point = .done
    · simp [hd]
    · apply hpoint
      cases hc : fire.cancelled with
      | true => exact .inr rfl
      | false => exact .inl ⟨hc, hd⟩
  · exact ⟨fun hl => hno (hall g fire' hfire ha' hl).1, fun hc => hpoint (.inr hc)⟩

/-- A call for the alert that stops all its timers: none goes on, and the call is the
last one. -/
theorem DebounceInv.stop_issued (h : DebounceInv reg a s) {i : ℕ} {call : CancelCall}
    (hstops : StopsAll a s (.issue i call a)) :
    DebounceInv reg a (CancelState.stopTimer a { s with
      calls := Function.update s.calls i (some (call, a))
      history := .issued call a s.world.now :: s.history }) := by
  obtain ⟨hall, hnone⟩ := hstops rfl
  generalize hs1 : ({ s with
    calls := Function.update s.calls i (some (call, a))
    history := .issued call a s.world.now :: s.history } : CancelState) = s1
  have hfires1 : s1.fires = s.fires := by rw [← hs1]
  have htimers1 : s1.timers = s.timers := by rw [← hs1]
  have hlast1 : lastCall a s1.history = some (call, s1.world.now) := by
    rw [← hs1]
    exact if_pos rfl
  obtain ⟨hworld, hspawned, hcalls, hhistory⟩ := stopTimer_same a s1
  constructor
  · intro g hg
    apply fires_stopTimer_none
    rw [hfires1]
    apply h.fresh
    rwa [hspawned, ← hs1] at hg
  · intro g fire' hg
    obtain ⟨fire, hfire, -⟩ := fires_stopTimer hg
    rw [hfires1] at hfire
    exact h.client g fire hfire
  · intro id' g hg
    have ht := timers_stopTimer hg
    rw [htimers1] at ht
    obtain ⟨fire, hfire, hid⟩ := h.table id' g ht
    rw [← hfires1] at hfire
    obtain ⟨fire', hfire', hsame⟩ := fire_of_stopTimer a hfire
    exact ⟨fire', hfire', hsame.trans hid⟩
  · intro call' t ht
    rw [hhistory, hlast1] at ht
    rw [hworld]
    exact (congrArg Prod.snd (Option.some.inj ht)).ge
  · intro j hj
    rw [hhistory, hlast1]
    cases call with
    | request => exact ⟨_, rfl⟩
    | revoke =>
        -- a revoke finds no request that waits
        rw [hcalls, ← hs1] at hj
        by_cases hji : j = i
        · subst hji
          simp at hj
        · simp only [Function.update_of_ne hji] at hj
          exact absurd hj (hnone rfl j)
  · exact fun g fire' hg ha hl => absurd hl (h.gone hall hfires1 htimers1 hg ha).1
  · exact fun g fire' hg ha => (h.gone hall hfires1 htimers1 hg ha).2
  · rw [hhistory, ← hs1]
    exact h.debounced

theorem DebounceInv.issue_own (h : DebounceInv reg a s) {i : ℕ} {call : CancelCall}
    (hstops : StopsAll a s (.issue i call a)) :
    DebounceInv reg a (s.issue reg i call a) := by
  have hstopped := h.stop_issued hstops
  unfold CancelState.issue
  dsimp only
  split
  · exact hstopped
  · -- without a client no timer has ever been started
    rename_i hno
    have hnone : s.timers a = none := by
      cases ht : s.timers a with
      | none => rfl
      | some f =>
          obtain ⟨fire, hfire, -⟩ := h.table a f ht
          exact absurd (Or.inr (h.client f fire hfire)) hno
    simp only [CancelState.stopTimer, hnone] at hstopped
    exact hstopped

/-- What one step keeps, as long as each call for the alert stops all its timers. -/
theorem DebounceInv.step (h : DebounceInv reg a s) {l : CancelStep}
    (hstops : StopsAll a s l) (hstep : cancelStep reg s l = some s') :
    DebounceInv reg a s' := by
  cases l with
  | issue i call id =>
      simp only [cancelStep] at hstep
      split at hstep
      · obtain rfl := Option.some.inj hstep
        by_cases hid : id = a
        · subst hid
          exact h.issue_own hstops
        · exact h.issue_other hid
      · cases hstep
  | answer i o =>
      obtain ⟨⟨call, id⟩, hi, hans⟩ := Option.bind_eq_some_iff.mp hstep
      exact h.answer hi hans
  | start f =>
      obtain ⟨fire, hf, hstart⟩ := Option.bind_eq_some_iff.mp hstep
      split at hstart
      · obtain rfl := Option.some.inj hstart
        exact h.start hf (And.left ‹_›)
      · cases hstart
  | wake f =>
      obtain ⟨fire, hf, hwake⟩ := Option.bind_eq_some_iff.mp hstep
      cases hp : fire.point with
      | sleeping due =>
          simp only [hp] at hwake
          split at hwake
          · obtain rfl := Option.some.inj hwake
            exact h.wake hf hp (And.left ‹_›)
          · cases hwake
      | _ => simp [hp] at hwake
  | go f o =>
      obtain ⟨fire, hf, hgo⟩ := Option.bind_eq_some_iff.mp hstep
      split at hgo
      · rename_i hcond
        exact h.go hf hcond.1 hcond.2 hgo
      · cases hgo
  | unwind f applied =>
      obtain ⟨fire, hf, hunwind⟩ := Option.bind_eq_some_iff.mp hstep
      split at hunwind
      · rename_i hcond
        obtain rfl := Option.some.inj hunwind
        exact h.unwind hf hcond.2 hcond.1 applied
      · cases hunwind
  | tick d =>
      -- timers only grow older
      obtain rfl := Option.some.inj hstep
      have hle : s.world.now ≤ (s.world.advance d).now := Nat.le_add_right _ _
      refine ⟨h.fresh, h.client, h.table, ?_, h.waiting, ?_, h.stopped, h.debounced⟩
      · exact fun call t ht => (h.past call t ht).trans hle
      · intro g fire' hg ha hl
        obtain ⟨t, ht, hafter⟩ := h.live g fire' hg ha hl
        exact ⟨t, ht, hafter.later hle⟩

/-- **The debounce**: in every run of calls and timers, interleaved at every await, in
which each call for the alert finds every timer of it in the table and none with its
write under way, and each revoke no request of it that still waits, the flag of the
alert is set only where some request was issued a grace period ago and no call for it
since. -/
theorem cancel_debounced (reg : CancelRegistry) (a : String) {s : CancelState}
    (hs : (cancelSystem reg).Reached (StopsAll a) s) : Debounced reg a s.history := by
  have hinv : DebounceInv reg a s := by
    apply hs.invariant
    · rintro s ⟨htimers, hfires, hcalls, hhistory⟩
      refine ⟨fun f _ => hfires f, ?_, ?_, ?_, ?_, ?_, ?_, ?_⟩
      · simp [hfires]
      · simp [htimers]
      · simp [hhistory, lastCall]
      · simp [hcalls]
      · simp [hfires]
      · simp [hfires]
      · rw [hhistory]
        trivial
    · exact fun s l s' h hstops hstep => h.step hstops hstep
  exact hinv.debounced

/-- No call yet. -/
def CancelState.fresh : CancelState :=
  ⟨World.fresh, fun _ => none, fun _ => none, 0, fun _ => none, []⟩

/-- The registry of a worker, with the default grace period. -/
def workerRegistry : CancelRegistry := ⟨true, defaultGraceSec⟩

/-- The timer sleeps through the grace period, and its first two commands answer. -/
def timerFires (f : ℕ) : List CancelStep :=
  [.start f, .tick (defaultGraceSec * second), .wake f, .go f .returned, .go f .returned]

/-- One request, and its timer. -/
def oneRequest : List CancelStep :=
  .issue 0 .request "a1" :: .answer 0 .returned :: timerFires 0

theorem cancel_debounced_oneRequest :
    ∃ s, (cancelSystem workerRegistry).run CancelState.fresh oneRequest = some s ∧
      .flagged "a1" (5 * second) ∈ s.history ∧ Debounced workerRegistry "a1" s.history := by
  have hrun : ((cancelSystem workerRegistry).run CancelState.fresh oneRequest).any
      (fun s => decide (.flagged "a1" (5 * second) ∈ s.history)) = true := by
    decide +kernel
  obtain ⟨s, hs, hflag⟩ := (Option.any_eq_true _ _).mp hrun
  have hfirst : StopsAll "a1" CancelState.fresh (.issue 0 .request "a1") := by
    intro _
    constructor
    · intro f fire hf
      cases hf
    · intro hno
      cases hno
  have hmeets : (cancelSystem workerRegistry).Meets (StopsAll "a1") CancelState.fresh
      oneRequest := by
    refine ⟨hfirst, fun s1 _ => ?_⟩
    apply System.Meets.of_forall
    simp [timerFires, StopsAll]
  have hstart : (cancelSystem workerRegistry).start CancelState.fresh :=
    ⟨fun _ => rfl, fun _ => rfl, fun _ => rfl, rfl⟩
  exact ⟨s, hs, of_decide_eq_true hflag,
    cancel_debounced workerRegistry "a1" (hmeets.reached (.start hstart) hs)⟩

/-- A revoke while the request awaits its `SETEX`: it finds no timer to stop, and its
`DEL` comes before the `SETEX`. -/
def revokedEarly : List CancelStep :=
  .issue 0 .request "a1" :: .issue 1 .revoke "a1" :: .answer 1 .returned ::
    .answer 0 .returned :: timerFires 0

/-- The revoked cancel takes effect. -/
theorem revokedEarly_fires :
    ¬ ∀ s, (cancelSystem workerRegistry).Reachable s →
      Debounced workerRegistry "a1" s.history := by
  intro hall
  have hrun : ((cancelSystem workerRegistry).run CancelState.fresh revokedEarly).any
      (fun s => decide (s.history = [.flagged "a1" (5 * second), .issued .revoke "a1" 0,
        .issued .request "a1" 0])) = true := by decide +kernel
  obtain ⟨s, hs, hhistory⟩ := (Option.any_eq_true _ _).mp hrun
  have hreach := System.reached_of_run (S := cancelSystem workerRegistry)
    (.start ⟨fun _ => rfl, fun _ => rfl, fun _ => rfl, rfl⟩) hs
  have hdeb := hall s hreach
  rw [of_decide_eq_true hhistory] at hdeb
  obtain ⟨after, tr, before, heq, -, hafter⟩ := hdeb.1 rfl
  cases after with
  | nil => simp at heq
  | cons x rest =>
      obtain ⟨rfl, -⟩ := List.cons.inj heq
      exact hafter _ List.mem_cons_self rfl

end AlertTriage
