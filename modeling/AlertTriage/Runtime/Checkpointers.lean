import AlertTriage.Library.JsonRoundTrip
import AlertTriage.Library.Transition

/-!
# `services/_runtime/checkpoint_redis_ttl.py`

`get_checkpointer` has one await, at the set-up of a saver that it has already put into the
cache. So calls interleave there: one that comes in meanwhile is handed the saver as it is. A
saver whose set-up failed stays in the cache, and one that replaces a saver dropped by an
override is taken for set up. Every saver that is handed out has the TTL that was in force when
its call began; all of them are set up exactly in the runs without these three
(`handed_sound_iff`).
-/

namespace AlertTriage

open Library

/-! ## §1  The factory -/

/-- `_ttl_minutes`: rounded up. -/
def ttlMinutes (seconds : ℤ) : ℤ := max 1 ((seconds + 59) / 60)

/-- `_cache_key`. -/
def ttlKey (ttlSec : ℤ) : String := "ttl:" ++ String.ofList (Json.renderInt ttlSec)

/-- An `AsyncRedisSaver`, by when it was built; its TTL is in minutes. -/
structure Saver where
  id : ℕ
  defaultTtl : ℤ
deriving DecidableEq, Repr

/-- A call at the await: the TTL in force when it began, and the saver that is being set up. -/
structure SetupCall where
  ttl : ℤ
  saver : Saver
deriving DecidableEq, Repr

/-- A saver that a call returned, with the TTL in force when the call began, and whether its
set-up was done by then. -/
structure HandedSaver where
  ttl : ℤ
  saver : Saver
  ready : Bool
deriving DecidableEq, Repr

/-- A `CheckpointerFactory` and its calls. -/
structure FactoryState where
  defaultTtl : ℤ
  tenantOverrides : List (String × ℤ)
  cache : List (String × Saver)
  setupDone : List String
  built : ℕ
  ready : List ℕ
  waiting : List SetupCall
  handed : List HandedSaver

namespace FactoryState

/-- `_ttl_for`: an empty tenant is none. -/
def ttlFor (s : FactoryState) (tenant : Option String) : ℤ :=
  ((tenant.filter (· != "")).bind fun t => Json.lookup t s.tenantOverrides).getD s.defaultTtl

/-- The call returns the saver. -/
def hand (s : FactoryState) (ttl : ℤ) (saver : Saver) : FactoryState :=
  { s with handed := s.handed ++ [⟨ttl, saver, decide (saver.id ∈ s.ready)⟩] }

/-- `_build`, put into the cache. -/
def build (s : FactoryState) (ttl : ℤ) : FactoryState :=
  { s with
    cache := Json.upsert (ttlKey ttl) ⟨s.built, ttlMinutes ttl⟩ s.cache
    built := s.built + 1 }

/-- `get_checkpointer` up to its await, or its end. -/
def getCheckpointer (s : FactoryState) (tenant : Option String) : FactoryState :=
  let ttl := s.ttlFor tenant
  match Json.lookup (ttlKey ttl) s.cache with
  | some existing => s.hand ttl existing
  | none =>
      let saver : Saver := ⟨s.built, ttlMinutes ttl⟩
      if ttlKey ttl ∈ s.setupDone then (s.build ttl).hand ttl saver
      else { s.build ttl with waiting := s.waiting ++ [⟨ttl, saver⟩] }

/-- `await saver.asetup()` ends: the call goes on, and a failure is logged. -/
def setupEnds (s : FactoryState) (call : SetupCall) (ok : Bool) : FactoryState :=
  let s := { s with waiting := s.waiting.filter fun c => c.saver.id != call.saver.id }
  if ok then
    { s with
      ready := s.ready ++ [call.saver.id]
      setupDone := s.setupDone ++ [ttlKey call.ttl] }.hand call.ttl call.saver
  else s.hand call.ttl call.saver

/-- `set_tenant_override`, which refuses a TTL that is not positive. -/
def setTenantOverride (s : FactoryState) (tenant : String) (ttl : ℤ) : FactoryState :=
  if ttl ≤ 0 then s
  else
    { s with
      tenantOverrides := Json.upsert tenant ttl s.tenantOverrides
      cache := Json.remove (ttlKey ttl) s.cache }

end FactoryState

/-- A step of the event loop; which set-up ends, and how, is the environment's. -/
inductive FactoryEvent where
  | get (tenant : Option String)
  | setupEnds (saver : ℕ) (ok : Bool)
  | override (tenant : String) (ttl : ℤ)

/-- A factory just built, with any default and overrides. -/
def freshFactory (defaultTtl : ℤ) (tenantOverrides : List (String × ℤ)) : FactoryState where
  defaultTtl := defaultTtl
  tenantOverrides := tenantOverrides
  cache := []
  setupDone := []
  built := 0
  ready := []
  waiting := []
  handed := []

def checkpointers : System FactoryState FactoryEvent where
  start s := ∃ defaultTtl tenantOverrides, s = freshFactory defaultTtl tenantOverrides
  step s
    | .get tenant => some (s.getCheckpointer tenant)
    | .setupEnds id ok => (s.waiting.find? fun c => c.saver.id == id).map (s.setupEnds · ok)
    | .override tenant ttl => some (s.setTenantOverride tenant ttl)

/-! ## §2  What is expected of it -/

/-- Every saver that was handed out was set up by then, for the TTL in force when its call
began. -/
def SoundHanded (s : FactoryState) : Prop :=
  ∀ h ∈ s.handed, h.ready = true ∧ h.saver.defaultTtl = ttlMinutes h.ttl

/-- The set-up of the saver is awaited. -/
def FactoryState.Awaits (s : FactoryState) (saver : Saver) : Prop :=
  ∃ c ∈ s.waiting, c.saver.id = saver.id

/-- The step meets no saver in the cache that is still being set up, replaces none that was set
up before, and is no failure of a set-up. -/
def SetUpFirst (s : FactoryState) : FactoryEvent → Prop
  | .get tenant =>
      (∀ saver, Json.lookup (ttlKey (s.ttlFor tenant)) s.cache = some saver →
        ¬ s.Awaits saver) ∧
      (Json.lookup (ttlKey (s.ttlFor tenant)) s.cache = none →
        ttlKey (s.ttlFor tenant) ∉ s.setupDone)
  | .setupEnds id ok => ok = true ∨ ∀ c ∈ s.waiting, c.saver.id ≠ id
  | .override _ _ => True

/-! ## §3  The invariant -/

/-- Savers are told apart, those awaited are not ready, and those in the cache are awaited or
ready, unless some call was handed one that was not. -/
structure FactoryInv (s : FactoryState) : Prop where
  ready_built : ∀ id ∈ s.ready, id < s.built
  waiting_built : ∀ c ∈ s.waiting, c.saver.id < s.built
  waiting_not_ready : ∀ c ∈ s.waiting, c.saver.id ∉ s.ready
  waiting_ttl : ∀ c ∈ s.waiting, c.saver.defaultTtl = ttlMinutes c.ttl
  handed_ttl : ∀ h ∈ s.handed, h.saver.defaultTtl = ttlMinutes h.ttl
  cache_ttl : ∀ p ∈ s.cache, ∃ ttl, p.1 = ttlKey ttl ∧ p.2.defaultTtl = ttlMinutes ttl
  cache_known : ∀ p ∈ s.cache, s.Awaits p.2 ∨ p.2.id ∈ s.ready ∨ ∃ h ∈ s.handed, h.ready = false

theorem ttlKey_injective {i j : ℤ} (h : ttlKey i = ttlKey j) : i = j := by
  apply Json.renderInt_injective
  have hlists := congrArg String.toList h
  simpa [ttlKey] using hlists

theorem inv_fresh (defaultTtl : ℤ) (tenantOverrides : List (String × ℤ)) :
    FactoryInv (freshFactory defaultTtl tenantOverrides) := by
  constructor <;> exact fun _ h => absurd h List.not_mem_nil

namespace FactoryInv

variable {s : FactoryState}

/-- A saver that is looked up was built for the TTL. -/
theorem lookup_ttl (hi : FactoryInv s) {ttl : ℤ} {saver : Saver}
    (h : Json.lookup (ttlKey ttl) s.cache = some saver) :
    saver.defaultTtl = ttlMinutes ttl ∧
      (s.Awaits saver ∨ saver.id ∈ s.ready ∨ ∃ h ∈ s.handed, h.ready = false) := by
  have hmem := Json.mem_of_lookup h
  obtain ⟨ttl', hkey, hsaver⟩ := hi.cache_ttl _ hmem
  obtain rfl := ttlKey_injective hkey
  exact ⟨hsaver, hi.cache_known _ hmem⟩

/-- Handing out a saver that was built for the TTL. -/
theorem hand (hi : FactoryInv s) {ttl : ℤ} {saver : Saver}
    (h : saver.defaultTtl = ttlMinutes ttl) : FactoryInv (s.hand ttl saver) where
  ready_built := hi.ready_built
  waiting_built := hi.waiting_built
  waiting_not_ready := hi.waiting_not_ready
  waiting_ttl := hi.waiting_ttl
  handed_ttl := by
    intro h' hh'
    rcases List.mem_append.mp hh' with hh' | hh'
    · exact hi.handed_ttl h' hh'
    · obtain rfl := List.mem_singleton.mp hh'
      exact h
  cache_ttl := hi.cache_ttl
  cache_known := by
    intro p hp
    rcases hi.cache_known p hp with hawaits | hready | ⟨h', hh', hfalse⟩
    · exact .inl hawaits
    · exact .inr (.inl hready)
    · exact .inr (.inr ⟨h', List.mem_append_left _ hh', hfalse⟩)

/-- A saver that is built and handed out at once, or waits for its set-up: all that the invariant
needs of the state after `_build`. -/
theorem build_known (hi : FactoryInv s) {t : FactoryState} {ttl : ℤ}
    (hawaits : ∀ saver, s.Awaits saver → t.Awaits saver) (hready : t.ready = s.ready)
    (hhanded : ∀ h ∈ s.handed, h ∈ t.handed)
    (hnew : t.Awaits ⟨s.built, ttlMinutes ttl⟩ ∨ ∃ h ∈ t.handed, h.ready = false) :
    ∀ p ∈ Json.upsert (ttlKey ttl) (⟨s.built, ttlMinutes ttl⟩ : Saver) s.cache,
      t.Awaits p.2 ∨ p.2.id ∈ t.ready ∨ ∃ h ∈ t.handed, h.ready = false := by
  intro p hp
  rcases Json.mem_upsert hp with rfl | hp
  · exact hnew.imp id .inr
  · rcases hi.cache_known p hp with h | h | ⟨h, hh, hfalse⟩
    · exact .inl (hawaits _ h)
    · exact .inr (.inl (hready ▸ h))
    · exact .inr (.inr ⟨h, hhanded h hh, hfalse⟩)

theorem build_ttl (hi : FactoryInv s) (ttl : ℤ) :
    ∀ p ∈ Json.upsert (ttlKey ttl) (⟨s.built, ttlMinutes ttl⟩ : Saver) s.cache,
      ∃ ttl, p.1 = ttlKey ttl ∧ p.2.defaultTtl = ttlMinutes ttl := by
  intro p hp
  rcases Json.mem_upsert hp with rfl | hp
  · exact ⟨ttl, rfl, rfl⟩
  · exact hi.cache_ttl p hp

/-- The id of the next saver is new. -/
theorem built_not_ready (hi : FactoryInv s) : s.built ∉ s.ready := fun h =>
  Nat.lt_irrefl _ (hi.ready_built _ h)

theorem getCheckpointer (hi : FactoryInv s) (tenant : Option String) :
    FactoryInv (s.getCheckpointer tenant) := by
  unfold FactoryState.getCheckpointer
  dsimp only
  cases hcached : Json.lookup (ttlKey (s.ttlFor tenant)) s.cache with
  | some existing => exact hi.hand (hi.lookup_ttl hcached).1
  | none =>
      dsimp only
      split
      · -- the mark of an earlier saver: the new one is handed out as it is
        constructor
        · exact fun id hid => Nat.lt_succ_of_lt (hi.ready_built id hid)
        · exact fun c hc => Nat.lt_succ_of_lt (hi.waiting_built c hc)
        · exact hi.waiting_not_ready
        · exact hi.waiting_ttl
        · intro h hh
          rcases List.mem_append.mp hh with hh | hh
          · exact hi.handed_ttl h hh
          · obtain rfl := List.mem_singleton.mp hh
            rfl
        · exact hi.build_ttl _
        · refine hi.build_known (fun _ h => h) rfl (fun h hh => List.mem_append_left _ hh)
            (.inr ⟨_, List.mem_append_right _ (List.mem_singleton_self _), ?_⟩)
          exact decide_eq_false hi.built_not_ready
      · have hwaiting {c : SetupCall} (hc : c ∈ s.waiting ++
            [(⟨s.ttlFor tenant, ⟨s.built, ttlMinutes (s.ttlFor tenant)⟩⟩ : SetupCall)]) :
            c ∈ s.waiting ∨
              c = ⟨s.ttlFor tenant, ⟨s.built, ttlMinutes (s.ttlFor tenant)⟩⟩ :=
          (List.mem_append.mp hc).imp_right List.mem_singleton.mp
        constructor
        · exact fun id hid => Nat.lt_succ_of_lt (hi.ready_built id hid)
        · intro c hc
          rcases hwaiting hc with hc | rfl
          · exact Nat.lt_succ_of_lt (hi.waiting_built c hc)
          · exact Nat.lt_succ_self _
        · intro c hc
          rcases hwaiting hc with hc | rfl
          · exact hi.waiting_not_ready c hc
          · exact hi.built_not_ready
        · intro c hc
          rcases hwaiting hc with hc | rfl
          · exact hi.waiting_ttl c hc
          · rfl
        · exact hi.handed_ttl
        · exact hi.build_ttl _
        · refine hi.build_known (fun saver h => ?_) rfl (fun _ hh => hh)
            (.inl ⟨_, List.mem_append_right _ (List.mem_singleton_self _), rfl⟩)
          obtain ⟨c, hc, hid⟩ := h
          exact ⟨c, List.mem_append_left _ hc, hid⟩

theorem setupEnds (hi : FactoryInv s) {call : SetupCall} (hcall : call ∈ s.waiting) (ok : Bool) :
    FactoryInv (s.setupEnds call ok) := by
  -- the other calls go on waiting
  have hrest {saver : Saver} (h : s.Awaits saver) : saver.id = call.saver.id ∨
      ∃ c ∈ s.waiting.filter fun c => c.saver.id != call.saver.id, c.saver.id = saver.id := by
    obtain ⟨c, hc, hid⟩ := h
    by_cases hsame : c.saver.id = call.saver.id
    · exact .inl (hid.symm.trans hsame)
    · exact .inr ⟨c, List.mem_filter.mpr ⟨hc, bne_iff_ne.mpr hsame⟩, hid⟩
  have hold {c : SetupCall}
      (hc : c ∈ s.waiting.filter fun c => c.saver.id != call.saver.id) : c ∈ s.waiting :=
    List.mem_of_mem_filter hc
  unfold FactoryState.setupEnds
  cases ok with
  | true =>
      refine FactoryInv.hand (s := { s with
        waiting := s.waiting.filter fun c => c.saver.id != call.saver.id
        ready := s.ready ++ [call.saver.id]
        setupDone := s.setupDone ++ [ttlKey call.ttl] }) ?_ (hi.waiting_ttl call hcall)
      constructor
      · intro id hid
        rcases List.mem_append.mp hid with hid | hid
        · exact hi.ready_built id hid
        · obtain rfl := List.mem_singleton.mp hid
          exact hi.waiting_built call hcall
      · exact fun c hc => hi.waiting_built c (hold hc)
      · intro c hc hid
        rcases List.mem_append.mp hid with hid | hid
        · exact hi.waiting_not_ready c (hold hc) hid
        · have hne := (List.mem_filter.mp hc).2
          exact bne_iff_ne.mp hne (List.mem_singleton.mp hid)
      · exact fun c hc => hi.waiting_ttl c (hold hc)
      · exact hi.handed_ttl
      · exact hi.cache_ttl
      · intro p hp
        rcases hi.cache_known p hp with hawaits | hready | hhanded
        · rcases hrest hawaits with hid | hawaits
          · exact .inr (.inl (List.mem_append_right _ (List.mem_singleton.mpr hid)))
          · exact .inl hawaits
        · exact .inr (.inl (List.mem_append_left _ hready))
        · exact .inr (.inr hhanded)
  | false =>
      constructor
      · exact hi.ready_built
      · exact fun c hc => hi.waiting_built c (hold hc)
      · exact fun c hc => hi.waiting_not_ready c (hold hc)
      · exact fun c hc => hi.waiting_ttl c (hold hc)
      · intro h hh
        rcases List.mem_append.mp hh with hh | hh
        · exact hi.handed_ttl h hh
        · obtain rfl := List.mem_singleton.mp hh
          exact hi.waiting_ttl call hcall
      · exact hi.cache_ttl
      · intro p hp
        rcases hi.cache_known p hp with hawaits | hready | ⟨h, hh, hfalse⟩
        · rcases hrest hawaits with - | hawaits
          · refine .inr (.inr ⟨_, List.mem_append_right _ (List.mem_singleton_self _), ?_⟩)
            exact decide_eq_false (hi.waiting_not_ready call hcall)
          · exact .inl hawaits
        · exact .inr (.inl hready)
        · exact .inr (.inr ⟨h, List.mem_append_left _ hh, hfalse⟩)

theorem setTenantOverride (hi : FactoryInv s) (tenant : String) (ttl : ℤ) :
    FactoryInv (s.setTenantOverride tenant ttl) := by
  unfold FactoryState.setTenantOverride
  split
  · exact hi
  · exact { hi with
      cache_ttl := fun p hp => hi.cache_ttl p (List.mem_of_mem_filter hp)
      cache_known := fun p hp => hi.cache_known p (List.mem_of_mem_filter hp) }

end FactoryInv

theorem factoryInv_step {s s' : FactoryState} {e : FactoryEvent}
    (h : checkpointers.step s e = some s') (hi : FactoryInv s) : FactoryInv s' := by
  cases e with
  | get tenant =>
      obtain rfl := Option.some.inj h
      exact hi.getCheckpointer tenant
  | setupEnds id ok =>
      obtain ⟨call, hcall, rfl⟩ := Option.map_eq_some_iff.mp h
      exact hi.setupEnds (List.mem_of_find?_eq_some hcall) ok
  | override tenant ttl =>
      obtain rfl := Option.some.inj h
      exact hi.setTenantOverride tenant ttl

/-! ## §4  When all that is handed out is set up -/

/-- What a further saver makes of soundness. -/
theorem soundHanded_hand {s : FactoryState} (hp : SoundHanded s) {ttl : ℤ} {saver : Saver}
    (h : saver.defaultTtl = ttlMinutes ttl) :
    SoundHanded (s.hand ttl saver) ↔ saver.id ∈ s.ready := by
  constructor
  · intro hs
    have hnew := hs _ (List.mem_append_right _ (List.mem_singleton_self _))
    exact of_decide_eq_true hnew.1
  · intro hready h' hh'
    rcases List.mem_append.mp hh' with hh' | hh'
    · exact hp h' hh'
    · obtain rfl := List.mem_singleton.mp hh'
      exact ⟨decide_eq_true hready, h⟩

theorem setUpFirst_get {s : FactoryState} (hi : FactoryInv s) (hp : SoundHanded s)
    (tenant : Option String) :
    SetUpFirst s (.get tenant) ↔ SoundHanded (s.getCheckpointer tenant) := by
  unfold FactoryState.getCheckpointer
  unfold SetUpFirst
  dsimp only
  cases hcached : Json.lookup (ttlKey (s.ttlFor tenant)) s.cache with
  | some existing =>
      obtain ⟨httl, hknown⟩ := hi.lookup_ttl hcached
      dsimp only
      rw [soundHanded_hand hp httl]
      constructor
      · rintro ⟨hawaits, -⟩
        rcases hknown with h | h | ⟨h, hh, hfalse⟩
        · exact absurd h (hawaits existing rfl)
        · exact h
        · rw [(hp h hh).1] at hfalse
          cases hfalse
      · intro hready
        refine ⟨?_, fun hnone => absurd hnone (Option.some_ne_none existing)⟩
        rintro saver hsaver ⟨c, hc, hid⟩
        obtain rfl := Option.some.inj hsaver
        exact hi.waiting_not_ready c hc (hid ▸ hready)
  | none =>
      dsimp only
      split
      · rename_i hdone
        refine iff_of_false (fun h => h.2 rfl hdone) fun h => ?_
        have hready := (soundHanded_hand (s := s.build _) hp rfl).mp h
        exact hi.built_not_ready hready
      · rename_i hdone
        exact iff_of_true ⟨fun saver hsome => absurd hsome.symm (Option.some_ne_none saver),
          fun _ => hdone⟩ hp

theorem setUpFirst_setupEnds {s : FactoryState} (hi : FactoryInv s) (hp : SoundHanded s)
    {call : SetupCall} (hcall : call ∈ s.waiting) (ok : Bool) :
    ok = true ↔ SoundHanded (s.setupEnds call ok) := by
  unfold FactoryState.setupEnds
  cases ok with
  | true =>
      refine iff_of_true rfl ((soundHanded_hand ?_ (hi.waiting_ttl call hcall)).mpr ?_)
      · exact hp
      · exact List.mem_append_right _ (List.mem_singleton_self _)
  | false =>
      refine iff_of_false Bool.false_ne_true fun h => ?_
      have hready := (soundHanded_hand (s := { s with waiting := _ }) hp
        (hi.waiting_ttl call hcall)).mp h
      exact hi.waiting_not_ready call hcall hready

/-- A step keeps all sound exactly when it meets the condition. -/
theorem setUpFirst_iff {s : FactoryState} (e : FactoryEvent) (hi : FactoryInv s)
    (hp : SoundHanded s) :
    SetUpFirst s e ↔ ∀ s', checkpointers.step s e = some s' → SoundHanded s' := by
  cases e with
  | get tenant =>
      rw [setUpFirst_get hi hp]
      exact ⟨fun h s' hs => Option.some.inj hs ▸ h, fun h => h _ rfl⟩
  | setupEnds id ok =>
      show (ok = true ∨ ∀ c ∈ s.waiting, c.saver.id ≠ id) ↔ _
      show _ ↔ ∀ s', (s.waiting.find? fun c => c.saver.id == id).map (s.setupEnds · ok) = some s' → _
      -- an end of a setup that nobody waits for changes nothing
      cases hfind : s.waiting.find? fun c => c.saver.id == id with
      | none =>
          refine iff_of_true (.inr fun c hc hid => ?_) fun s' hs =>
            absurd hs.symm (Option.some_ne_none s')
          exact absurd (beq_iff_eq.mpr hid) (List.find?_eq_none.mp hfind c hc)
      | some call =>
          have hcall := List.mem_of_find?_eq_some hfind
          have hid : (call.saver.id == id) = true := by
            have hsome := List.find?_some hfind
            exact hsome
          have hends := setUpFirst_setupEnds hi hp hcall ok
          constructor
          · rintro (hok | hnone) s' hs
            · exact Option.some.inj hs ▸ hends.mp hok
            · exact absurd (eq_of_beq hid) (hnone call hcall)
          · exact fun h => .inl (hends.mpr (h _ rfl))
  | override tenant ttl =>
      refine iff_of_true trivial fun s' hs => ?_
      obtain rfl := Option.some.inj hs
      show SoundHanded (s.setTenantOverride tenant ttl)
      unfold FactoryState.setTenantOverride
      split
      · exact hp
      · exact hp

/-- **Checkpointers**: whatever is handed out in a run is set up by then, for the TTL in force
when its call began, exactly when no call meets a saver that is still being set up or replaces
one that was, and no set-up fails. -/
theorem handed_sound_iff (defaultTtl : ℤ) (tenantOverrides : List (String × ℤ))
    (events : List FactoryEvent) :
    checkpointers.Throughout SoundHanded (freshFactory defaultTtl tenantOverrides) events ↔
      checkpointers.Meets SetUpFirst (freshFactory defaultTtl tenantOverrides) events :=
  System.throughout_iff_meets (fun _ _ _ h hi => factoryInv_step h hi)
    (fun _ e hi hp => setUpFirst_iff e hi hp) (inv_fresh defaultTtl tenantOverrides)
    fun _ h => absurd h List.not_mem_nil

/-- Two calls for the default TTL, the second while the saver is set up for the first. -/
theorem handed_unready :
    ¬ ∀ (defaultTtl : ℤ) (tenantOverrides : List (String × ℤ)) (events : List FactoryEvent),
      checkpointers.Throughout SoundHanded (freshFactory defaultTtl tenantOverrides) events := by
  intro h
  have hlast := (h 600 [] [.get (some "acme"), .get (some "globex")]).last rfl
  exact absurd (hlast ⟨600, ⟨0, 10⟩, false⟩ (by decide)).1 Bool.false_ne_true

end AlertTriage
