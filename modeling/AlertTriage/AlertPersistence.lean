import AlertTriage.Runtime.World

/-!
# `services/alert_persistence.py`

Where verdicts are kept: under `soc:verdict:{alert_id}` in Redis, without a
lifetime, or in the memory of the process when Redis is not enabled.
-/

namespace AlertTriage

open Library

/-- `TriageVerdict.model_dump_json()`, which raises on values it cannot write,
and `model_validate_json`, which reads back what was written. -/
structure VerdictCodec where
  modelDumpJson : TriageVerdict → Except PyExn String
  modelValidateJson : String → Except PyExn TriageVerdict
  validate_dump : ∀ v text, modelDumpJson v = .ok text →
    text ≠ "" ∧ modelValidateJson text = .ok v

/-- The store: in Redis or in memory. -/
structure AlertPersistence where
  usesRedis : Bool
deriving DecidableEq, Repr

def verdictKey (alertId : String) : String := "soc:verdict:" ++ alertId

/-- `put_verdict`. -/
def putVerdict (p : AlertPersistence) (codec : VerdictCodec) (o : Outcome)
    (alertId : String) (verdict : TriageVerdict) : Io Unit :=
  if p.usesRedis then do
    let text ← Run.ofExcept (codec.modelDumpJson verdict)
    redisSet o (verdictKey alertId) (.text text)
  else
    Run.modify fun w =>
      { w with memVerdicts := Json.upsert alertId verdict w.memVerdicts }

/-- What the text under a key says: nothing where it is absent or empty. -/
def readVerdict (codec : VerdictCodec) :
    Option RedisValue → Except PyExn (Option TriageVerdict)
  | none => .ok none
  | some value =>
      if value.toText = "" then .ok none
      else (codec.modelValidateJson value.toText).map some

/-- `get_verdict`. -/
def getVerdict (p : AlertPersistence) (codec : VerdictCodec) (o : Outcome)
    (alertId : String) : Io (Option TriageVerdict) :=
  if p.usesRedis then do
    let raw ← redisGet o (verdictKey alertId)
    Run.ofExcept (readVerdict codec raw)
  else do
    let w ← Run.get
    return Json.lookup alertId w.memVerdicts

/-- The verdict on record for an alert. -/
def World.verdictOf (p : AlertPersistence) (codec : VerdictCodec)
    (alertId : String) (w : World) : Except PyExn (Option TriageVerdict) :=
  if p.usesRedis then readVerdict codec (w.lookup (verdictKey alertId))
  else .ok (Json.lookup alertId w.memVerdicts)

/-- A read that is answered answers what is on record, and changes nothing. -/
theorem getVerdict_returned (p : AlertPersistence) (codec : VerdictCodec)
    (alertId : String) (w : World) :
    getVerdict p codec .returned alertId w =
      Run.ofExcept (w.verdictOf p codec alertId) w := by
  unfold getVerdict World.verdictOf
  split
  · rfl
  · rfl

/-- A read that answers answers what is on record. -/
theorem verdictOf_of_getVerdict {p : AlertPersistence} {codec : VerdictCodec}
    {o : Outcome} {alertId : String} {w w' : World}
    {found : Option TriageVerdict}
    (h : getVerdict p codec o alertId w = (.ok found, w')) :
    w.verdictOf p codec alertId = .ok found := by
  cases hp : p.usesRedis with
  | false =>
      have heq := congrArg Prod.fst h
      simp only [getVerdict, hp, Bool.false_eq_true, if_false, Run.bind_apply,
        Run.get_apply, Run.pure_apply] at heq
      simpa [World.verdictOf, hp] using heq
  | true =>
      cases o with
      | returned =>
          rw [getVerdict_returned] at h
          cases hv : w.verdictOf p codec alertId with
          | error x =>
              rw [hv] at h
              exact absurd (congrArg Prod.fst h) (by simp [Run.ofExcept])
          | ok found' =>
              rw [hv] at h
              exact congrArg Except.ok (Except.ok.inj (congrArg Prod.fst h))
      | raised b =>
          apply absurd (congrArg Prod.fst h)
          simp [getVerdict, hp, Run.bind_apply, redisGet, Run.call]
      | killed b =>
          apply absurd (congrArg Prod.fst h)
          simp [getVerdict, hp, Run.bind_apply, redisGet, Run.call]

/-- **A stored verdict is read back**: after a `put_verdict` that answered, the
verdict is on record for its alert. -/
theorem verdictOf_putVerdict (p : AlertPersistence) (codec : VerdictCodec)
    (o : Outcome) (alertId : String) (verdict : TriageVerdict) {w w' : World}
    (h : putVerdict p codec o alertId verdict w = (.ok (), w')) :
    w'.verdictOf p codec alertId = .ok (some verdict) := by
  unfold putVerdict at h
  unfold World.verdictOf
  split at h
  · rename_i hp
    rw [if_pos hp]
    cases hd : codec.modelDumpJson verdict with
    | error x =>
        rw [hd] at h
        exact absurd (congrArg Prod.fst h) (by simp [Run.ofExcept, Run.bind_apply])
    | ok text =>
        rw [hd] at h
        obtain ⟨hne, hv⟩ := codec.validate_dump verdict text hd
        have hw : w' = w.set (verdictKey alertId) (.text text) := by
          cases o with
          | returned => exact (congrArg Prod.snd h).symm
          | raised b => exact absurd (congrArg Prod.fst h) (by
              simp [Run.ofExcept, Run.bind_apply, redisSet, Run.call])
          | killed b => exact absurd (congrArg Prod.fst h) (by
              simp [Run.ofExcept, Run.bind_apply, redisSet, Run.call])
        have hl : w'.lookup (verdictKey alertId) = some (.text text) := by
          rw [hw]
          exact TtlStore.get_set
        rw [hl]
        simp [readVerdict, RedisValue.toText, hne, hv, Except.map]
  · rename_i hp
    rw [if_neg hp]
    have hw : w' = _ := (congrArg Prod.snd h).symm
    rw [hw]
    exact congrArg Except.ok (Json.lookup_upsert alertId verdict w.memVerdicts)

end AlertTriage
