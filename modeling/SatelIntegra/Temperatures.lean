import SatelIntegra.Queries

/-!
# Temperature queries

A temperature is read over the network, and a zone whose reads keep failing is
blocked: calls with blocking then only count cycles, until a probe that allows it is
tried again. The snapshot a call decides by and the writes that follow are separate
blocks under the lock.
-/

namespace SatelIntegra

open CheckedAccess AtomicCalls

namespace ClientCall

def updateTempError (zoneId : UInt16) (error : SatelError) : ClientCall Unit := do
  let limits := tempLimits (← readConfig) zoneId
  let before ← underLock (.temperatureError zoneId error limits)
  let i := itemIndex 256 zoneId
  send (.zoneTemperatureError (itemId i) ((before.zones i).reportedStatus error))

/-- The reading before this one. -/
def updateTemperatureSuccessInternal (id : UInt16) (temp : HalfDegrees) :
    ClientCall HalfDegrees := do
  let before ← underLock (.temperatureSuccess id temp)
  return (before.zones (itemIndex 256 id)).temperatureValue

def getCachedZoneTemperature (zoneId : UInt16) : ClientCall ZoneTemperature := do
  let i := itemIndex 256 zoneId
  let cache ← underLock .look
  return (cache.zones i).toZoneTemperature (itemId i)

def temperatureRequest (zoneId : UInt16) : Frame :=
  [SatelCommand.readZoneTemperature.toByte, narrowNumber zoneId]

/-- Readings are multiples of half a degree, so two that differ do so by more than 0.01. -/
def takeTemperature (id : UInt16) (temp : HalfDegrees) : ClientCall ZoneTemperature := do
  let oldTemp ← updateTemperatureSuccessInternal id temp
  let config ← readConfig
  if config.emitUnchangedTemperatures || oldTemp != temp then
    send (.zoneTemperatureChanged id temp)
  getCachedZoneTemperature id

/-- The exchange and what follows from its answer. -/
def queryTemperature (zoneId : UInt16) (tempReadTimeout : Duration) :
    ClientCall ZoneTemperature := do
  match ← exchange (temperatureRequest zoneId) (some tempReadTimeout) with
  | .ok response =>
    match ← orPanic (processZoneTemperature response).run with
    | .ok (id, temp) => takeTemperature id temp
    | .error e =>
      updateTempError zoneId e
      throw (.returned e)
  | .error e =>
    updateTempError zoneId e
    throw (.returned (if e = .timeout then .temperatureNotSupportedOrTimeOut else e))

def getZoneTemperatureRawTimeout (zoneId : UInt16) :
    (timeout : Option Duration) → ClientCall ZoneTemperature
  | some timeout => queryTemperature zoneId timeout
  | none => do queryTemperature zoneId (millis (← readConfig).tempReadTimeoutMs.toNat)

def getZoneTemperatureRaw (zoneId : UInt16) : ClientCall ZoneTemperature :=
  getZoneTemperatureRawTimeout zoneId none

def resetTemperatureSensor (zoneId : UInt16) : ClientCall Unit := do
  if zoneId = 0 ∨ zoneId > 256 then
    throw (.returned (.invalidConfig s!"Invalid zone id: {zoneId}"))
  let _ ← underLock (.resetTemperature zoneId)

/-- What a call does for a zone its snapshot found blocked. The cycle count wraps, as in a release
build. -/
def stayBlocked (zoneId : UInt16) (limits : TempLimits) (info : ZoneItem) :
    ClientCall ZoneTemperature := do
  let newCycles := info.temperatureBlockedCycles + 1
  if limits.unblockEnabled && newCycles ≥ limits.unblockAfterCycles then
    let _ ← underLock (.unblock zoneId limits)
    throw (.returned .tempTooManyErrors)
  else
    let status := info.blockedStatus limits
    let _ ← underLock (.keepBlocked zoneId status newCycles)
    if (← readConfig).emitUnchangedTemperatures then
      send (.zoneTemperatureError zoneId status)
    throw (.returned .tempTooManyErrors)

def getZoneTemperatureWithBlocking (zoneId : UInt16) : ClientCall ZoneTemperature := do
  let limits := tempLimits (← readConfig) zoneId
  let info := (← underLock .look).zones (itemIndex 256 zoneId)
  if info.isBlocked limits then stayBlocked zoneId limits info
  else getZoneTemperatureRaw zoneId

def getZoneTemperature (zoneId : UInt16) : ClientCall ZoneTemperature := do
  if (← readConfig).tempBlockingEnabled then getZoneTemperatureWithBlocking zoneId
  else getZoneTemperatureRaw zoneId

end ClientCall

/-! ### What a temperature query does -/

/-- The zone and the temperature an answer gives, or the error it counts as. -/
def reading : Except SatelError Frame → Except SatelError (UInt16 × HalfDegrees)
  | .error e => .error e
  | .ok reply =>
    match temperatureReply reply with
    | some (zoneId, raw) =>
      if raw = 0xFFFF then .error .temperatureSensorError
      else .ok (zoneId, (raw.toNat : Int) - 110)
    | none => .error .invalidFrame

/-- A failed read is counted for the zone that was asked for, and reported. -/
def ClientWorld.countTempError (env : Surroundings) (zoneId : UInt16) (error : SatelError)
    (w : ClientWorld) : ClientWorld :=
  let i := itemIndex 256 zoneId
  (w.enter env (.temperatureError zoneId error (tempLimits w.config zoneId))).send
    (.zoneTemperatureError (itemId i) ((w.cache.zones i).reportedStatus error))

section Runs
variable {env : Surroundings} {w : ClientWorld} (zoneId : UInt16)

open ClientCall

@[simp] lemma run_updateTempError_bind {α : Type} (error : SatelError)
    (next : Unit → ClientCall α) :
    (updateTempError zoneId error >>= next).run (ClientOp.exec env) w =
      (next ()).run (ClientOp.exec env) (w.countTempError env zoneId error) := rfl

@[simp] lemma run_updateTemperatureSuccessInternal_bind {α : Type} (id : UInt16)
    (temp : HalfDegrees) (next : HalfDegrees → ClientCall α) :
    (updateTemperatureSuccessInternal id temp >>= next).run (ClientOp.exec env) w =
      (next (w.cache.zones (itemIndex 256 id)).temperatureValue).run (ClientOp.exec env)
        (w.enter env (.temperatureSuccess id temp)) := rfl

@[simp] lemma run_getCachedZoneTemperature :
    (getCachedZoneTemperature zoneId).run (ClientOp.exec env) w =
      (.ok ((w.cache.zones (itemIndex 256 zoneId)).toZoneTemperature (itemId (itemIndex 256 zoneId))),
        w.enter env .look) := rfl

lemma run_queryTemperature (tempReadTimeout : Duration) :
    (queryTemperature zoneId tempReadTimeout).run (ClientOp.exec env) w =
      match reading (env.answer w.asked (temperatureRequest zoneId)) with
      | .ok (id, temp) =>
        (takeTemperature id temp).run (ClientOp.exec env) (w.ask (temperatureRequest zoneId))
      | .error e =>
        (.error (.returned (if e = .timeout then .temperatureNotSupportedOrTimeOut else e)),
          (w.ask (temperatureRequest zoneId)).countTempError env zoneId e) := by
  rw [queryTemperature, CallTree.run_perform_bind, ClientOp.exec_exchange]
  cases env.answer w.asked (temperatureRequest zoneId) with
  | error e => rfl
  | ok response =>
    simp only [ExceptT.run, processZoneTemperature_eq, orPanic_ok, CallTree.run_pure_bind, reading]
    cases temperatureReply response with
    | none => rfl
    | some reply =>
      obtain ⟨id, raw⟩ := reply
      by_cases silent : raw = 0xFFFF
      · simp [silent]
      · simp [silent]

/-- The timeout decides how long the worker waits, and nothing here. -/
theorem run_getZoneTemperatureRawTimeout (timeout : Option Duration) :
    (getZoneTemperatureRawTimeout zoneId timeout).run (ClientOp.exec env) w =
      match reading (env.answer w.asked (temperatureRequest zoneId)) with
      | .ok (id, temp) =>
        (takeTemperature id temp).run (ClientOp.exec env) (w.ask (temperatureRequest zoneId))
      | .error e =>
        (.error (.returned (if e = .timeout then .temperatureNotSupportedOrTimeOut else e)),
          (w.ask (temperatureRequest zoneId)).countTempError env zoneId e) := by
  cases timeout with
  | none => exact run_queryTemperature zoneId _
  | some timeout => exact run_queryTemperature zoneId timeout

/-- A reading is stored for the zone it names, and read back for the caller. -/
lemma run_takeTemperature (id : UInt16) (temp : HalfDegrees) :
    let stored := w.enter env (.temperatureSuccess id temp)
    ∃ w', (takeTemperature id temp).run (ClientOp.exec env) w =
        (.ok ((stored.cache.zones (itemIndex 256 id)).toZoneTemperature (itemId (itemIndex 256 id))),
          w') ∧
      w'.cache = stored.cache ∧ w'.config = w.config ∧ w'.asked = w.asked ∧
      (w'.events = w.events ∨ w'.events = w.events ++ [.zoneTemperatureChanged id temp]) := by
  intro stored
  rw [takeTemperature, run_updateTemperatureSuccessInternal_bind, CallTree.run_perform_bind]
  by_cases changed : w.config.emitUnchangedTemperatures ||
      (w.cache.zones (itemIndex 256 id)).temperatureValue != temp
  · refine ⟨(stored.send (.zoneTemperatureChanged id temp)).enter env .look, ?_, rfl, rfl, rfl,
      .inr rfl⟩
    simp only [ClientOp.exec_readConfig, ClientWorld.config_enter, changed, if_true]
    rfl
  · refine ⟨stored.enter env .look, ?_, rfl, rfl, rfl, .inl rfl⟩
    simp only [ClientOp.exec_readConfig, ClientWorld.config_enter, changed]
    rfl

lemma run_stayBlocked (limits : TempLimits) (info : ZoneItem) :
    let newCycles := info.temperatureBlockedCycles + 1
    let result := (stayBlocked zoneId limits info).run (ClientOp.exec env) w
    result.1 = .error (.returned .tempTooManyErrors) ∧ result.2.config = w.config ∧
      result.2.asked = w.asked ∧
      result.2.cache =
        if limits.unblockEnabled ∧ newCycles ≥ limits.unblockAfterCycles then
          w.cache.modifyZone zoneId (.unblock limits)
        else w.cache.modifyZone zoneId (.keepBlocked (info.blockedStatus limits) newCycles) := by
  intro newCycles result
  by_cases due : limits.unblockEnabled = true ∧ newCycles ≥ limits.unblockAfterCycles
  · have run : result =
        (.error (.returned .tempTooManyErrors), w.enter env (.unblock zoneId limits)) := by
      simp only [result, stayBlocked]
      rw [if_pos (by simpa [newCycles] using due)]
      rfl
    rw [run, if_pos due]
    exact ⟨rfl, rfl, rfl, rfl⟩
  · rw [if_neg due]
    simp only [newCycles, ge_iff_le] at due
    by_cases emit : w.config.emitUnchangedTemperatures = true
    · simp [result, stayBlocked, due, emit, ItemCache.enter, newCycles]
    · simp [result, stayBlocked, due, emit, ItemCache.enter, newCycles]

lemma run_of_blocked
    (blocked : (w.cache.zones (itemIndex 256 zoneId)).isBlocked (tempLimits w.config zoneId) = true) :
    (getZoneTemperatureWithBlocking zoneId).run (ClientOp.exec env) w =
      (stayBlocked zoneId (tempLimits w.config zoneId)
        (w.cache.zones (itemIndex 256 zoneId))).run (ClientOp.exec env) w.readClock := by
  simp only [getZoneTemperatureWithBlocking, CallTree.run_perform_bind,
    ClientOp.exec_readConfig, ClientOp.exec_underLock]
  exact congrArg (fun call : ClientCall ZoneTemperature =>
    call.run (ClientOp.exec env) w.readClock) (if_pos blocked)

/-- What a call with blocking does: a read, a step of the cycle count, or an unblocking. -/
theorem run_getZoneTemperatureWithBlocking :
    let limits := tempLimits w.config zoneId
    let info := w.cache.zones (itemIndex 256 zoneId)
    let newCycles := info.temperatureBlockedCycles + 1
    let result := (getZoneTemperatureWithBlocking zoneId).run (ClientOp.exec env) w
    if info.isBlocked limits then
      result.1 = .error (.returned .tempTooManyErrors) ∧ result.2.config = w.config ∧
        result.2.asked = w.asked ∧
        result.2.cache =
          if limits.unblockEnabled ∧ newCycles ≥ limits.unblockAfterCycles then
            w.cache.modifyZone zoneId (.unblock limits)
          else w.cache.modifyZone zoneId (.keepBlocked (info.blockedStatus limits) newCycles)
    else
      result = (getZoneTemperatureRaw zoneId).run (ClientOp.exec env) w.readClock := by
  intro limits info newCycles result
  by_cases blocked : info.isBlocked limits = true
  · rw [if_pos blocked]
    have run : result = (stayBlocked zoneId limits info).run (ClientOp.exec env) w.readClock :=
      run_of_blocked zoneId blocked
    rw [run]
    exact run_stayBlocked zoneId limits info
  · rw [if_neg blocked]
    simp only [result, getZoneTemperatureWithBlocking, CallTree.run_perform_bind,
      ClientOp.exec_readConfig, ClientOp.exec_underLock]
    exact congrArg (fun call : ClientCall ZoneTemperature =>
      call.run (ClientOp.exec env) w.readClock) (if_neg blocked)

end Runs
end SatelIntegra
