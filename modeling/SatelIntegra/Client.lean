import SatelIntegra.AtomicCalls
import SatelIntegra.AutoRead
import SatelIntegra.ConfigValidation
import SatelIntegra.ItemCache
import SatelIntegra.World

/-!
# Operations of the client

Each access of a client function to shared data is one operation: a lock of the
configuration, an atomic flag, a block under the lock of the cache, a broadcast, or
a request to the worker together with its answer. What the worker answers, what the
clock says and whether a connection succeeds comes from `Surroundings`.
-/

namespace SatelIntegra

open CheckedAccess AtomicCalls

inductive ItemKind where
  | zone
  | output
  | partition
  deriving DecidableEq, Repr

/-- The device type a session uses for a kind of object, and whether the panel confirmed it. -/
structure SessionLevel where
  type : UInt8
  confirmed : Bool
  deriving DecidableEq, Repr

def ItemKind.topType : ItemKind → (extended : Bool) → UInt8
  | .zone, extended => if extended then 5 else 1
  | .output, extended => if extended then 17 else 4
  | .partition, extended => if extended then 19 else 0

/-- The events queries and reloads send. -/
inductive QueryEvent where
  | zoneNameReceived (id : UInt16) (name : String)
  | zoneParamsReceived (id : UInt16) (params : ZoneParams)
  | outputNameReceived (id : UInt16) (name : String)
  | outputParamsReceived (id : UInt16) (params : OutputParams)
  | partitionNameReceived (id : UInt16) (name : String)
  | partitionParamsReceived (id : UInt16) (params : PartitionParams)
  | zoneTemperatureChanged (id : UInt16) (temperature : HalfDegrees)
  | zoneTemperatureError (id : UInt16) (status : TemperatureSensorStatus)
  | configUpdated
  deriving DecidableEq, Repr

/-- `swapConfig` is the block of `hot_reload_config` under the lock, and answers with the old
configuration. The stores of a reset are apart from those of a query. -/
inductive ClientOp where
  | readConfig
  | swapConfig (newConfig : Config)
  | markAutoReadDirty
  | loadType (kind : ItemKind)
  | loadConfirmed (kind : ItemKind)
  | storeType (kind : ItemKind) (type : UInt8)
  | storeConfirmed (kind : ItemKind)
  | resetType (kind : ItemKind) (type : UInt8)
  | resetConfirmed (kind : ItemKind)
  | exchange (data : Frame) (readTimeout : Option Duration)
  | localNow
  | underLock (code : CacheSection)
  | send (event : QueryEvent)
  | takeWorker
  | awaitConnect

abbrev ClientOp.Answer : ClientOp → Type
  | readConfig | swapConfig _ => Config
  | loadType _ => UInt8
  | loadConfirmed _ | takeWorker => Bool
  | exchange _ _ => Except SatelError Frame
  | localNow => LocalTime
  | underLock _ => ItemCache
  | awaitConnect => Except SatelError Unit
  | markAutoReadDirty | storeType _ _ | storeConfirmed _ | resetType _ _ | resetConfirmed _
  | send _ => Unit

/-- How a client function ends without a value: with `Err`, or by a panic. -/
inductive Failure where
  | returned (e : SatelError)
  | panicked (p : Panic)
  deriving DecidableEq, Repr

/-- What the worker answers to a request after the earlier ones, whether its connection attempts
succeed, and the local times read. -/
structure Surroundings where
  answer : List Frame → Frame → Except SatelError Frame
  connected : List Frame → Except SatelError Unit
  now : Nat → LocalTime

/-- What client calls share. The last two fields count what happened; no code reads them. -/
structure ClientWorld where
  config : Config
  autoReadDirty : Bool
  session : ItemKind → SessionLevel
  workerTaken : Bool
  cache : ItemCache
  events : List QueryEvent
  asked : List Frame
  clockReadings : Nat

def ClientWorld.new (config : Config) (now : LocalTime) : ClientWorld where
  config := config
  autoReadDirty := false
  session kind := ⟨kind.topType config.extendedNameRead, false⟩
  workerTaken := false
  cache := .new now
  events := []
  asked := []
  clockReadings := 0

namespace ClientWorld

def setLevel (kind : ItemKind) (level : SessionLevel) (w : ClientWorld) : ClientWorld :=
  { w with session := Function.update w.session kind level }

def setType (kind : ItemKind) (type : UInt8) (w : ClientWorld) : ClientWorld :=
  w.setLevel kind { w.session kind with type := type }

def setConfirmed (kind : ItemKind) (confirmed : Bool) (w : ClientWorld) : ClientWorld :=
  w.setLevel kind { w.session kind with confirmed := confirmed }

def ask (data : Frame) (w : ClientWorld) : ClientWorld := { w with asked := w.asked ++ [data] }

def readClock (w : ClientWorld) : ClientWorld := { w with clockReadings := w.clockReadings + 1 }

def enter (env : Surroundings) (code : CacheSection) (w : ClientWorld) : ClientWorld :=
  { w.readClock with cache := w.cache.enter (env.now w.clockReadings) code }

def send (event : QueryEvent) (w : ClientWorld) : ClientWorld :=
  { w with events := w.events ++ [event] }

end ClientWorld

/-- What an operation answers and changes. -/
def ClientOp.exec (env : Surroundings) : Exec ClientOp ClientOp.Answer ClientWorld
  | .readConfig, w => (w.config, w)
  | .swapConfig newConfig, w => (w.config, { w with config := newConfig.keepConnection w.config })
  | .markAutoReadDirty, w => ((), { w with autoReadDirty := true })
  | .loadType kind, w => ((w.session kind).type, w)
  | .loadConfirmed kind, w => ((w.session kind).confirmed, w)
  | .storeType kind type, w => ((), w.setType kind type)
  | .storeConfirmed kind, w => ((), w.setConfirmed kind true)
  | .resetType kind type, w => ((), w.setType kind type)
  | .resetConfirmed kind, w => ((), w.setConfirmed kind false)
  | .exchange data _, w => (env.answer w.asked data, w.ask data)
  | .localNow, w => (env.now w.clockReadings, w.readClock)
  | .underLock code, w => (w.cache, w.enter env code)
  | .send event, w => ((), w.send event)
  | .takeWorker, w => (!w.workerTaken, { w with workerTaken := true })
  | .awaitConnect, w => (env.connected w.asked, w)

section Fields
variable (env : Surroundings) (w : ClientWorld)

@[simp] lemma ClientWorld.session_setLevel (kind : ItemKind) (level : SessionLevel) :
    (w.setLevel kind level).session = Function.update w.session kind level := rfl

lemma ClientWorld.setLevel_setLevel (kind : ItemKind) (level level' : SessionLevel) :
    (w.setLevel kind level).setLevel kind level' = w.setLevel kind level' := by
  simp [setLevel]

@[simp] lemma ClientWorld.asked_setLevel (kind : ItemKind) (level : SessionLevel) :
    (w.setLevel kind level).asked = w.asked := rfl

@[simp] lemma ClientWorld.clockReadings_setLevel (kind : ItemKind) (level : SessionLevel) :
    (w.setLevel kind level).clockReadings = w.clockReadings := rfl

@[simp] lemma ClientWorld.cache_setLevel (kind : ItemKind) (level : SessionLevel) :
    (w.setLevel kind level).cache = w.cache := rfl

@[simp] lemma ClientWorld.session_ask (data : Frame) : (w.ask data).session = w.session := rfl

@[simp] lemma ClientWorld.asked_ask (data : Frame) : (w.ask data).asked = w.asked ++ [data] := rfl

@[simp] lemma ClientWorld.cache_ask (data : Frame) : (w.ask data).cache = w.cache := rfl

@[simp] lemma ClientWorld.config_ask (data : Frame) : (w.ask data).config = w.config := rfl

@[simp] lemma ClientWorld.clockReadings_ask (data : Frame) :
    (w.ask data).clockReadings = w.clockReadings := rfl

@[simp] lemma ClientWorld.session_readClock : w.readClock.session = w.session := rfl

@[simp] lemma ClientWorld.asked_readClock : w.readClock.asked = w.asked := rfl

@[simp] lemma ClientWorld.cache_readClock : w.readClock.cache = w.cache := rfl

@[simp] lemma ClientWorld.session_enter (code : CacheSection) :
    (w.enter env code).session = w.session := rfl

@[simp] lemma ClientWorld.asked_enter (code : CacheSection) :
    (w.enter env code).asked = w.asked := rfl

@[simp] lemma ClientWorld.config_enter (code : CacheSection) :
    (w.enter env code).config = w.config := rfl

@[simp] lemma ClientWorld.cache_enter (code : CacheSection) :
    (w.enter env code).cache = w.cache.enter (env.now w.clockReadings) code := rfl

@[simp] lemma ClientWorld.session_send (event : QueryEvent) : (w.send event).session = w.session :=
  rfl

@[simp] lemma ClientWorld.asked_send (event : QueryEvent) : (w.send event).asked = w.asked := rfl

@[simp] lemma ClientWorld.config_send (event : QueryEvent) : (w.send event).config = w.config := rfl

@[simp] lemma ClientWorld.cache_send (event : QueryEvent) : (w.send event).cache = w.cache := rfl

@[simp] lemma ClientOp.exec_readConfig : exec env .readConfig w = (w.config, w) := rfl

@[simp] lemma ClientOp.exec_loadType (kind : ItemKind) :
    exec env (.loadType kind) w = ((w.session kind).type, w) := rfl

@[simp] lemma ClientOp.exec_loadConfirmed (kind : ItemKind) :
    exec env (.loadConfirmed kind) w = ((w.session kind).confirmed, w) := rfl

@[simp] lemma ClientOp.exec_storeType (kind : ItemKind) (type : UInt8) :
    exec env (.storeType kind type) w = ((), w.setType kind type) := rfl

@[simp] lemma ClientOp.exec_storeConfirmed (kind : ItemKind) :
    exec env (.storeConfirmed kind) w = ((), w.setConfirmed kind true) := rfl

@[simp] lemma ClientOp.exec_exchange (data : Frame) (readTimeout : Option Duration) :
    exec env (.exchange data readTimeout) w = (env.answer w.asked data, w.ask data) := rfl

@[simp] lemma ClientOp.exec_localNow :
    exec env .localNow w = (env.now w.clockReadings, w.readClock) := rfl

@[simp] lemma ClientOp.exec_underLock (code : CacheSection) :
    exec env (.underLock code) w = (w.cache, w.enter env code) := rfl

@[simp] lemma ClientOp.exec_send (event : QueryEvent) :
    exec env (.send event) w = ((), w.send event) := rfl

end Fields

/-- A client function, operation by operation. -/
abbrev ClientCall (α : Type) := CallTree ClientOp ClientOp.Answer Failure α

abbrev ClientEvent (ι : Type) := AtomicCalls.Event ι ClientOp ClientOp.Answer

abbrev ClientMoment (ι : Type) := Moment ι ClientOp ClientOp.Answer ClientWorld

/-- Tasks that share a client and make calls whose values do not matter. -/
abbrev ClientPool (ι : Type) := Pool ι ClientOp ClientOp.Answer Failure Unit ClientWorld

namespace ClientCall

abbrev readConfig : ClientCall Config := CallTree.perform ClientOp.readConfig

abbrev exchange (data : Frame) (readTimeout : Option Duration) :
    ClientCall (Except SatelError Frame) := CallTree.perform (ClientOp.exchange data readTimeout)

abbrev localNow : ClientCall LocalTime := CallTree.perform ClientOp.localNow

/-- The cache a block finds. -/
abbrev underLock (code : CacheSection) : ClientCall ItemCache :=
  CallTree.perform (ClientOp.underLock code)

abbrev send (event : QueryEvent) : ClientCall Unit := CallTree.perform (ClientOp.send event)

/-- `?` -/
def orReturn {α : Type} : Except SatelError α → ClientCall α
  | .ok a => pure a
  | .error e => throw (.returned e)

def orPanic {α : Type} : Except Panic α → ClientCall α
  | .ok a => pure a
  | .error p => throw (.panicked p)

section Run
variable {α β : Type} {env : Surroundings} {w : ClientWorld}

@[simp] lemma orReturn_ok (a : α) : orReturn (.ok a) = pure a := rfl

@[simp] lemma orReturn_error (e : SatelError) :
    orReturn (.error e : Except SatelError α) = throw (.returned e) := rfl

@[simp] lemma orPanic_ok (a : α) : orPanic (.ok a) = pure a := rfl

end Run
end ClientCall
end SatelIntegra
