import CallProximity.Platform
import CallProximity.Policy.Decision
import CallProximity.Sensor.Display
import CallProximity.Subscription

/-! The state of a call-screen session, and a session at work on a platform: its state,
the world of the devices, and the record of what it asked for and logged. -/

namespace CallProximity

/-- A switch to another route that waits for its timer. -/
structure PendingActivation where
  generation : Nat
  route : AudioRoute
  delay : UInt64
deriving DecidableEq

structure Session where
  snapshot : Snapshot
  preferences : Preferences
  classifier : ProximityClassifier
  calls : CallAggregator := {}
  display : DisplayTracker := {}
  /-- Whether the session took over the platform's wake lock when it started. -/
  managesLock : Bool
  subscriptions : SubscriptionReasons := {}
  pending : Option PendingActivation := none
  /-- How many activations were scheduled. -/
  generation : Nat := 0
  /-- The ringing call of the last accepted answer. -/
  lastAnswered : Option String := none
  tornDown : Bool := false

/-- What can happen to a session. -/
inductive Event where
  | distance (value : Float32)
  | orientation (value : Orientation)
  | callState (old new : CallState) (calls : CallList)
  | audioRoute (route : AudioRoute)
  | uiShowing (showing : Bool)
  | dialpad (visible : Bool)
  | attemptingVideo (attempting : Bool)
  | display (id : UInt32) (isOn : Bool)
  | timer (generation : Nat)
  | tearDown

/-- A session at work. Exchanges and log are in the order they were made. -/
structure Engine (World : Type) where
  session : Session
  world : World
  exchanges : List Exchange := []
  log : List LogRecord := []

inductive LockState where
  | held
  | released
deriving DecidableEq

instance : Labelled LockState where
  values := [.held, .released]
  label
    | .held => "held"
    | .released => "released"

namespace Engine

variable {World : Type}

def requests (engine : Engine World) : List Request :=
  engine.exchanges.map Exchange.request

def note (engine : Engine World) (level : LogLevel) (message : String)
    (fields : List (String × String)) : Engine World :=
  { engine with log := engine.log ++ [⟨level, message, fields⟩] }

def update (engine : Engine World) (change : Session → Session) : Engine World :=
  { engine with session := change engine.session }

/-- A request that the platform carries out. -/
def order (engine : Engine World) (request : Request) (act : World → World) : Engine World :=
  { engine with
    world := act engine.world
    exchanges := engine.exchanges ++ [⟨request, false⟩] }

/-- A request that the platform may refuse. -/
def attempt (engine : Engine World) (request : Request) (act : Attempt World) :
    Except ActuatorError Unit × Engine World :=
  let (result, world) := act engine.world
  (result, { engine with world, exchanges := engine.exchanges ++ [⟨request, refused result⟩] })
where
  refused : Except ActuatorError Unit → Bool
    | .ok _ => false
    | .error _ => true

/-- A refused request is logged, and that is all. -/
def attemptOrWarn (engine : Engine World) (request : Request) (act : Attempt World)
    (warning : String) : Engine World :=
  match engine.attempt request act with
  | (.ok _, engine) => engine
  | (.error error, engine) => engine.note .warn warning [("error", error.message)]

section Lemmas

variable (engine : Engine World) (level : LogLevel) (message : String)
  (fields : List (String × String)) (change : Session → Session) (request : Request)
  (act : World → World)

@[simp] theorem session_note : (engine.note level message fields).session = engine.session := rfl

@[simp] theorem world_note : (engine.note level message fields).world = engine.world := rfl

@[simp] theorem exchanges_note :
    (engine.note level message fields).exchanges = engine.exchanges := rfl

@[simp] theorem session_update : (engine.update change).session = change engine.session := rfl

@[simp] theorem world_update : (engine.update change).world = engine.world := rfl

@[simp] theorem exchanges_update : (engine.update change).exchanges = engine.exchanges := rfl

@[simp] theorem session_order : (engine.order request act).session = engine.session := rfl

@[simp] theorem world_order : (engine.order request act).world = act engine.world := rfl

@[simp] theorem exchanges_order :
    (engine.order request act).exchanges = engine.exchanges ++ [⟨request, false⟩] := rfl

end Lemmas

/-- A session that does not manage the lock reports it released. -/
def lockState (platform : Platform World) (engine : Engine World) : LockState :=
  match platform.wakeLock with
  | some lock =>
      if engine.session.managesLock && lock.isHeld engine.world then .held else .released
  | none => .released

end Engine

end CallProximity
