import CallProximity.Call.State
import CallProximity.Preferences.Basic

/-! The platform that a session drives. `World` is whatever its devices remember; each
device is a function on it. Requests may fail, queries may not. -/

namespace CallProximity

inductive ActuatorError where
  | wakeLock (detail : String)
  | audioRoute (detail : String)
  | telephony (detail : String)
deriving DecidableEq

def ActuatorError.message : ActuatorError → String
  | .wakeLock detail => "wake lock request failed: " ++ detail
  | .audioRoute detail => "audio route change failed: " ++ detail
  | .telephony detail => "telephony request failed: " ++ detail

/-- A request to a device that may refuse it. -/
abbrev Attempt (World : Type) := World → Except ActuatorError Unit × World

/-- While held, the platform blanks the screen whenever something is near. -/
structure WakeLock (World : Type) where
  isHeld : World → Bool
  acquire : Attempt World
  /-- Without immediate restoring the screen stays off until the sensor reports far. -/
  release : (restoreImmediately : Bool) → Attempt World

structure ProximitySensor (World : Type) where
  maxRange : Float32
  subscribe : World → World
  unsubscribe : World → World

structure Platform (World : Type) where
  /-- Absent where the platform has no proximity screen-off lock. -/
  wakeLock : Option (WakeLock World)
  setRoute : AudioRoute → Attempt World
  /-- Accepts the ringing call; absent where calls cannot be controlled. -/
  telephony : Option (Attempt World)
  isScreenOn : World → Bool
  /-- Absent on devices without a proximity sensor. -/
  sensor : Option (ProximitySensor World)
  enableOrientation : Bool → World → World
  preferences : World → PreferenceSource
  /-- Starts the timer of an activation. -/
  schedule : (generation : Nat) → (delay : UInt64) → World → World
  cancel : (generation : Nat) → World → World

/-- What a session asks of the platform. -/
inductive Request where
  | acquireLock
  | releaseLock (restoreImmediately : Bool)
  | setRoute (route : AudioRoute)
  | acceptCall
  | subscribe
  | unsubscribe
  | enableOrientation (enabled : Bool)
  | schedule (generation : Nat) (delay : UInt64)
  | cancel (generation : Nat)
deriving DecidableEq

/-- A request, and whether the platform refused it. -/
structure Exchange where
  request : Request
  refused : Bool
deriving DecidableEq

end CallProximity
