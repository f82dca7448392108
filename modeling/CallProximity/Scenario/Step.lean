import CallProximity.Call.State
import CallProximity.Json.Printer
import CallProximity.Sensor.Orientation

/-! The steps of a scenario: one thing each that happens to the simulated device. -/

namespace CallProximity

inductive ScenarioStep where
  | proximity (distance : Float32)
  | callState (old new : CallState) (calls : CallList)
  | audioRoute (route : AudioRoute)
  | uiShowing (showing : Bool)
  | dialpad (visible : Bool)
  | attemptingVideo (attempting : Bool)
  /-- An orientation told outright, without the accelerometer. -/
  | orientation (value : Orientation)
  /-- A sample in metres per second squared. -/
  | accelerometer (x y z : Float)
  | display (id : UInt32) (isOn : Bool)
  | preference (key : String) (value : Json)
  | wait (milliseconds : UInt64)
  | teardown

/-- The kinds of steps, as a script names them. -/
inductive StepKind where
  | proximity
  | callState
  | audioRoute
  | uiShowing
  | dialpad
  | attemptingVideo
  | orientation
  | accelerometer
  | display
  | preference
  | wait
  | teardown
deriving DecidableEq

instance : Labelled StepKind where
  values := [.proximity, .callState, .audioRoute, .uiShowing, .dialpad, .attemptingVideo,
    .orientation, .accelerometer, .display, .preference, .wait, .teardown]
  label
    | .proximity => "proximity"
    | .callState => "call_state"
    | .audioRoute => "audio_route"
    | .uiShowing => "ui_showing"
    | .dialpad => "dialpad"
    | .attemptingVideo => "attempting_video"
    | .orientation => "orientation"
    | .accelerometer => "accelerometer"
    | .display => "display"
    | .preference => "preference"
    | .wait => "wait_ms"
    | .teardown => "teardown"

namespace ScenarioStep

def describe : ScenarioStep → String
  | .proximity distance => "proximity distance=" ++ DecimalLayout.plain.writeSingle distance
  | .callState old new _ => "call state " ++ label old ++ " -> " ++ label new
  | .audioRoute route => "audio route " ++ label route
  | .uiShowing showing => "in-call ui showing=" ++ toString showing
  | .dialpad visible => "dialpad visible=" ++ toString visible
  | .attemptingVideo attempting => "attempting video=" ++ toString attempting
  | .orientation value => "orientation " ++ label value
  | .accelerometer x y z =>
      "accelerometer (" ++
        ", ".intercalate ([x, y, z].map DecimalLayout.plain.writeDouble) ++ ")"
  | .display id isOn => "display " ++ toString id ++ " on=" ++ toString isOn
  | .preference key value => "preference " ++ key ++ "=" ++ value.write
  | .wait milliseconds => "wait " ++ toString milliseconds ++ "ms"
  | .teardown => "teardown"

end ScenarioStep

end CallProximity
