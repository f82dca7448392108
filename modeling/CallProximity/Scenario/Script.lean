import CallProximity.Json.Reader
import CallProximity.Scenario.Encoding

/-! Scripts: a scenario, or a bare list of steps for the default device, as JSON text. -/

namespace CallProximity

/-- Why a text is no script. -/
inductive ScriptError where
  | json (error : JsonError)
  /-- Good JSON that is neither a scenario nor a list of steps. -/
  | mismatch
  | noSteps
deriving DecidableEq

namespace Scenario

/-- A value is tried as a scenario first. -/
def ofScript? (json : Json) : Option Scenario :=
  match Scenario.decode .namedOrIndexed json with
  | .ok scenario => some scenario
  | .error _ =>
      match Decoder.list (ScenarioStep.decode .namedOrIndexed) json with
      | .ok steps => some { steps }
      | .error _ => none

/-- The value is matched before what follows it is looked at. -/
def ofText (text : String) : Except ScriptError Scenario := do
  let (json, rest) ← (Json.readFront Json.nestingLimit text.toList).mapError .json
  let some scenario := ofScript? json | throw .mismatch
  if !Json.endsHere rest then throw (.json .malformed)
  if scenario.steps.isEmpty then throw .noSteps
  return scenario

/-- Answers a ringing call at the ear, then puts the device down on a table. -/
def builtIn : Scenario where
  name := "answer at the ear, then walk away"
  preferences := { autoSpeaker := true, autoSpeakerDelay := 1000, autoAnswer := true }
  steps := [
    .uiShowing true,
    .callState .idle .incoming { hasLiveCall := true, ringingCallId := some "call-1" },
    .proximity 0,
    .callState .incoming .inCall { hasLiveCall := true, activeCall := some { id := "call-1" } },
    .accelerometer 0 9.8 0.5,
    .wait 150,
    .accelerometer 0 9.8 0.5,
    .proximity 5,
    .wait 1200,
    .proximity 0,
    .accelerometer 0.1 0.2 9.8,
    .wait 600,
    .accelerometer 0.1 0.2 9.8,
    .uiShowing false,
    .callState .inCall .idle {},
    .teardown]

end Scenario

end CallProximity
