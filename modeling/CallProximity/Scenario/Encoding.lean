import CallProximity.Preferences.Basic
import CallProximity.Scenario.Step

/-! Scenarios and their steps as JSON. A step is an object whose `type` names its kind,
with the fields of the kind beside it, or an array of the kind and the fields in order. -/

namespace CallProximity

/-- How the kind of a step may be written. -/
inductive KindStyle where
  | named
  /-- By name, or by its place among the kinds. -/
  | namedOrIndexed
deriving DecidableEq

namespace StepKind

def decode (style : KindStyle) : Decoder StepKind
  | .string name => Labelled.ofLabel name
  | .number (.integer index) =>
      if style = .namedOrIndexed ∧ 0 ≤ index.value then
        match (Labelled.values (α := StepKind))[index.value.toNat]? with
        | some kind => .ok kind
        | none => .error .invalidValue
      else .error .invalidType
  | _ => .error .invalidType

end StepKind

namespace ScenarioStep

/-- Names inside a step may carry an empty object. -/
def decodeName [Labelled α] : Decoder α :=
  Labelled.decodeWith Labelled.isNullOrEmpty

def callStateShape : RecordShape (CallState × CallState × CallList) where
  start := (.idle, .idle, {})
  fields := [
    .required "old" decodeName fun old (_, new, calls) => (old, new, calls),
    .required "new" decodeName fun new (old, _, calls) => (old, new, calls),
    .optional "calls" CallList.decode fun calls (old, new, _) => (old, new, calls)]

def accelerometerShape : RecordShape (Float × Float × Float) where
  start := (0, 0, 0)
  fields := [
    .required "x" Decoder.double fun x (_, y, z) => (x, y, z),
    .required "y" Decoder.double fun y (x, _, z) => (x, y, z),
    .required "z" Decoder.double fun z (x, y, _) => (x, y, z)]

def displayShape : RecordShape (UInt32 × Bool) where
  start := (0, false)
  fields := [
    .optional "display_id" Decoder.uint32 fun id (_, isOn) => (id, isOn),
    .required "on" Decoder.bool fun isOn (id, _) => (id, isOn)]

def preferenceShape : RecordShape (String × Json) where
  start := ("", .null)
  fields := [
    .required "key" Decoder.string fun key (_, value) => (key, value),
    .required "value" Decoder.any fun value (key, _) => (key, value)]

/-- A record of one required field. -/
def fieldShape (name : String) (start : α) (decode : Decoder α) : RecordShape α where
  start := start
  fields := [.required name decode fun value _ => value]

/-- A step without fields. -/
def decodeEmpty (step : ScenarioStep) : Decoder ScenarioStep
  | .array (_ :: _) => .error .invalidLength
  | _ => .ok step

def decodeFields (kind : StepKind) (content : Json) : Except DecodeError ScenarioStep :=
  match kind with
  | .proximity =>
      ((fieldShape "distance" 0 Decoder.single).decode content).map .proximity
  | .callState =>
      (callStateShape.decode content).map fun (old, new, calls) => .callState old new calls
  | .audioRoute =>
      ((fieldShape "route" .earpiece decodeName).decode content).map .audioRoute
  | .uiShowing => ((fieldShape "showing" false Decoder.bool).decode content).map .uiShowing
  | .dialpad => ((fieldShape "visible" false Decoder.bool).decode content).map .dialpad
  | .attemptingVideo =>
      ((fieldShape "attempting" false Decoder.bool).decode content).map .attemptingVideo
  | .orientation =>
      ((fieldShape "orientation" .unknown decodeName).decode content).map .orientation
  | .accelerometer =>
      (accelerometerShape.decode content).map fun (x, y, z) => .accelerometer x y z
  | .display => (displayShape.decode content).map fun (id, isOn) => .display id isOn
  | .preference => (preferenceShape.decode content).map fun (key, value) => .preference key value
  | .wait => ((fieldShape "ms" 0 Decoder.uint64).decode content).map .wait
  | .teardown => decodeEmpty .teardown content

/-- The kind of a step is read before its fields. -/
def decode (style : KindStyle) : Decoder ScenarioStep
  | .object members =>
      match members.filter fun (key, _) => key == "type" with
      | [] => .error (.missingField "type")
      | [(_, tag)] => do
          let kind ← StepKind.decode style tag
          decodeFields kind (.object (members.filter fun (key, _) => key != "type"))
      | _ => .error (.repeatedField "type")
  | .array (tag :: fields) => do
      let kind ← StepKind.decode style tag
      decodeFields kind (.array fields)
  | .array [] => .error (.missingField "type")
  | _ => .error .invalidType

def kind : ScenarioStep → StepKind
  | .proximity _ => .proximity
  | .callState _ _ _ => .callState
  | .audioRoute _ => .audioRoute
  | .uiShowing _ => .uiShowing
  | .dialpad _ => .dialpad
  | .attemptingVideo _ => .attemptingVideo
  | .orientation _ => .orientation
  | .accelerometer _ _ _ => .accelerometer
  | .display _ _ => .display
  | .preference _ _ => .preference
  | .wait _ => .wait
  | .teardown => .teardown

def members : ScenarioStep → List (String × Json)
  | .proximity distance => [("distance", .ofSingle distance)]
  | .callState old new calls =>
      [("old", Labelled.encode old), ("new", Labelled.encode new), ("calls", calls.encode)]
  | .audioRoute route => [("route", Labelled.encode route)]
  | .uiShowing showing => [("showing", .bool showing)]
  | .dialpad visible => [("visible", .bool visible)]
  | .attemptingVideo attempting => [("attempting", .bool attempting)]
  | .orientation value => [("orientation", Labelled.encode value)]
  | .accelerometer x y z => [("x", .ofDouble x), ("y", .ofDouble y), ("z", .ofDouble z)]
  | .display id isOn => [("display_id", .ofUInt32 id), ("on", .bool isOn)]
  | .preference key value => [("key", .string key), ("value", value)]
  | .wait milliseconds => [("ms", .ofUInt64 milliseconds)]
  | .teardown => []

def encode (step : ScenarioStep) : Json :=
  .object (("type", Labelled.encode step.kind) :: step.members)

end ScenarioStep

/-- The device to simulate, and what happens to it. -/
structure Scenario where
  name : String := "scenario"
  preferences : Preferences := {}
  hasProximitySensor : Bool := true
  proximityMaxRange : Float32 := 5
  hasTelephony : Bool := true
  steps : List ScenarioStep := []

namespace Scenario

def shape (style : KindStyle) : RecordShape Scenario where
  start := {}
  fields := [
    .optional "name" Decoder.string fun name scenario => { scenario with name },
    .optional "preferences" Preferences.decode fun preferences scenario =>
      { scenario with preferences },
    .optional "has_proximity_sensor" Decoder.bool fun hasProximitySensor scenario =>
      { scenario with hasProximitySensor },
    .optional "proximity_max_range" Decoder.single fun proximityMaxRange scenario =>
      { scenario with proximityMaxRange },
    .optional "has_telephony" Decoder.bool fun hasTelephony scenario =>
      { scenario with hasTelephony },
    .optional "steps" (Decoder.list (ScenarioStep.decode style)) fun steps scenario =>
      { scenario with steps }]

def decode (style : KindStyle) : Decoder Scenario :=
  (shape style).decode

def encode (scenario : Scenario) : Json :=
  .object [
    ("name", .string scenario.name),
    ("preferences", scenario.preferences.encode),
    ("has_proximity_sensor", .bool scenario.hasProximitySensor),
    ("proximity_max_range", .ofSingle scenario.proximityMaxRange),
    ("has_telephony", .bool scenario.hasTelephony),
    ("steps", .array (scenario.steps.map ScenarioStep.encode))]

end Scenario

end CallProximity
