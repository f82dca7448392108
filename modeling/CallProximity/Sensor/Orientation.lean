import CallProximity.Json.Decoding

/-! Orientation of the device from accelerometer samples.

A sample is a candidate for one of two orientations by its tilt from the vertical. A
candidate is reported once it has lasted for its debounce time: the first sample
starts its clock, a sample of the other candidate starts the other's, and a sample of
the current orientation drops it. A sample with no direction changes nothing. -/

namespace CallProximity

inductive Orientation where
  | unknown
  | horizontal
  | other
deriving DecidableEq

instance : Labelled Orientation where
  values := [.unknown, .horizontal, .other]
  label
    | .unknown => "unknown"
    | .horizontal => "horizontal"
    | .other => "other"

structure OrientationConfig where
  uprightAngle : Float := 50
  horizontalDebounce : UInt64 := 500
  uprightDebounce : UInt64 := 100

namespace OrientationConfig

def debounce (config : OrientationConfig) : Orientation → UInt64
  | .horizontal => config.horizontalDebounce
  | _ => config.uprightDebounce

def shape : RecordShape OrientationConfig where
  start := {}
  fields := [
    .required "upright_angle_degrees" Decoder.double fun angle config =>
      { config with uprightAngle := angle },
    .required "horizontal_debounce" Decoder.uint64 fun debounce config =>
      { config with horizontalDebounce := debounce },
    .required "upright_debounce" Decoder.uint64 fun debounce config =>
      { config with uprightDebounce := debounce }]

def decode : Decoder OrientationConfig :=
  shape.decode

def encode (config : OrientationConfig) : Json :=
  .object [
    ("upright_angle_degrees", .ofDouble config.uprightAngle),
    ("horizontal_debounce", .ofUInt64 config.horizontalDebounce),
    ("upright_debounce", .ofUInt64 config.uprightDebounce)]

end OrientationConfig

/-- Degrees in a radian. -/
def degreesPerRadian : Float := 57.29577951308232

/-- The angle between the device's z axis and gravity, in degrees. -/
def tilt? (x y z : Float) : Option Float :=
  if x == 0 && y == 0 && z == 0 then none
  else some ((x * x + y * y).sqrt.atan2 z * degreesPerRadian)

/-- The orientation that one sample speaks for. -/
def OrientationConfig.candidate? (config : OrientationConfig) (x y z : Float) : Option Orientation :=
  (tilt? x y z).map fun tilt => if config.uprightAngle < tilt then .other else .horizontal

/-- A candidate and the instant of its first sample. -/
structure PendingOrientation where
  orientation : Orientation
  since : Nat
deriving DecidableEq

structure OrientationTracker where
  config : OrientationConfig := {}
  enabled : Bool := false
  current : Orientation := .unknown
  pending : Option PendingOrientation := none

namespace OrientationTracker

/-- Disabling forgets the orientation and the candidate. -/
def enable (tracker : OrientationTracker) (enabled : Bool) : OrientationTracker :=
  if enabled then { tracker with enabled := true }
  else { tracker with enabled := false, current := .unknown, pending := none }

/-- A candidate seen while enabled. A clock that went back counts as no time. -/
def observe (tracker : OrientationTracker) (candidate : Orientation) (now : Nat) :
    Option Orientation × OrientationTracker :=
  if candidate = tracker.current then (none, { tracker with pending := none })
  else
    match tracker.pending with
    | some pending =>
        if pending.orientation = candidate then
          if now - pending.since < (tracker.config.debounce candidate).toNat then (none, tracker)
          else (some candidate, { tracker with current := candidate, pending := none })
        else (none, { tracker with pending := some ⟨candidate, now⟩ })
    | none => (none, { tracker with pending := some ⟨candidate, now⟩ })

/-- The orientation to report, if this sample settles one. -/
def sample (tracker : OrientationTracker) (x y z : Float) (now : Nat) :
    Option Orientation × OrientationTracker :=
  if tracker.enabled then
    match tracker.config.candidate? x y z with
    | some candidate => tracker.observe candidate now
    | none => (none, tracker)
  else (none, tracker)

end OrientationTracker

end CallProximity
