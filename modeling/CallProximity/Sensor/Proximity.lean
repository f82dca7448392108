import CallProximity.Json.Decoding

/-! The proximity sensor: a raw distance becomes the two signals near and far.

They are not opposites. A distance at the maximum range is far and clears near; any
other distance is not far, and sets near when it is within the threshold, so that
noise between threshold and maximum range never clears near. -/

namespace CallProximity

structure ProximityReading where
  near : Bool
  far : Bool
deriving DecidableEq

namespace ProximityReading

/-- The reading before any distance. -/
def initial : ProximityReading := ⟨false, true⟩

def next (previous : ProximityReading) (distance maxRange threshold : Float32) : ProximityReading :=
  if distance == maxRange then ⟨false, true⟩
  else ⟨previous.near || decide (distance ≤ threshold), false⟩

def shape : RecordShape ProximityReading where
  start := .initial
  fields := [
    .required "near" Decoder.bool fun near reading => { reading with near },
    .required "far" Decoder.bool fun far reading => { reading with far }]

def decode : Decoder ProximityReading :=
  shape.decode

def encode (reading : ProximityReading) : Json :=
  .object [("near", .bool reading.near), ("far", .bool reading.far)]

end ProximityReading

structure ClassifierConfig where
  threshold : Float32 := 4

namespace ClassifierConfig

def shape : RecordShape ClassifierConfig where
  start := {}
  fields := [.required "sensitivity_threshold" Decoder.single fun threshold _ => ⟨threshold⟩]

def decode : Decoder ClassifierConfig :=
  shape.decode

def encode (config : ClassifierConfig) : Json :=
  .object [("sensitivity_threshold", .ofSingle config.threshold)]

end ClassifierConfig

/-- Remembers the last reading. Without a maximum range there is no sensor, and
distances are ignored. -/
structure ProximityClassifier where
  maxRange : Option Float32
  config : ClassifierConfig := {}
  reading : ProximityReading := .initial

namespace ProximityClassifier

def isAvailable (classifier : ProximityClassifier) : Bool :=
  classifier.maxRange.isSome

def feed (classifier : ProximityClassifier) (distance : Float32) : ProximityClassifier :=
  match classifier.maxRange with
  | none => classifier
  | some maxRange =>
      { classifier with reading := classifier.reading.next distance maxRange classifier.config.threshold }

def reset (classifier : ProximityClassifier) : ProximityClassifier :=
  { classifier with reading := .initial }

end ProximityClassifier

end CallProximity
