import CallProximity.Json.Decoding
import CallProximity.Log

/-! User preferences, and loading them from whatever keeps them.

Each preference has a key of its own. A key that cannot be read, and a delay below
zero, count as not set: the default stands in, and loading never fails. -/

namespace CallProximity

structure Preferences where
  sensorDisabled : Bool := false
  autoSpeaker : Bool := false
  /-- Keeps automatic speaker to calls under way, and holds the screen-off lock while
  ringing. -/
  autoSpeakerIncallOnly : Bool := false
  autoSpeakerDelay : UInt64 := 3000
  autoAnswer : Bool := false
deriving DecidableEq

inductive PreferenceError where
  | typeMismatch (key expected : String)
  | unavailable (detail : String)

def PreferenceError.message : PreferenceError → String
  | .typeMismatch key expected => "preference " ++ key ++ " is not a " ++ expected
  | .unavailable detail => "preference store unavailable: " ++ detail

/-- What keeps the preferences: reading a key gives its value, or the default when the
key is not set. -/
structure PreferenceSource where
  bool : (key : String) → (default : Bool) → Except PreferenceError Bool
  int : (key : String) → (default : Int64) → Except PreferenceError Int64

namespace PreferenceKey

def sensorDisabled : String := "proximity-sensor-disabled"
def autoSpeaker : String := "auto-speaker-enabled"
def autoSpeakerIncallOnly : String := "auto-speaker-incall-only"
def autoSpeakerDelay : String := "auto-speaker-delay-ms"
def autoAnswer : String := "auto-answer-incall-only"

end PreferenceKey

namespace PreferenceSource

def readFailure (key fallback : String) (error : PreferenceError) : LogRecord :=
  ⟨.warn, "preference read failed",
    [("key", key), ("error", error.message), ("default", fallback)]⟩

def boolOr (source : PreferenceSource) (key : String) (fallback : Bool) : Bool :=
  match source.bool key fallback with
  | .ok value => value
  | .error _ => fallback

def boolNotes (source : PreferenceSource) (key : String) (fallback : Bool) : List LogRecord :=
  match source.bool key fallback with
  | .ok _ => []
  | .error error => [readFailure key (toString fallback) error]

def intOr (source : PreferenceSource) (key : String) (fallback : Int64) : Int64 :=
  match source.int key fallback with
  | .ok value => value
  | .error _ => fallback

def intNotes (source : PreferenceSource) (key : String) (fallback : Int64) : List LogRecord :=
  match source.int key fallback with
  | .ok _ => []
  | .error error => [readFailure key (toString fallback.toInt) error]

end PreferenceSource

namespace Preferences

def defaults : Preferences := {}

def readDelay (source : PreferenceSource) : Int64 :=
  source.intOr PreferenceKey.autoSpeakerDelay defaults.autoSpeakerDelay.toInt64

/-- A delay below zero is as good as none. -/
def delayOf (stored : Int64) : UInt64 :=
  if stored < 0 then defaults.autoSpeakerDelay else stored.toUInt64

def load (source : PreferenceSource) : Preferences where
  sensorDisabled := source.boolOr PreferenceKey.sensorDisabled defaults.sensorDisabled
  autoSpeaker := source.boolOr PreferenceKey.autoSpeaker defaults.autoSpeaker
  autoSpeakerIncallOnly :=
    source.boolOr PreferenceKey.autoSpeakerIncallOnly defaults.autoSpeakerIncallOnly
  autoSpeakerDelay := delayOf (readDelay source)
  autoAnswer := source.boolOr PreferenceKey.autoAnswer defaults.autoAnswer

/-- What loading has to say; the delay is read first. -/
def loadNotes (source : PreferenceSource) : List LogRecord :=
  let delay := readDelay source
  source.intNotes PreferenceKey.autoSpeakerDelay defaults.autoSpeakerDelay.toInt64 ++
    (if delay < 0 then
      [⟨.warn, "negative auto speaker delay, using default", [("delay", toString delay.toInt)]⟩]
    else []) ++
    source.boolNotes PreferenceKey.sensorDisabled defaults.sensorDisabled ++
    source.boolNotes PreferenceKey.autoSpeaker defaults.autoSpeaker ++
    source.boolNotes PreferenceKey.autoSpeakerIncallOnly defaults.autoSpeakerIncallOnly ++
    source.boolNotes PreferenceKey.autoAnswer defaults.autoAnswer

/-- The preferences as one log field. -/
def describe (preferences : Preferences) : String :=
  "ProximityPreferences \x7b sensor_disabled: " ++ toString preferences.sensorDisabled ++
    ", auto_speaker: " ++ toString preferences.autoSpeaker ++
    ", auto_speaker_incall_only: " ++ toString preferences.autoSpeakerIncallOnly ++
    ", auto_speaker_delay_ms: " ++ toString preferences.autoSpeakerDelay ++
    ", auto_answer: " ++ toString preferences.autoAnswer ++ " \x7d"

def shape : RecordShape Preferences where
  start := {}
  fields := [
    .optional "sensor_disabled" Decoder.bool fun sensorDisabled preferences =>
      { preferences with sensorDisabled },
    .optional "auto_speaker" Decoder.bool fun autoSpeaker preferences =>
      { preferences with autoSpeaker },
    .optional "auto_speaker_incall_only" Decoder.bool fun autoSpeakerIncallOnly preferences =>
      { preferences with autoSpeakerIncallOnly },
    .optional "auto_speaker_delay_ms" Decoder.uint64 fun autoSpeakerDelay preferences =>
      { preferences with autoSpeakerDelay },
    .optional "auto_answer" Decoder.bool fun autoAnswer preferences =>
      { preferences with autoAnswer }]

def decode : Decoder Preferences :=
  shape.decode

def encode (preferences : Preferences) : Json :=
  .object [
    ("sensor_disabled", .bool preferences.sensorDisabled),
    ("auto_speaker", .bool preferences.autoSpeaker),
    ("auto_speaker_incall_only", .bool preferences.autoSpeakerIncallOnly),
    ("auto_speaker_delay_ms", .ofUInt64 preferences.autoSpeakerDelay),
    ("auto_answer", .bool preferences.autoAnswer)]

end Preferences

end CallProximity
