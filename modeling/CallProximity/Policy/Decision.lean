import CallProximity.Policy.Snapshot
import CallProximity.Preferences.Basic

/-! The decisions, each a function of the snapshot and the preferences: whether the
screen-off lock is held, where audio goes, and whether a ringing call is answered. -/

namespace CallProximity

/-- Whether the screen must stay on whatever the proximity. With the device flat and
the call screen hidden, or the dialpad up, the user looks at the screen. -/
def Snapshot.keepsScreenOn (snapshot : Snapshot) : Bool :=
  decide (snapshot.audioRoute ≠ .earpiece) || snapshot.isAttemptingVideoCall ||
    snapshot.isVideoCall || snapshot.isRttCall ||
    (snapshot.isHorizontal && !snapshot.uiShowing) ||
    (snapshot.isHorizontal && snapshot.dialpadVisible)

inductive LockAction where
  /-- The user turned proximity off: the lock is left as it is. -/
  | skip
  | engage
  | release (restoreImmediately : Bool)
deriving DecidableEq

namespace LockAction

/-- The action as one log field. -/
def describe : LockAction → String
  | .skip => "Skip"
  | .engage => "Engage"
  | .release restoreImmediately =>
      "Release \x7b restore_immediately: " ++ toString restoreImmediately ++ " \x7d"

def names : List String := ["skip", "engage", "release"]

def releaseShape : RecordShape Bool where
  start := false
  fields := [.required "restore_immediately" Decoder.bool fun value _ => value]

def decode : Decoder LockAction
  | .string "skip" | .object [("skip", .null)] => .ok .skip
  | .string "engage" | .object [("engage", .null)] => .ok .engage
  | .object [("release", .object members)] =>
      (releaseShape.decode (.object members)).map .release
  | .string name => .error (if name ∈ names then .invalidType else .unknownVariant name names)
  | .object [(name, _)] => .error (if name ∈ names then .invalidType else .unknownVariant name names)
  | .object _ => .error .invalidValue
  | _ => .error .invalidType

def encode : LockAction → Json
  | .skip => .string "skip"
  | .engage => .string "engage"
  | .release restoreImmediately =>
      .object [("release", .object [("restore_immediately", .bool restoreImmediately)])]

end LockAction

def decideLock (snapshot : Snapshot) (preferences : Preferences) : LockAction :=
  if snapshot.sensorDisabledByPreference then .skip
  else
    let inUse := snapshot.isOffhook || (snapshot.hasIncomingCall && preferences.autoSpeakerIncallOnly)
    if inUse && !snapshot.keepsScreenOn then .engage else .release snapshot.keepsScreenOn

inductive SpeakerAction where
  | nothing
  | schedule (delay : UInt64) (route : AudioRoute)
  | routeNow (route : AudioRoute)
deriving DecidableEq

/-- The way to the speaker is delayed, so that a hand over the sensor does not flip the
audio; the way back to the earpiece is not. -/
def decideSpeaker (wantsSpeaker : Bool) (snapshot : Snapshot) (preferences : Preferences) :
    SpeakerAction :=
  if !snapshot.isOffhook || !preferences.autoSpeaker || snapshot.audioRoute.isExternal then .nothing
  else if wantsSpeaker then
    if snapshot.audioRoute = .speaker then .nothing
    else if preferences.autoSpeakerIncallOnly && snapshot.isOutgoing then .nothing
    else .schedule preferences.autoSpeakerDelay .speaker
  else .routeNow .earpiece

/-- A ringing call is answered when the device is raised to the ear. -/
def shouldAutoAnswer (near : Bool) (snapshot : Snapshot) (preferences : Preferences)
    (telephonyAvailable screenOn : Bool) : Bool :=
  near && telephonyAvailable && screenOn && !snapshot.hasOngoingCall && preferences.autoAnswer

end CallProximity
