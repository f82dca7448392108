import CallProximity.Call.Status
import CallProximity.Sensor.Orientation
import CallProximity.Sensor.Proximity

/-! Everything the policy knows about the device and the call at one moment. -/

namespace CallProximity

structure Snapshot where
  orientation : Orientation := .unknown
  /-- Whether the call screen is in the foreground. -/
  uiShowing : Bool := false
  hasIncomingCall : Bool := false
  hasOngoingCall : Bool := false
  isOutgoing : Bool := false
  isOffhook : Bool := false
  isVideoCall : Bool := false
  isRttCall : Bool := false
  isAttemptingVideoCall : Bool := false
  dialpadVisible : Bool := false
  audioRoute : AudioRoute := .earpiece
  proximityNear : Bool := false
  proximityFar : Bool := true
  sensorDisabledByPreference : Bool := false
deriving DecidableEq

namespace Snapshot

def applyStatus (snapshot : Snapshot) (status : CallStatus) : Snapshot :=
  { snapshot with
    hasIncomingCall := status.hasIncomingCall
    hasOngoingCall := status.hasOngoingCall
    isOutgoing := status.isOutgoing
    isOffhook := status.isOffhook
    isVideoCall := status.isVideoCall
    isRttCall := status.isRttCall }

def applyReading (snapshot : Snapshot) (reading : ProximityReading) : Snapshot :=
  { snapshot with proximityNear := reading.near, proximityFar := reading.far }

def isHorizontal (snapshot : Snapshot) : Bool :=
  snapshot.orientation = .horizontal

def shape : RecordShape Snapshot where
  start := {}
  fields := [
    .required "orientation" Labelled.decode fun orientation snapshot => { snapshot with orientation },
    .required "ui_showing" Decoder.bool fun uiShowing snapshot => { snapshot with uiShowing },
    .required "has_incoming_call" Decoder.bool fun hasIncomingCall snapshot =>
      { snapshot with hasIncomingCall },
    .required "has_ongoing_call" Decoder.bool fun hasOngoingCall snapshot =>
      { snapshot with hasOngoingCall },
    .required "is_outgoing" Decoder.bool fun isOutgoing snapshot => { snapshot with isOutgoing },
    .required "is_offhook" Decoder.bool fun isOffhook snapshot => { snapshot with isOffhook },
    .required "is_video_call" Decoder.bool fun isVideoCall snapshot => { snapshot with isVideoCall },
    .required "is_rtt_call" Decoder.bool fun isRttCall snapshot => { snapshot with isRttCall },
    .required "is_attempting_video_call" Decoder.bool fun isAttemptingVideoCall snapshot =>
      { snapshot with isAttemptingVideoCall },
    .required "dialpad_visible" Decoder.bool fun dialpadVisible snapshot =>
      { snapshot with dialpadVisible },
    .required "audio_route" Labelled.decode fun audioRoute snapshot => { snapshot with audioRoute },
    .required "proximity_near" Decoder.bool fun proximityNear snapshot =>
      { snapshot with proximityNear },
    .required "proximity_far" Decoder.bool fun proximityFar snapshot =>
      { snapshot with proximityFar },
    .required "sensor_disabled_by_preference" Decoder.bool fun sensorDisabledByPreference snapshot =>
      { snapshot with sensorDisabledByPreference }]

def decode : Decoder Snapshot :=
  shape.decode

def encode (snapshot : Snapshot) : Json :=
  .object [
    ("orientation", Labelled.encode snapshot.orientation),
    ("ui_showing", .bool snapshot.uiShowing),
    ("has_incoming_call", .bool snapshot.hasIncomingCall),
    ("has_ongoing_call", .bool snapshot.hasOngoingCall),
    ("is_outgoing", .bool snapshot.isOutgoing),
    ("is_offhook", .bool snapshot.isOffhook),
    ("is_video_call", .bool snapshot.isVideoCall),
    ("is_rtt_call", .bool snapshot.isRttCall),
    ("is_attempting_video_call", .bool snapshot.isAttemptingVideoCall),
    ("dialpad_visible", .bool snapshot.dialpadVisible),
    ("audio_route", Labelled.encode snapshot.audioRoute),
    ("proximity_near", .bool snapshot.proximityNear),
    ("proximity_far", .bool snapshot.proximityFar),
    ("sensor_disabled_by_preference", .bool snapshot.sensorDisabledByPreference)]

end Snapshot

end CallProximity
