import CallProximity.Json.Decoding

/-! What the telephony platform tells about calls and where their audio plays. -/

namespace CallProximity

inductive CallState where
  | idle
  | incoming
  | pendingOutgoing
  | outgoing
  | inCall
deriving DecidableEq

instance : Labelled CallState where
  values := [.idle, .incoming, .pendingOutgoing, .outgoing, .inCall]
  label
    | .idle => "idle"
    | .incoming => "incoming"
    | .pendingOutgoing => "pending_outgoing"
    | .outgoing => "outgoing"
    | .inCall => "in_call"

inductive AudioRoute where
  | earpiece
  | speaker
  | bluetooth
  | wiredHeadset
deriving DecidableEq

instance : Labelled AudioRoute where
  values := [.earpiece, .speaker, .bluetooth, .wiredHeadset]
  label
    | .earpiece => "earpiece"
    | .speaker => "speaker"
    | .bluetooth => "bluetooth"
    | .wiredHeadset => "wired_headset"

/-- Routes that take audio away from the handset. -/
def AudioRoute.isExternal : AudioRoute → Bool
  | .bluetooth | .wiredHeadset => true
  | .earpiece | .speaker => false

structure ActiveCall where
  id : String
  isVideo : Bool := false
  isRtt : Bool := false
deriving DecidableEq

namespace ActiveCall

def shape : RecordShape ActiveCall where
  start := ⟨"", false, false⟩
  fields := [
    .required "id" Decoder.string fun id call => { call with id },
    .optional "is_video" Decoder.bool fun isVideo call => { call with isVideo },
    .optional "is_rtt" Decoder.bool fun isRtt call => { call with isRtt }]

def decode : Decoder ActiveCall :=
  shape.decode

def encode (call : ActiveCall) : Json :=
  .object [("id", .string call.id), ("is_video", .bool call.isVideo), ("is_rtt", .bool call.isRtt)]

end ActiveCall

/-- The calls at the moment of a notification. A call that was cut can keep the state
`inCall` for a moment, so whether one is alive is told apart. -/
structure CallList where
  hasLiveCall : Bool := false
  activeCall : Option ActiveCall := none
  ringingCallId : Option String := none
deriving DecidableEq

namespace CallList

def shape : RecordShape CallList where
  start := {}
  fields := [
    .optional "has_live_call" Decoder.bool fun hasLiveCall calls => { calls with hasLiveCall },
    .optional "active_call" (Decoder.option ActiveCall.decode) fun activeCall calls =>
      { calls with activeCall },
    .optional "ringing_call_id" (Decoder.option Decoder.string) fun ringingCallId calls =>
      { calls with ringingCallId }]

def decode : Decoder CallList :=
  shape.decode

def encode (calls : CallList) : Json :=
  .object [
    ("has_live_call", .bool calls.hasLiveCall),
    ("active_call", (calls.activeCall.map ActiveCall.encode).getD .null),
    ("ringing_call_id", (calls.ringingCallId.map Json.string).getD .null)]

end CallList

end CallProximity
