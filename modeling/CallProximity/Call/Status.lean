import CallProximity.Call.State

/-! Call notifications folded into a status, with the edges that need work.

The status depends on the last notification alone. A change set tells which of its
parts moved: a resync when offhook, video or text mode flipped, an answer when an
outgoing call became an ongoing one, and an incoming call when ringing began or the
ringing call changed. -/

namespace CallProximity

structure CallStatus where
  hasIncomingCall : Bool := false
  hasOngoingCall : Bool := false
  isOutgoing : Bool := false
  isOffhook : Bool := false
  isVideoCall : Bool := false
  isRttCall : Bool := false
deriving DecidableEq

namespace CallStatus

def derive (state : CallState) (calls : CallList) : CallStatus :=
  let hasOngoingCall := decide (state = .inCall) && calls.hasLiveCall
  { hasIncomingCall := state = .incoming
    hasOngoingCall
    isOutgoing := state = .outgoing
    isOffhook := decide (state = .pendingOutgoing) || decide (state = .outgoing) || hasOngoingCall
    isVideoCall := calls.activeCall.any ActiveCall.isVideo
    isRttCall := calls.activeCall.any ActiveCall.isRtt }

def flags (status : CallStatus) : List (String × Bool) :=
  [ ("has_incoming_call", status.hasIncomingCall),
    ("has_ongoing_call", status.hasOngoingCall),
    ("is_outgoing", status.isOutgoing),
    ("is_offhook", status.isOffhook),
    ("is_video_call", status.isVideoCall),
    ("is_rtt_call", status.isRttCall) ]

def shape : RecordShape CallStatus where
  start := {}
  fields := [
    .required "has_incoming_call" Decoder.bool fun value status =>
      { status with hasIncomingCall := value },
    .required "has_ongoing_call" Decoder.bool fun value status =>
      { status with hasOngoingCall := value },
    .required "is_outgoing" Decoder.bool fun value status => { status with isOutgoing := value },
    .required "is_offhook" Decoder.bool fun value status => { status with isOffhook := value },
    .required "is_video_call" Decoder.bool fun value status => { status with isVideoCall := value },
    .required "is_rtt_call" Decoder.bool fun value status => { status with isRttCall := value }]

def decode : Decoder CallStatus :=
  shape.decode

def encode (status : CallStatus) : Json :=
  .object (status.flags.map fun (name, value) => (name, .bool value))

end CallStatus

inductive Trigger where
  | resync
  | outgoingAnswered
  | incoming
deriving DecidableEq

instance : Labelled Trigger where
  values := [.resync, .outgoingAnswered, .incoming]
  label
    | .resync => "resync"
    | .outgoingAnswered => "outgoing_answered"
    | .incoming => "incoming"

structure ChangeSet where
  status : CallStatus := {}
  resync : Bool := false
  outgoingAnswered : Bool := false
  incoming : Bool := false
deriving DecidableEq

namespace ChangeSet

def isEmpty (change : ChangeSet) : Bool :=
  !change.resync && !change.outgoingAnswered && !change.incoming

/-- The set triggers, in the order they must be worked off. -/
def triggers (change : ChangeSet) : List Trigger :=
  (if change.resync then [.resync] else []) ++
    (if change.outgoingAnswered then [.outgoingAnswered] else []) ++
    (if change.incoming then [.incoming] else [])

end ChangeSet

structure CallAggregator where
  status : CallStatus := {}
  ringingCallId : Option String := none
  audioRoute : AudioRoute := .earpiece
deriving DecidableEq

namespace CallAggregator

def change (aggregator : CallAggregator) (old new : CallState) (calls : CallList) : ChangeSet :=
  let previous := aggregator.status
  let status := CallStatus.derive new calls
  { status
    resync := status.isOffhook != previous.isOffhook || status.isVideoCall != previous.isVideoCall ||
      status.isRttCall != previous.isRttCall
    outgoingAnswered := decide (old = .outgoing) && status.hasOngoingCall
    incoming := status.hasIncomingCall &&
      (!previous.hasIncomingCall || calls.ringingCallId != aggregator.ringingCallId) }

/-- The ringing call is remembered only while ringing lasts. -/
def notify (aggregator : CallAggregator) (old new : CallState) (calls : CallList) :
    ChangeSet × CallAggregator :=
  let change := aggregator.change old new calls
  (change,
    { aggregator with
      status := change.status
      ringingCallId := if change.status.hasIncomingCall then calls.ringingCallId else none })

/-- Whether the route is a new one. -/
def setRoute (aggregator : CallAggregator) (route : AudioRoute) : Bool × CallAggregator :=
  if route = aggregator.audioRoute then (false, aggregator)
  else (true, { aggregator with audioRoute := route })

end CallAggregator

end CallProximity
