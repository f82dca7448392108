import CallProximity.Proofs.Requests

/-! What each operation makes of a session, and what it asks for, as functions of the session alone. -/

namespace CallProximity

variable {World : Type}

namespace Session

def activation? (wantsSpeaker : Bool) (session : Session) : Option PendingActivation :=
  if session.classifier.isAvailable then
    match decideSpeaker wantsSpeaker session.snapshot session.preferences with
    | .schedule delay route => some ⟨session.generation + 1, route, delay⟩
    | _ => none
  else none

def reroute (wantsSpeaker : Bool) (session : Session) : Session :=
  { session with
    generation := (session.activation? wantsSpeaker).elim session.generation PendingActivation.generation
    pending := session.activation? wantsSpeaker }

def cancelRequests (session : Session) : List Request :=
  session.pending.toList.map fun activation => .cancel activation.generation

/-- What judging the audio route asks for, once nothing is pending any more. -/
def routeRequests (wantsSpeaker : Bool) (session : Session) : List Request :=
  if session.classifier.isAvailable then
    match decideSpeaker wantsSpeaker session.snapshot session.preferences with
    | .nothing => []
    | .schedule delay _ => [.schedule (session.generation + 1) delay]
    | .routeNow route => [.setRoute route]
  else []

theorem isForSpeaker_of_mem_routeRequests {session : Session} {wantsSpeaker : Bool} {request : Request}
    (member : request ∈ session.routeRequests wantsSpeaker) : request.isForSpeaker = true := by
  simp only [routeRequests] at member
  grind

def wantedReasons (session : Session) : SubscriptionReasons where
  offhook := session.snapshot.isOffhook
  ringing := session.snapshot.hasIncomingCall && session.preferences.autoAnswer

/-- The session whose sensor is subscribed for the reasons that hold now. The last reading
is forgotten where the subscription ends. -/
def resubscribe (hasSensor : Bool) (session : Session) : Session :=
  if hasSensor && session.subscriptions.changeTo session.wantedReasons = .unsubscribe then
    { session with
      subscriptions := session.wantedReasons
      classifier := session.classifier.reset
      snapshot := session.snapshot.applyReading .initial }
  else { session with subscriptions := session.wantedReasons }

def sensorRequests (hasSensor : Bool) (session : Session) : List Request :=
  match hasSensor, session.subscriptions.changeTo session.wantedReasons with
  | true, .subscribe => [.subscribe]
  | true, .unsubscribe => [.unsubscribe]
  | _, _ => []

def resync (session : Session) : Session :=
  { session with
    snapshot := { session.snapshot with orientation := .unknown }
    pending := if session.snapshot.isOffhook then session.pending else none }

/-- What a resync asks for, short of the lock. -/
def resyncRequests (session : Session) : List Request :=
  .enableOrientation session.snapshot.isOffhook ::
    if session.snapshot.isOffhook then [] else session.cancelRequests

def answered (call : Option String) (session : Session) : Session :=
  { session with lastAnswered := call }

def notify (old new : CallState) (calls : CallList) (session : Session) : Session :=
  { session with
    calls := (session.calls.notify old new calls).2
    snapshot := session.snapshot.applyStatus (CallStatus.derive new calls) }

/-- The session that has taken in a call notification, before any trigger is worked off. -/
def hear (hasSensor : Bool) (old new : CallState) (calls : CallList) (session : Session) : Session :=
  (session.notify old new calls).resubscribe hasSensor

/-- Whether the ringing call is to be answered: by decision, and unless it was before. -/
def wantsAnswer (near screenOn : Bool) (session : Session) : Bool :=
  shouldAutoAnswer near session.snapshot session.preferences true screenOn &&
    !(session.calls.ringingCallId.isSome && session.calls.ringingCallId = session.lastAnswered)

def opening (platform : Platform World) (config : ClassifierConfig) (preferences : Preferences) : Session where
  snapshot := { sensorDisabledByPreference := preferences.sensorDisabled }
  preferences
  classifier :=
    match platform.sensor with
    | some sensor => { maxRange := some sensor.maxRange, config }
    | none => { maxRange := none }
  managesLock := platform.wakeLock.isSome && platform.sensor.isSome && !preferences.sensorDisabled

def work (change : ChangeSet) (session : Session) : Session :=
  let session := if change.resync then session.resync else session
  if change.outgoingAnswered then session.reroute session.snapshot.proximityFar else session

/-- What working off the triggers of a change asks for, short of the lock and of answers. -/
def workRequests (change : ChangeSet) (session : Session) : List Request :=
  let resynced := if change.resync then session.resync else session
  (if change.resync then session.resyncRequests else []) ++
    if change.outgoingAnswered then
      resynced.cancelRequests ++ resynced.routeRequests resynced.snapshot.proximityFar
    else []

theorem filter_cancelRequests {kind : Request → Bool}
    (spared : ∀ generation, kind (.cancel generation) = false) (session : Session) :
    session.cancelRequests.filter kind = [] := by
  apply Request.filter_eq_nil
  intro request member
  obtain ⟨activation, -, rfl⟩ := List.mem_map.mp member
  exact spared activation.generation

theorem filter_sensorRequests {kind : Request → Bool} (subscribing : kind .subscribe = false)
    (unsubscribing : kind .unsubscribe = false) (hasSensor : Bool) (session : Session) :
    (session.sensorRequests hasSensor).filter kind = [] := by
  simp only [sensorRequests]
  split <;> simp [subscribing, unsubscribing]

theorem filter_routeRequests {kind : Request → Bool} (spared : ∀ request, request.isForSpeaker = true → kind request = false)
    (wantsSpeaker : Bool) (session : Session) : (session.routeRequests wantsSpeaker).filter kind = [] :=
  Request.filter_eq_nil fun request member => spared request (isForSpeaker_of_mem_routeRequests member)

/-- A kind that counts no upkeep sees the route judged, with or without a resync before. -/
theorem filter_workRequests {kind : Request → Bool} (spared : ∀ request, request.isUpkeep = true → kind request = false)
    (change : ChangeSet) (session : Session) : (session.workRequests change).filter kind =
      (if change.outgoingAnswered then session.routeRequests session.snapshot.proximityFar else []).filter kind := by
  have cancelled (session : Session) : session.cancelRequests.filter kind = [] :=
    filter_cancelRequests (fun generation => spared (.cancel generation) rfl) session
  have resynced : session.resyncRequests.filter kind = [] := by
    simp only [resyncRequests]
    rw [List.filter_cons_of_neg (by simp [spared (.enableOrientation session.snapshot.isOffhook) rfl])]
    split
    · rfl
    · exact cancelled session
  have same : session.resync.routeRequests session.resync.snapshot.proximityFar =
      session.routeRequests session.snapshot.proximityFar := rfl
  simp only [workRequests, List.filter_append]
  cases change.resync <;> cases change.outgoingAnswered <;> simp [cancelled, resynced, same]

end Session

end CallProximity
