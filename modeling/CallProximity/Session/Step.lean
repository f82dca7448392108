import CallProximity.Session.Basic
import CallProximity.Text.Quoted

/-! What a session does about each event.

Every event but a timer and the tear-down first loads the preferences afresh, then
changes the snapshot, and then works off what the change calls for. After the tear-down
nothing is done any more. -/

namespace CallProximity.Engine

variable {World : Type} (platform : Platform World)

def engageLock (engine : Engine World) : Engine World :=
  match platform.wakeLock with
  | none => engine
  | some lock =>
      if lock.isHeld engine.world then engine.note .trace "wake lock already acquired" []
      else
        (engine.note .info "acquiring proximity wake lock" []).attemptOrWarn .acquireLock
          lock.acquire "failed to acquire proximity wake lock"

def releaseLock (restoreImmediately : Bool) (engine : Engine World) : Engine World :=
  match platform.wakeLock with
  | none => engine
  | some lock =>
      if lock.isHeld engine.world then
        (engine.note .info "releasing proximity wake lock"
          [("restore_immediately", toString restoreImmediately)]).attemptOrWarn
          (.releaseLock restoreImmediately) (lock.release restoreImmediately)
          "failed to release proximity wake lock"
      else engine.note .trace "wake lock already released" []

def noteLockDecision (action : LockAction) (engine : Engine World) : Engine World :=
  let snapshot := engine.session.snapshot
  engine.note .debug "recompute screen-off lock" [
    ("action", action.describe),
    ("offhook", toString snapshot.isOffhook),
    ("horizontal", toString snapshot.isHorizontal),
    ("ui_showing", toString snapshot.uiShowing),
    ("dialpad_visible", toString snapshot.dialpadVisible),
    ("audio_route", label snapshot.audioRoute)]

/-- Brings the lock in line with the decision. Without a sensor there is none to make. -/
def recomputeLock (engine : Engine World) : Engine World :=
  if engine.session.classifier.isAvailable then
    let action := decideLock engine.session.snapshot engine.session.preferences
    let engine := engine.noteLockDecision action
    match engine.session.managesLock, action with
    | true, .engage => engine.engageLock platform
    | true, .release restoreImmediately => engine.releaseLock platform restoreImmediately
    | _, _ => engine
  else engine

def cancelPending (engine : Engine World) : Engine World :=
  match engine.session.pending with
  | none => engine
  | some activation =>
      ((engine.update ({ · with pending := none })).order (.cancel activation.generation)
        (platform.cancel activation.generation)).note .debug "deferred audio route cancelled"
        [("generation", toString activation.generation)]

def activationFields (activation : PendingActivation) : List (String × String) :=
  [("generation", toString activation.generation), ("route", label activation.route),
    ("delay_ms", toString activation.delay)]

def scheduleRoute (delay : UInt64) (route : AudioRoute) (engine : Engine World) : Engine World :=
  let generation := engine.session.generation + 1
  let activation : PendingActivation := ⟨generation, route, delay⟩
  ((engine.order (.schedule generation delay) (platform.schedule generation delay)).note
    .info "deferred audio route scheduled" (activationFields activation)).update
    ({ · with generation, pending := some activation })

/-- Whatever was pending is dropped, and the route decided again. -/
def recomputeRoute (wantsSpeaker : Bool) (engine : Engine World) : Engine World :=
  let engine := engine.cancelPending platform
  if engine.session.classifier.isAvailable then
    match decideSpeaker wantsSpeaker engine.session.snapshot engine.session.preferences with
    | .nothing => engine
    | .schedule delay route => engine.scheduleRoute platform delay route
    | .routeNow route =>
        (engine.note .info "routing audio" [("route", label route)]).attemptOrWarn
          (.setRoute route) (platform.setRoute route) "audio route change failed"
  else engine

/-- A refused answer leaves the call open to the next near reading. -/
def acceptCall (accept : Attempt World) (engine : Engine World) : Engine World :=
  let ringing := engine.session.calls.ringingCallId
  let callField := ("call_id", Text.quoteOption ringing)
  let engine := engine.note .info "auto-answering ringing call" [callField]
  match engine.attempt .acceptCall accept with
  | (.ok _, engine) => engine.update ({ · with lastAnswered := ringing })
  | (.error error, engine) =>
      engine.note .warn "auto-answer failed" [("error", error.message), callField]

/-- A ringing call is answered once. -/
def maybeAutoAnswer (near : Bool) (engine : Engine World) : Engine World :=
  match platform.telephony with
  | none => engine
  | some accept =>
      if shouldAutoAnswer near engine.session.snapshot engine.session.preferences true
          (platform.isScreenOn engine.world) then
        let ringing := engine.session.calls.ringingCallId
        if ringing.isSome && ringing = engine.session.lastAnswered then
          engine.note .debug "ringing call already auto-answered"
            [("call_id", Text.quoteOption ringing)]
        else engine.acceptCall accept
      else engine

/-- Readings go stale once nobody listens, so unsubscribing forgets the last one. -/
def applySubscription (reason : SubscriptionReason) (change : SubscriptionChange)
    (engine : Engine World) : Engine World :=
  match platform.sensor, change with
  | some sensor, .subscribe =>
      (engine.order .subscribe sensor.subscribe).note .info "proximity sensor subscribed"
        [("reason", reason.describe)]
  | some sensor, .unsubscribe =>
      ((engine.order .unsubscribe sensor.unsubscribe).update fun session =>
        { session with
          classifier := session.classifier.reset
          snapshot := session.snapshot.applyReading session.classifier.reset.reading }).note
        .info "proximity sensor unsubscribed" [("reason", reason.describe)]
  | _, _ => engine

def setReason (engine : Engine World) (reason : SubscriptionReason) (active : Bool) : Engine World :=
  let (change, subscriptions) := engine.session.subscriptions.set reason active
  (engine.update ({ · with subscriptions })).applySubscription platform reason change

/-- Reasons that begin are set before reasons that end, so that handing over from one to
the other keeps the subscription. -/
def updateSubscriptions (engine : Engine World) : Engine World :=
  let session := engine.session
  let wanted := [
    (SubscriptionReason.offhook, session.snapshot.isOffhook),
    (SubscriptionReason.ringing,
      session.snapshot.hasIncomingCall && session.preferences.autoAnswer)]
  let ordered := wanted.filter (fun (_, active) => active) ++
    wanted.filter (fun (_, active) => !active)
  ordered.foldl (fun engine (reason, active) => engine.setReason platform reason active) engine

def enableOrientation (enabled : Bool) (engine : Engine World) : Engine World :=
  engine.order (.enableOrientation enabled) (platform.enableOrientation enabled)

def resync (engine : Engine World) : Engine World :=
  let engine := engine.update fun session =>
    { session with snapshot := { session.snapshot with orientation := .unknown } }
  let offhook := engine.session.snapshot.isOffhook
  let engine := engine.enableOrientation platform offhook
  let engine := if offhook then engine else engine.cancelPending platform
  engine.recomputeLock platform

def runTrigger (engine : Engine World) : Trigger → Engine World
  | .resync => engine.resync platform
  | .outgoingAnswered =>
      (engine.recomputeRoute platform engine.session.snapshot.proximityFar).recomputeLock platform
  | .incoming =>
      (engine.maybeAutoAnswer platform engine.session.snapshot.proximityNear).recomputeLock platform

def noteCallChange (old new : CallState) (change : ChangeSet) (engine : Engine World) :
    Engine World :=
  if change.isEmpty then engine
  else
    engine.note .debug "call state changed" [
      ("old", label old),
      ("new", label new),
      ("offhook", toString change.status.isOffhook),
      ("video", toString change.status.isVideoCall),
      ("rtt", toString change.status.isRttCall),
      ("resync", toString change.resync),
      ("outgoing_answered", toString change.outgoingAnswered),
      ("incoming", toString change.incoming)]

def onCallState (old new : CallState) (calls : CallList) (engine : Engine World) : Engine World :=
  let (change, aggregator) := engine.session.calls.notify old new calls
  let engine := engine.noteCallChange old new change
  let engine := engine.update fun session =>
    { session with calls := aggregator, snapshot := session.snapshot.applyStatus change.status }
  let engine := engine.updateSubscriptions platform
  change.triggers.foldl (runTrigger platform) engine

def noteReadingChange (before after : ProximityReading) (engine : Engine World) : Engine World :=
  if after = before then engine
  else
    engine.note .debug "proximity reading changed"
      [("near", toString after.near), ("far", toString after.far)]

def onDistance (distance : Float32) (engine : Engine World) : Engine World :=
  let before := engine.session.classifier
  if before.isAvailable then
    let after := before.feed distance
    let reading := after.reading
    let engine := engine.noteReadingChange before.reading reading
    let engine := engine.update fun session =>
      { session with classifier := after, snapshot := session.snapshot.applyReading reading }
    (engine.recomputeRoute platform reading.far).maybeAutoAnswer platform reading.near
  else engine

def onAudioRoute (route : AudioRoute) (engine : Engine World) : Engine World :=
  match engine.session.calls.setRoute route with
  | (false, _) => engine
  | (true, aggregator) =>
      let engine := engine.note .debug "audio route changed"
        [("from", label engine.session.calls.audioRoute), ("to", label route)]
      let engine := engine.update fun session =>
        { session with calls := aggregator, snapshot := { session.snapshot with audioRoute := route } }
      let engine := if route = .earpiece then engine else engine.cancelPending platform
      engine.recomputeLock platform

def changeSnapshot (change : Snapshot → Snapshot) (engine : Engine World) : Engine World :=
  (engine.update fun session => { session with snapshot := change session.snapshot }).recomputeLock
    platform

/-- The call screen goes to the background also when the screen turns off, and then still
counts as showing. -/
def onUiShowing (showing : Bool) (engine : Engine World) : Engine World :=
  if showing || platform.isScreenOn engine.world then
    engine.changeSnapshot platform ({ · with uiShowing := showing })
  else engine.recomputeLock platform

def onDisplay (id : UInt32) (isOn : Bool) (engine : Engine World) : Engine World :=
  match engine.session.display.notify id isOn with
  | (none, _) => engine
  | (some isOn, display) =>
      ((engine.update ({ · with display })).note .info "display state changed"
        [("is_display_on", toString isOn)]).enableOrientation platform isOn

def noteSuperseded (generation : Nat) (engine : Engine World) : Engine World :=
  engine.note .trace "superseded speaker activation ignored" [("generation", toString generation)]

/-- Runs when the timer of an activation fires, whenever that is. Only the activation
that is still pending takes effect. -/
def onTimer (generation : Nat) (engine : Engine World) : Engine World :=
  if engine.session.tornDown then engine
  else
    match engine.session.pending with
    | some activation =>
        if activation.generation = generation then
          ((engine.update ({ · with pending := none })).note .info "activating deferred audio route"
            (activationFields activation)).attemptOrWarn (.setRoute activation.route)
            (platform.setRoute activation.route) "deferred audio route change failed"
        else engine.noteSuperseded generation
    | none => engine.noteSuperseded generation

/-- Releases the lock, drops what is pending and stops all listeners. -/
def tearDown (engine : Engine World) : Engine World :=
  if engine.session.tornDown then engine
  else
    let engine := engine.update ({ · with tornDown := true })
    let engine := engine.cancelPending platform
    let engine := engine.enableOrientation platform false
    let engine := engine.update fun session =>
      { session with subscriptions := session.subscriptions.clear.2 }
    let engine :=
      match platform.sensor with
      | some sensor => engine.order .unsubscribe sensor.unsubscribe
      | none => engine
    let engine := if engine.session.managesLock then engine.releaseLock platform true else engine
    engine.note .info "proximity session torn down" []

def addNotes (notes : List LogRecord) (engine : Engine World) : Engine World :=
  { engine with log := engine.log ++ notes }

def refreshPreferences (engine : Engine World) : Engine World :=
  let source := platform.preferences engine.world
  let preferences := Preferences.load source
  let engine := engine.addNotes (Preferences.loadNotes source)
  let engine :=
    if preferences = engine.session.preferences then engine
    else engine.note .debug "preferences changed" [("prefs", preferences.describe)]
  engine.update fun session =>
    { session with
      preferences
      snapshot := { session.snapshot with sensorDisabledByPreference := preferences.sensorDisabled } }

/-- Runs the work of an event on fresh preferences, unless the session was torn down. -/
def process (work : Engine World → Engine World) (engine : Engine World) : Engine World :=
  if engine.session.tornDown then engine.note .trace "event after teardown ignored" []
  else work (engine.refreshPreferences platform)

def step (engine : Engine World) : Event → Engine World
  | .distance value => engine.process platform (onDistance platform value)
  | .orientation value =>
      engine.process platform (changeSnapshot platform ({ · with orientation := value }))
  | .callState old new calls => engine.process platform (onCallState platform old new calls)
  | .audioRoute route => engine.process platform (onAudioRoute platform route)
  | .uiShowing showing => engine.process platform (onUiShowing platform showing)
  | .dialpad visible =>
      engine.process platform (changeSnapshot platform ({ · with dialpadVisible := visible }))
  | .attemptingVideo attempting =>
      engine.process platform fun engine =>
        (engine.note .info "attempting video call changed"
          [("attempting", toString attempting)]).changeSnapshot platform
          ({ · with isAttemptingVideoCall := attempting })
  | .display id isOn => engine.process platform (onDisplay platform id isOn)
  | .timer generation => engine.onTimer platform generation
  | .tearDown => engine.tearDown platform

/-- A new session on the platform. It takes over the wake lock only with a sensor at hand
and proximity not turned off; a lock that it leaves alone is let go first. -/
def start (config : ClassifierConfig) (world : World) : Engine World :=
  let source := platform.preferences world
  let preferences := Preferences.load source
  let classifier : ProximityClassifier :=
    match platform.sensor with
    | some sensor => { maxRange := some sensor.maxRange, config }
    | none => { maxRange := none }
  let managesLock :=
    platform.wakeLock.isSome && classifier.isAvailable && !preferences.sensorDisabled
  let engine : Engine World := {
    session := {
      snapshot := { sensorDisabledByPreference := preferences.sensorDisabled }
      preferences
      classifier
      managesLock }
    world }
  let engine := engine.addNotes (Preferences.loadNotes source)
  let engine := if managesLock then engine else engine.releaseLock platform true
  engine.note .info "proximity session started" [
    ("sensor_available", toString classifier.isAvailable),
    ("sensor_disabled", toString preferences.sensorDisabled),
    ("wake_lock", toString platform.wakeLock.isSome)]

end CallProximity.Engine
