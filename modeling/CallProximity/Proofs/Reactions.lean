import CallProximity.Proofs.Account

/-! What an event does to a session, as a function of the session and of the little it
reads of its surroundings. What the platform refuses plays no part in it, but for refused
answers: whether a call was answered is left open. -/

namespace CallProximity

variable {World : Type}

/-- What a session reads of its surroundings at an event. -/
structure Surroundings where
  hasSensor : Bool
  preferences : Preferences
  screenOn : Bool

def Platform.surroundings (platform : Platform World) (world : World) : Surroundings where
  hasSensor := platform.sensor.isSome
  preferences := Preferences.load (platform.preferences world)
  screenOn := platform.isScreenOn world

def Event.mayAnswer : Event → Bool
  | .distance _ | .callState _ _ _ => true
  | _ => false

namespace Session

def refresh (preferences : Preferences) (session : Session) : Session :=
  { session with
    preferences
    snapshot := { session.snapshot with sensorDisabledByPreference := preferences.sensorDisabled } }

@[simp] theorem calls_refresh (preferences : Preferences) (session : Session) :
    (session.refresh preferences).calls = session.calls := rfl

def sense (distance : Float32) (session : Session) : Session :=
  { session with
    classifier := session.classifier.feed distance
    snapshot := session.snapshot.applyReading (session.classifier.feed distance).reading }

theorem isAvailable_sense (distance : Float32) (session : Session) :
    (session.sense distance).classifier.isAvailable = session.classifier.isAvailable := by
  unfold sense ProximityClassifier.feed
  dsimp only
  split <;> rfl

def adjust (change : Snapshot → Snapshot) (session : Session) : Session :=
  { session with snapshot := change session.snapshot }

def moveAudio (route : AudioRoute) (session : Session) : Session :=
  if route = session.calls.audioRoute then session
  else
    { session with
      calls := { session.calls with audioRoute := route }
      snapshot := { session.snapshot with audioRoute := route }
      pending := if route = .earpiece then session.pending else none }

/-- The work of an event on a running session with fresh preferences. -/
def react (around : Surroundings) (session : Session) : Event → Session
  | .distance value =>
      if session.classifier.isAvailable then
        (session.sense value).reroute (session.sense value).snapshot.proximityFar
      else session
  | .orientation value => session.adjust ({ · with orientation := value })
  | .callState old new calls =>
      (session.hear around.hasSensor old new calls).work (session.calls.change old new calls)
  | .audioRoute route => session.moveAudio route
  | .uiShowing showing =>
      if showing || around.screenOn then session.adjust ({ · with uiShowing := showing }) else session
  | .dialpad visible => session.adjust ({ · with dialpadVisible := visible })
  | .attemptingVideo attempting => session.adjust ({ · with isAttemptingVideoCall := attempting })
  | .display id isOn => { session with display := (session.display.notify id isOn).2 }
  | .timer _ | .tearDown => session

def fire (generation : Nat) (session : Session) : Session :=
  if session.pending.any (·.generation = generation) then { session with pending := none } else session

def fireRequests (generation : Nat) (session : Session) : List Request :=
  match session.pending with
  | some activation => if activation.generation = generation then [.setRoute activation.route] else []
  | none => []

def close (session : Session) : Session :=
  { session with tornDown := true, pending := none, subscriptions := {} }

def closingRequests (hasSensor : Bool) (session : Session) : List Request :=
  session.cancelRequests ++ .enableOrientation false :: if hasSensor then [.unsubscribe] else []

/-- The session after an event, but for the last answered call. -/
def next (around : Surroundings) (session : Session) (event : Event) : Session :=
  if session.tornDown then session
  else
    match event with
    | .timer generation => session.fire generation
    | .tearDown => session.close
    | event => (session.refresh around.preferences).react around event

def equipment (session : Session) : Bool × Bool :=
  (session.managesLock, session.classifier.isAvailable)

/-- What the work of an event leaves alone: what the session was given when it started, whether
it runs, the preferences, and which call was answered last. -/
def standing (session : Session) : (Bool × Bool) × Bool × Preferences × Option String :=
  (session.equipment, session.tornDown, session.preferences, session.lastAnswered)

theorem standing_hear (hasSensor : Bool) (old new : CallState) (calls : CallList) (session : Session) :
    (session.hear hasSensor old new calls).standing = session.standing := by
  simp only [hear, resubscribe]
  split <;> rfl

/-- What neither a resync nor a judgement of the route touches, no work touches. -/
theorem kept_work {α : Type} {view : Session → α} (resynced : ∀ session : Session, view session.resync = view session)
    (rerouted : ∀ (session : Session) (wantsSpeaker : Bool), view (session.reroute wantsSpeaker) = view session)
    (change : ChangeSet) (session : Session) : view (session.work change) = view session := by
  simp only [work]
  cases change.resync <;> cases change.outgoingAnswered
  · rfl
  · exact rerouted ..
  · exact resynced ..
  · exact (rerouted ..).trans (resynced ..)

theorem standing_work (change : ChangeSet) (session : Session) :
    (session.work change).standing = session.standing :=
  kept_work (fun _ => rfl) (fun _ _ => rfl) change session

theorem standing_react (around : Surroundings) (session : Session) (event : Event) :
    (session.react around event).standing = session.standing := by
  cases event with
  | distance value =>
    have sensed : (session.sense value).standing = session.standing := by
      simp only [standing, equipment]
      rw [isAvailable_sense]
      rfl
    simp only [react]
    split
    · exact sensed
    · rfl
  | callState old new calls => exact (standing_work ..).trans (standing_hear ..)
  | audioRoute route =>
    simp only [react, moveAudio]
    split <;> rfl
  | uiShowing showing =>
    simp only [react]
    split <;> rfl
  | orientation _ | dialpad _ | attemptingVideo _ | display _ _ | timer _ | tearDown => rfl

theorem disabled_react (around : Surroundings) (session : Session) (event : Event) :
    (session.react around event).snapshot.sensorDisabledByPreference =
      session.snapshot.sensorDisabledByPreference := by
  cases event with
  | distance value =>
    simp only [react]
    split <;> rfl
  | callState old new calls =>
    have worked (change : ChangeSet) (session : Session) : (session.work change).snapshot.sensorDisabledByPreference =
        session.snapshot.sensorDisabledByPreference :=
      @kept_work _ (·.snapshot.sensorDisabledByPreference) (fun _ => rfl) (fun _ _ => rfl) change session
    refine (worked ..).trans ?_
    simp only [hear, resubscribe]
    split <;> rfl
  | audioRoute route =>
    simp only [react, moveAudio]
    split <;> rfl
  | uiShowing showing =>
    simp only [react]
    split <;> rfl
  | orientation _ | dialpad _ | attemptingVideo _ | display _ _ | timer _ | tearDown => rfl

theorem refresh_eq_self {preferences : Preferences} {session : Session} (loaded : session.preferences = preferences)
    (disabled : session.snapshot.sensorDisabledByPreference = preferences.sensorDisabled) :
    session.refresh preferences = session := by
  subst loaded
  simp only [refresh, ← disabled]

theorem refresh_react (preferences : Preferences) (around : Surroundings) (session : Session) (event : Event) :
    ((session.refresh preferences).react around event).refresh preferences =
      (session.refresh preferences).react around event := by
  apply refresh_eq_self
  · exact congrArg (·.2.2.1) (standing_react around (session.refresh preferences) event)
  · exact disabled_react around (session.refresh preferences) event

theorem standing_fire (generation : Nat) (session : Session) :
    (session.fire generation).standing = session.standing := by
  simp only [fire]
  split <;> rfl

theorem equipment_next (around : Surroundings) (session : Session) (event : Event) :
    (session.next around event).equipment = session.equipment := by
  have reacted (event : Event) :
      ((session.refresh around.preferences).react around event).equipment = session.equipment :=
    (congrArg Prod.fst (standing_react around (session.refresh around.preferences) event)).trans rfl
  simp only [next]
  split
  · rfl
  · cases event with
    | timer generation => exact congrArg Prod.fst (standing_fire generation session)
    | tearDown => rfl
    | _ => exact reacted _

theorem lastAnswered_next (around : Surroundings) (session : Session) (event : Event) :
    (session.next around event).lastAnswered = session.lastAnswered := by
  have reacted (event : Event) :
      ((session.refresh around.preferences).react around event).lastAnswered = session.lastAnswered :=
    congrArg (·.2.2.2) (standing_react around (session.refresh around.preferences) event)
  simp only [next]
  split
  · rfl
  · cases event with
    | timer generation => exact congrArg (·.2.2.2) (standing_fire generation session)
    | tearDown => rfl
    | _ => exact reacted _

theorem tornDown_next (around : Surroundings) (session : Session) {event : Event} (going : event ≠ .tearDown) :
    (session.next around event).tornDown = session.tornDown := by
  have reacted (event : Event) :
      ((session.refresh around.preferences).react around event).tornDown = session.tornDown :=
    congrArg (·.2.1) (standing_react around (session.refresh around.preferences) event)
  simp only [next]
  split
  · rfl
  · cases event with
    | timer generation => exact congrArg (·.2.1) (standing_fire generation session)
    | tearDown => exact absurd rfl going
    | _ => exact reacted _

/-- What an event asks for, the lock and answers apart. -/
def eventRequests (around : Surroundings) (session : Session) (event : Event) : List Request :=
  if session.tornDown then []
  else
    match event with
    | .distance value =>
        if session.classifier.isAvailable then
          let sensed := (session.refresh around.preferences).sense value
          sensed.cancelRequests ++ sensed.routeRequests sensed.snapshot.proximityFar
        else []
    | .callState old new calls =>
        let fresh := session.refresh around.preferences
        (fresh.notify old new calls).sensorRequests around.hasSensor ++
          (fresh.hear around.hasSensor old new calls).workRequests (session.calls.change old new calls)
    | .audioRoute route =>
        if route = session.calls.audioRoute || route = .earpiece then [] else session.cancelRequests
    | .display id isOn => (session.display.notify id isOn).1.toList.map .enableOrientation
    | .timer generation => session.fireRequests generation
    | .tearDown => session.closingRequests around.hasSensor
    | .orientation _ | .uiShowing _ | .dialpad _ | .attemptingVideo _ => []

def speakerRequests (around : Surroundings) (session : Session) (event : Event) : List Request :=
  if session.tornDown then []
  else
    match event with
    | .timer generation => session.fireRequests generation
    | .distance value =>
        let sensed := (session.refresh around.preferences).sense value
        sensed.routeRequests sensed.snapshot.proximityFar
    | .callState old new calls =>
        if (session.calls.change old new calls).outgoingAnswered then
          let heard := (session.refresh around.preferences).hear around.hasSensor old new calls
          heard.routeRequests heard.snapshot.proximityFar
        else []
    | _ => []

def subscriptionRequests (around : Surroundings) (session : Session) (event : Event) : List Request :=
  if session.tornDown then []
  else
    match event with
    | .callState old new calls =>
        ((session.refresh around.preferences).notify old new calls).sensorRequests around.hasSensor
    | .tearDown => if around.hasSensor then [.unsubscribe] else []
    | _ => []

theorem isForSensor_of_mem_subscriptionRequests {around : Surroundings} {session : Session} {event : Event}
    {request : Request} (member : request ∈ session.subscriptionRequests around event) :
    request.isForSensor = true := by
  simp only [subscriptionRequests, sensorRequests] at member
  grind

theorem isForSpeaker_of_mem_speakerRequests {around : Surroundings} {session : Session} {event : Event}
    {request : Request} (member : request ∈ session.speakerRequests around event) : request.isForSpeaker = true := by
  simp only [speakerRequests, fireRequests] at member
  grind [isForSpeaker_of_mem_routeRequests]

/-- What a kind that counts no upkeep leaves of all that an event asks for: first of the sensor, then of the
speaker. -/
theorem filter_eventRequests {kind : Request → Bool} (spared : ∀ request, request.isUpkeep = true → kind request = false)
    (around : Surroundings) (session : Session) (event : Event) : (session.eventRequests around event).filter kind =
      (session.subscriptionRequests around event ++ session.speakerRequests around event).filter kind := by
  have cancelled (session : Session) : session.cancelRequests.filter kind = [] :=
    filter_cancelRequests (fun generation => spared (.cancel generation) rfl) session
  simp only [eventRequests, subscriptionRequests, speakerRequests]
  split
  · rfl
  · cases event with
    | distance value =>
      have same : ((session.refresh around.preferences).sense value).classifier.isAvailable =
          session.classifier.isAvailable := isAvailable_sense ..
      simp only [routeRequests, same, List.nil_append]
      split
      · rw [List.filter_append, cancelled, List.nil_append]
      · rfl
    | callState old new calls =>
      dsimp only
      rw [List.filter_append, filter_workRequests spared, List.filter_append]
    | audioRoute route =>
      dsimp only
      split
      · rfl
      · exact cancelled session
    | display id isOn =>
      apply Request.filter_eq_nil
      intro request member
      obtain ⟨isOn, -, rfl⟩ := List.mem_map.mp member
      exact spared (.enableOrientation isOn) rfl
    | tearDown =>
      simp only [closingRequests, List.filter_append, cancelled]
      simp [spared (.enableOrientation false) rfl]
    | orientation _ | uiShowing _ | dialpad _ | attemptingVideo _ | timer _ => rfl

/-- Whether an event has the lock brought in line. -/
def settles (session : Session) : Event → Bool
  | .orientation _ | .uiShowing _ | .dialpad _ | .attemptingVideo _ => true
  | .audioRoute route => route ≠ session.calls.audioRoute
  | .callState old new calls => !(session.calls.change old new calls).isEmpty
  | .distance _ | .display _ _ | .timer _ | .tearDown => false

end Session

end CallProximity
