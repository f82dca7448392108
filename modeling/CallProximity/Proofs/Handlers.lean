import CallProximity.Proofs.Operations
import CallProximity.Proofs.Reactions

/-! What the work of each event does to the session, and what it asks of the platform. -/

namespace CallProximity

variable {World : Type}

namespace Engine

variable {platform : Platform World} {engine : Engine World}

theorem session_refreshPreferences : (engine.refreshPreferences platform).session =
    engine.session.refresh (Preferences.load (platform.preferences engine.world)) := by
  unfold refreshPreferences addNotes
  dsimp only
  split <;> rfl

theorem calls_refreshPreferences : (engine.refreshPreferences platform).session.calls = engine.session.calls := by
  rw [session_refreshPreferences, Session.calls_refresh]

theorem world_refreshPreferences : (engine.refreshPreferences platform).world = engine.world := by
  unfold refreshPreferences addNotes
  dsimp only
  split <;> rfl

theorem makes_refreshPreferences : Makes platform [] engine (engine.refreshPreferences platform) := by
  unfold refreshPreferences addNotes
  dsimp only
  split <;> exact .nothing rfl rfl

theorem session_changeSnapshot (change : Snapshot → Snapshot) :
    (engine.changeSnapshot platform change).session = engine.session.adjust change := by
  simp [changeSnapshot, Session.adjust]

variable {around : Surroundings}

def sensed (distance : Float32) (engine : Engine World) : Engine World :=
  (engine.noteReadingChange engine.session.classifier.reading
    (engine.session.classifier.feed distance).reading).update (·.sense distance)

theorem session_sensed (distance : Float32) :
    (engine.sensed distance).session = engine.session.sense distance := by
  simp only [sensed, noteReadingChange]
  split <;> rfl

theorem makes_sensed (distance : Float32) : Makes platform [] engine (engine.sensed distance) := by
  simp only [sensed, noteReadingChange]
  split <;> exact .nothing rfl rfl

theorem onDistance_of_available (available : engine.session.classifier.isAvailable = true)
    (distance : Float32) : engine.onDistance platform distance =
      ((engine.sensed distance).recomputeRoute platform
        (engine.session.sense distance).snapshot.proximityFar).maybeAutoAnswer platform
        (engine.session.sense distance).snapshot.proximityNear := by
  simp only [onDistance, sensed, noteReadingChange, available, ↓reduceIte]
  split <;> rfl

theorem onDistance_of_unavailable (unavailable : engine.session.classifier.isAvailable = false)
    (distance : Float32) : engine.onDistance platform distance = engine := by
  simp [onDistance, unavailable]

theorem session_onDistance (distance : Float32) : ∃ call, (engine.onDistance platform distance).session =
    (if engine.session.classifier.isAvailable then
      (engine.session.sense distance).reroute (engine.session.sense distance).snapshot.proximityFar
    else engine.session).answered call ∧ (platform.Rejects → call = engine.session.lastAnswered) := by
  cases available : engine.session.classifier.isAvailable with
  | false => exact ⟨engine.session.lastAnswered, by rw [onDistance_of_unavailable available]; rfl, fun _ => rfl⟩
  | true =>
    rw [onDistance_of_available available]
    obtain ⟨call, answered, kept⟩ := ((engine.sensed distance).recomputeRoute platform
      (engine.session.sense distance).snapshot.proximityFar).session_maybeAutoAnswer
      (engine.session.sense distance).snapshot.proximityNear
    rw [session_recomputeRoute, session_sensed] at answered kept
    exact ⟨call, answered, kept⟩

theorem session_onUiShowing (showing : Bool) (screen : around.screenOn = platform.isScreenOn engine.world) :
    (engine.onUiShowing platform showing).session = engine.session.react around (.uiShowing showing) := by
  unfold onUiShowing Session.react
  rw [screen]
  dsimp only
  split
  · exact session_changeSnapshot _
  · simp

theorem session_onAudioRoute (route : AudioRoute) :
    (engine.onAudioRoute platform route).session = engine.session.moveAudio route := by
  simp only [onAudioRoute, Session.moveAudio, CallAggregator.setRoute]
  by_cases same : route = engine.session.calls.audioRoute
  · simp [same]
  · simp only [same, ↓reduceIte]
    split <;> simp_all

theorem session_onDisplay (id : UInt32) (isOn : Bool) : (engine.onDisplay platform id isOn).session =
    { engine.session with display := (engine.session.display.notify id isOn).2 } := by
  simp only [onDisplay]
  cases flipped : engine.session.display.notify id isOn with
  | mk report display =>
    cases report with
    | none =>
      have kept : display = engine.session.display := by
        simp only [DisplayTracker.notify] at flipped
        grind
      rw [kept]
    | some isOn => rfl

theorem makes_onDisplay (id : UInt32) (isOn : Bool) :
    Makes platform ((engine.session.display.notify id isOn).1.toList.map .enableOrientation) engine
      (engine.onDisplay platform id isOn) := by
  simp only [onDisplay]
  cases engine.session.display.notify id isOn with
  | mk report display =>
    cases report with
    | none => exact .refl platform engine
    | some isOn => exact (((Makes.refl platform engine).update _).note ..).trans (makes_enableOrientation isOn)

/-- The engine that has taken in a call notification, before any trigger is worked off. -/
def heard (platform : Platform World) (old new : CallState) (calls : CallList) (engine : Engine World) :
    Engine World :=
  ((engine.noteCallChange old new (engine.session.calls.change old new calls)).update
    (·.notify old new calls)).updateSubscriptions platform

theorem onCallState_eq (old new : CallState) (calls : CallList) :
    engine.onCallState platform old new calls =
      (engine.heard platform old new calls).runTriggers platform (engine.session.calls.change old new calls) := by
  unfold onCallState
  dsimp only
  have changed : (engine.session.calls.notify old new calls).1 = engine.session.calls.change old new calls := rfl
  rw [foldl_triggers, changed]
  simp only [heard, noteCallChange]
  cases (engine.session.calls.change old new calls).isEmpty <;> rfl

theorem session_heard (old new : CallState) (calls : CallList) : (engine.heard platform old new calls).session =
    engine.session.hear platform.sensor.isSome old new calls := by
  simp only [heard, noteCallChange]
  rw [session_updateSubscriptions]
  split <;> rfl

theorem makes_heard (old new : CallState) (calls : CallList) :
    Makes platform ((engine.session.notify old new calls).sensorRequests platform.sensor.isSome) engine
      (engine.heard platform old new calls) := by
  have noted : Makes platform [] engine
      ((engine.noteCallChange old new (engine.session.calls.change old new calls)).update (·.notify old new calls)) := by
    simp only [noteCallChange]
    split
    · exact (Makes.refl platform engine).update _
    · exact ((Makes.refl platform engine).note ..).update _
  have same : ((engine.noteCallChange old new (engine.session.calls.change old new calls)).update
      (·.notify old new calls)).session = engine.session.notify old new calls := by
    simp only [noteCallChange]
    split <;> rfl
  have subscribed := noted.trans makes_updateSubscriptions
  rw [same] at subscribed
  exact subscribed

theorem asks_heard {kind : Request → Bool} (subscribing : kind .subscribe = false)
    (unsubscribing : kind .unsubscribe = false) (old new : CallState) (calls : CallList) :
    Asks platform kind [] engine (engine.heard platform old new calls) :=
  ⟨_, makes_heard old new calls, Session.filter_sensorRequests subscribing unsubscribing ..⟩

theorem session_onCallState (old new : CallState) (calls : CallList) :
    ∃ call, (engine.onCallState platform old new calls).session =
      ((engine.session.hear platform.sensor.isSome old new calls).work
        (engine.session.calls.change old new calls)).answered call ∧
      (platform.Rejects → call = engine.session.lastAnswered) := by
  have kept : ((engine.session.hear platform.sensor.isSome old new calls).work
      (engine.session.calls.change old new calls)).lastAnswered = engine.session.lastAnswered :=
    congrArg (·.2.2.2) ((Session.standing_work ..).trans (Session.standing_hear ..))
  rw [onCallState_eq, ← kept, ← session_heard]
  exact session_runTriggers _

theorem session_onTimer (generation : Nat) (running : engine.session.tornDown = false) :
    (engine.onTimer platform generation).session = engine.session.fire generation := by
  simp only [onTimer, Session.fire]
  rw [running]
  cases held : engine.session.pending with
  | none => simp [noteSuperseded]
  | some activation =>
    by_cases same : activation.generation = generation <;> simp [same, running, noteSuperseded]

theorem makes_onTimer (generation : Nat) (running : engine.session.tornDown = false) :
    Makes platform (engine.session.fireRequests generation) engine (engine.onTimer platform generation) := by
  simp only [onTimer, Session.fireRequests]
  rw [running]
  cases engine.session.pending with
  | none => exact (Makes.refl platform engine).note ..
  | some activation =>
    by_cases same : activation.generation = generation
    · simp only [same, ↓reduceIte, Bool.false_eq_true]
      exact (((Makes.refl platform engine).update _).note ..).attemptOrWarn _ _ _ rfl
    · simp only [same, ↓reduceIte, Bool.false_eq_true]
      exact (Makes.refl platform engine).note ..

theorem onTimer_of_tornDown (generation : Nat) (done : engine.session.tornDown = true) :
    engine.onTimer platform generation = engine := by
  simp [onTimer, done]

/-- The engine of a tear-down that has come to the lock. -/
def dismantle (platform : Platform World) (engine : Engine World) : Engine World :=
  let engine := (engine.update ({ · with tornDown := true })).cancelPending platform
  let engine := (engine.enableOrientation platform false).update ({ · with subscriptions := {} })
  match platform.sensor with
  | some sensor => engine.order .unsubscribe sensor.unsubscribe
  | none => engine

theorem tearDown_of_running (running : engine.session.tornDown = false) : engine.tearDown platform =
    (if (engine.dismantle platform).session.managesLock then (engine.dismantle platform).releaseLock platform true
      else engine.dismantle platform).note .info "proximity session torn down" [] := by
  simp only [tearDown, running]
  rfl

theorem session_dismantle : (engine.dismantle platform).session = engine.session.close := by
  simp only [dismantle, Session.close, enableOrientation]
  split <;> simp

theorem makes_dismantle : Makes platform (engine.session.closingRequests platform.sensor.isSome) engine
    (engine.dismantle platform) := by
  have marked : Makes platform [] engine (engine.update ({ · with tornDown := true })) :=
    (Makes.refl platform engine).update _
  have cancelled : Makes platform engine.session.cancelRequests _ _ :=
    @makes_cancelPending World platform (engine.update ({ · with tornDown := true }))
  have stopped := ((marked.trans cancelled).trans (makes_enableOrientation false)).update
    ({ · with subscriptions := {} })
  simp only [dismantle, Session.closingRequests]
  cases present : platform.sensor with
  | none => exact stopped
  | some sensor =>
    have unsubscribed := stopped.order .unsubscribe sensor.unsubscribe (by simp [Platform.perform, present])
    rw [List.append_assoc] at unsubscribed
    exact unsubscribed

theorem session_tearDown (running : engine.session.tornDown = false) :
    (engine.tearDown platform).session = engine.session.close := by
  rw [tearDown_of_running running, session_note, ← session_dismantle]
  split
  · exact session_releaseLock true
  · rfl

/-- What the tear-down asks for. The lock is let go last, if it is held even then. -/
def tearDownRequests (platform : Platform World) (engine : Engine World) : List Request :=
  let closing := engine.session.closingRequests platform.sensor.isSome
  let dismantled := closing.foldl platform.perform engine.world
  closing ++
    if engine.session.managesLock && platform.wakeLock.any (·.isHeld dismantled) then [.releaseLock true] else []

theorem makes_tearDown (running : engine.session.tornDown = false) :
    Makes platform (engine.tearDownRequests platform) engine (engine.tearDown platform) := by
  have dismantled : Makes platform _ engine (engine.dismantle platform) := makes_dismantle
  have managed : (engine.dismantle platform).session.managesLock = engine.session.managesLock := by
    rw [session_dismantle]
    rfl
  rw [tearDown_of_running running, managed]
  simp only [tearDownRequests, ← dismantled.world]
  refine Makes.note (dismantled.trans ?_) ..
  cases engine.session.managesLock with
  | false => exact .refl platform _
  | true => exact makes_releaseLock true

theorem asks_onDistance {kind : Request → Bool} (unheard : kind .acceptCall = false) (distance : Float32) :
    Asks platform kind
    ((if engine.session.classifier.isAvailable then
        (engine.session.sense distance).cancelRequests ++
          (engine.session.sense distance).routeRequests (engine.session.sense distance).snapshot.proximityFar
      else []).filter kind)
    engine (engine.onDistance platform distance) := by
  cases available : engine.session.classifier.isAvailable with
  | false =>
    rw [onDistance_of_unavailable available]
    exact .refl platform engine
  | true =>
    rw [onDistance_of_available available, ← session_sensed distance]
    exact (((makes_sensed distance).trans (makes_recomputeRoute _)).asks kind).andNothing
      (asks_maybeAutoAnswer unheard _)

section Kind

variable {kind : Request → Bool} (unlocked : ∀ request, request.isForLock = true → kind request = false)

include unlocked

theorem asks_changeSnapshot (change : Snapshot → Snapshot) :
    Asks platform kind [] engine (engine.changeSnapshot platform change) :=
  ((Asks.refl platform engine).update _).andNothing (asks_recomputeLock unlocked)

theorem asks_onUiShowing (showing : Bool) :
    Asks platform kind [] engine (engine.onUiShowing platform showing) := by
  simp only [onUiShowing]
  split
  · exact asks_changeSnapshot unlocked _
  · exact asks_recomputeLock unlocked

theorem asks_onAudioRoute (route : AudioRoute) : Asks platform kind
    ((if route = engine.session.calls.audioRoute || route = .earpiece then []
      else engine.session.cancelRequests).filter kind) engine
    (engine.onAudioRoute platform route) := by
  simp only [onAudioRoute, CallAggregator.setRoute]
  by_cases same : route = engine.session.calls.audioRoute
  · simp only [same, decide_true, Bool.true_or, ↓reduceIte]
    exact .refl platform engine
  · simp only [same, decide_false, Bool.false_or, ↓reduceIte]
    refine Asks.andNothing ?_ (asks_recomputeLock unlocked)
    have moved (fields : List (String × String)) (change : Session → Session) :
        Makes platform [] engine ((engine.note .debug "audio route changed" fields).update change) :=
      ((Makes.refl platform engine).note ..).update _
    by_cases earpiece : route = .earpiece
    · simp only [earpiece, decide_true, ↓reduceIte]
      exact (moved _ _).asks kind
    · simp only [earpiece, decide_false, Bool.false_eq_true, ↓reduceIte]
      exact ((moved _ _).trans makes_cancelPending).asks kind

theorem asks_tearDown (running : engine.session.tornDown = false) : Asks platform kind
    ((engine.session.closingRequests platform.sensor.isSome).filter kind) engine (engine.tearDown platform) := by
  have released (held : Bool) : (if held then [Request.releaseLock true] else []).filter kind = [] := by
    cases held with
    | false => rfl
    | true => simp [unlocked (.releaseLock true) rfl]
  refine ⟨_, makes_tearDown running, ?_⟩
  simp only [tearDownRequests]
  rw [List.filter_append, released, List.append_nil]

theorem asks_onCallState (unheard : kind .acceptCall = false) (old new : CallState) (calls : CallList) :
    Asks platform kind
      (((engine.session.notify old new calls).sensorRequests platform.sensor.isSome ++
        (engine.session.hear platform.sensor.isSome old new calls).workRequests
          (engine.session.calls.change old new calls)).filter kind)
      engine (engine.onCallState platform old new calls) := by
  rw [onCallState_eq, ← session_heard, List.filter_append]
  exact ((makes_heard old new calls).asks kind).trans (asks_runTriggers unlocked unheard _)

end Kind

end Engine

end CallProximity
