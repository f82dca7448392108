import CallProximity.Proofs.Handlers

/-! What an event does, whatever it is: to the session as the pure account of it says, and to the platform by the
requests of each kind. -/

namespace CallProximity

variable {World : Type}

namespace Engine

variable {platform : Platform World} {engine : Engine World}

theorem process_of_running (work : Engine World → Engine World) (running : engine.session.tornDown = false) :
    engine.process platform work = work (engine.refreshPreferences platform) := by
  simp [process, running]

theorem session_process_of_tornDown (work : Engine World → Engine World) (done : engine.session.tornDown = true) :
    (engine.process platform work).session = engine.session := by
  simp [process, done]

theorem session_step_of_tornDown (event : Event) (done : engine.session.tornDown = true) :
    (engine.step platform event).session = engine.session := by
  cases event with
  | timer generation => exact congrArg session (onTimer_of_tornDown generation done)
  | tearDown => simp [step, tearDown, done]
  | _ => exact session_process_of_tornDown _ done

theorem session_step_of_silent {event : Event} (silent : event.mayAnswer = false) :
    (engine.step platform event).session = engine.session.next (platform.surroundings engine.world) event := by
  simp only [Session.next]
  cases running : engine.session.tornDown with
  | true => exact session_step_of_tornDown event running
  | false =>
    have fresh : (engine.refreshPreferences platform).session =
        engine.session.refresh (platform.surroundings engine.world).preferences := session_refreshPreferences
    cases event with
    | timer generation => exact session_onTimer generation running
    | tearDown => exact session_tearDown running
    | distance _ | callState _ _ _ => cases silent
    | orientation value | dialpad value | attemptingVideo value =>
      simp only [step, process_of_running _ running, ← fresh]
      exact session_changeSnapshot _
    | audioRoute route =>
      simp only [step, process_of_running _ running, ← fresh]
      exact session_onAudioRoute route
    | uiShowing showing =>
      simp only [step, process_of_running _ running, ← fresh]
      exact session_onUiShowing showing (congrArg platform.isScreenOn world_refreshPreferences.symm)
    | display id isOn =>
      simp only [step, process_of_running _ running, ← fresh]
      exact session_onDisplay id isOn

theorem session_step (event : Event) : ∃ call, (engine.step platform event).session =
    (engine.session.next (platform.surroundings engine.world) event).answered call ∧
      (platform.Rejects → call = engine.session.lastAnswered) := by
  have unanswered {after : Session} (same : after = engine.session.next (platform.surroundings engine.world) event) :
      ∃ call, after = (engine.session.next (platform.surroundings engine.world) event).answered call ∧
        (platform.Rejects → call = engine.session.lastAnswered) :=
    ⟨_, same, fun _ => Session.lastAnswered_next ..⟩
  cases mayAnswer : event.mayAnswer with
  | false => exact unanswered (session_step_of_silent mayAnswer)
  | true =>
    simp only [Session.next] at unanswered ⊢
    cases running : engine.session.tornDown with
    | true =>
      simp only [running, ↓reduceIte] at unanswered
      exact unanswered (session_step_of_tornDown event running)
    | false =>
      have fresh : (engine.refreshPreferences platform).session =
          engine.session.refresh (platform.surroundings engine.world).preferences := session_refreshPreferences
      have kept : engine.session.lastAnswered = (engine.refreshPreferences platform).session.lastAnswered := by
        rw [fresh]
        rfl
      cases event with
      | distance value =>
        simp only [step, process_of_running _ running, ← fresh, kept]
        exact session_onDistance value
      | callState old new calls =>
        simp only [step, process_of_running _ running, ← fresh, kept]
        exact session_onCallState old new calls
      | _ => cases mayAnswer

theorem session_step_of_rejects (rejects : platform.Rejects) (event : Event) : (engine.step platform event).session =
    engine.session.next (platform.surroundings engine.world) event := by
  obtain ⟨call, same, kept⟩ := engine.session_step event
  rw [same, kept rejects, ← Session.lastAnswered_next (platform.surroundings engine.world) engine.session event]
  rfl

/-- What is known of a session, but for its last answered call, is known after an event by
the pure account of it. -/
theorem holds_step (property : Session → Prop)
    (unread : ∀ call session, property session → property (session.answered call)) {event : Event}
    (next : property (engine.session.next (platform.surroundings engine.world) event)) :
    property (engine.step platform event).session := by
  obtain ⟨call, same, -⟩ := engine.session_step event
  rw [same]
  exact unread call _ next

theorem snapshot_step (event : Event) : (engine.step platform event).session.snapshot =
    (engine.session.next (platform.surroundings engine.world) event).snapshot :=
  holds_step (·.snapshot = _) (fun _ _ same => same) rfl

theorem pending_step (event : Event) : (engine.step platform event).session.pending =
    (engine.session.next (platform.surroundings engine.world) event).pending :=
  holds_step (·.pending = _) (fun _ _ same => same) rfl

theorem equipment_step (event : Event) :
    (engine.step platform event).session.equipment = engine.session.equipment :=
  holds_step (·.equipment = engine.session.equipment) (fun _ _ same => same) (Session.equipment_next ..)

theorem tornDown_step {event : Event} (going : event ≠ .tearDown) :
    (engine.step platform event).session.tornDown = engine.session.tornDown :=
  holds_step (·.tornDown = engine.session.tornDown) (fun _ _ same => same) (Session.tornDown_next _ _ going)

theorem preferences_step (event : Event) : (engine.step platform event).session.preferences =
    ((⟨engine, event⟩ : Moment World).loaded? platform).getD engine.session.preferences := by
  have reacted (event : Event) : ((engine.session.refresh (platform.surroundings engine.world).preferences).react
      (platform.surroundings engine.world) event).preferences = Preferences.load (platform.preferences engine.world) :=
    congrArg (·.2.2.1) (Session.standing_react ..)
  apply holds_step (·.preferences = _) (fun _ _ same => same)
  simp only [Session.next, Moment.loaded?]
  cases engine.session.tornDown with
  | true => cases event <;> rfl
  | false =>
    simp only [Bool.false_eq_true, ↓reduceIte]
    cases event with
    | timer generation => exact congrArg (·.2.2.1) (Session.standing_fire generation engine.session)
    | tearDown => rfl
    | _ => exact reacted _

theorem makes_step_of_tornDown (event : Event) (done : engine.session.tornDown = true) :
    Makes platform [] engine (engine.step platform event) := by
  cases event with
  | timer generation =>
    simp only [step, onTimer_of_tornDown generation done]
    exact .refl platform engine
  | tearDown =>
    simp only [step, tearDown, done, ↓reduceIte]
    exact .refl platform engine
  | _ =>
    simp only [step, process, done, ↓reduceIte]
    exact (Makes.refl platform engine).note ..

theorem asks_step_of_tornDown (kind : Request → Bool) (event : Event) (done : engine.session.tornDown = true) :
    Asks platform kind [] engine (engine.step platform event) :=
  (makes_step_of_tornDown event done).asks kind

/-- All that an event asks for, short of the lock and, where it may have a call answered, of answers. -/
theorem asks_step_of_unlocked {kind : Request → Bool}
    (unlocked : ∀ request, request.isForLock = true → kind request = false) {event : Event}
    (unheard : event.mayAnswer = true → kind .acceptCall = false) :
    Asks platform kind ((engine.session.eventRequests (platform.surroundings engine.world) event).filter kind)
      engine (engine.step platform event) := by
  simp only [Session.eventRequests]
  cases running : engine.session.tornDown with
  | true => exact asks_step_of_tornDown _ event running
  | false =>
    have fresh : (engine.refreshPreferences platform).session =
        engine.session.refresh (platform.surroundings engine.world).preferences := session_refreshPreferences
    have refreshed : Asks platform kind [] engine (engine.refreshPreferences platform) :=
      makes_refreshPreferences.asks _
    cases event with
    | timer generation => exact (makes_onTimer generation running).asks kind
    | tearDown => exact asks_tearDown unlocked running
    | distance value =>
      have heard := refreshed.trans (asks_onDistance (unheard rfl) value)
      rw [fresh] at heard
      simp only [step, process_of_running _ running]
      exact heard
    | callState old new calls =>
      have heard := refreshed.trans (asks_onCallState unlocked (unheard rfl) old new calls)
      rw [fresh] at heard
      simp only [step, process_of_running _ running]
      exact heard
    | orientation value | dialpad value =>
      simp only [step, process_of_running _ running]
      exact refreshed.andNothing (asks_changeSnapshot unlocked _)
    | attemptingVideo attempting =>
      simp only [step, process_of_running _ running]
      exact (refreshed.note ..).andNothing (asks_changeSnapshot unlocked _)
    | audioRoute route =>
      have moved := refreshed.trans (asks_onAudioRoute unlocked route)
      rw [fresh] at moved
      simp only [step, process_of_running _ running]
      exact moved
    | uiShowing showing =>
      simp only [step, process_of_running _ running]
      exact refreshed.andNothing (asks_onUiShowing unlocked showing)
    | display id isOn =>
      have switched := refreshed.trans ((makes_onDisplay id isOn).asks kind)
      rw [fresh] at switched
      simp only [step, process_of_running _ running]
      exact switched

theorem asks_step_of_kind {kind : Request → Bool} (spared : ∀ request, request.isUpkeep = true → kind request = false)
    {event : Event} (unheard : event.mayAnswer = true → kind .acceptCall = false) : Asks platform kind
    ((engine.session.subscriptionRequests (platform.surroundings engine.world) event ++
      engine.session.speakerRequests (platform.surroundings engine.world) event).filter kind)
    engine (engine.step platform event) := by
  rw [← Session.filter_eventRequests spared]
  exact asks_step_of_unlocked (fun request lock => spared request (Request.concerns_of_subset lock)) unheard

theorem asks_step (event : Event) : Asks platform Request.isForSpeaker
    (engine.session.speakerRequests (platform.surroundings engine.world) event) engine
    (engine.step platform event) := by
  have asked : Asks platform Request.isForSpeaker _ engine (engine.step platform event) :=
    asks_step_of_kind (fun _ upkeep => Request.concerns_eq_false upkeep) fun _ => rfl
  have spared : (engine.session.subscriptionRequests (platform.surroundings engine.world) event).filter
      Request.isForSpeaker = [] :=
    Request.filter_eq_nil fun _ member =>
      Request.concerns_eq_false (Session.isForSensor_of_mem_subscriptionRequests member)
  rwa [List.filter_append, spared, List.nil_append,
    List.filter_eq_self.mpr fun request => Session.isForSpeaker_of_mem_speakerRequests] at asked

theorem asks_sensor_step (event : Event) : Asks platform Request.isForSensor
    (engine.session.subscriptionRequests (platform.surroundings engine.world) event) engine
    (engine.step platform event) := by
  have asked : Asks platform Request.isForSensor _ engine (engine.step platform event) :=
    asks_step_of_kind (fun _ upkeep => Request.concerns_eq_false upkeep) fun _ => rfl
  have spared : (engine.session.speakerRequests (platform.surroundings engine.world) event).filter
      Request.isForSensor = [] :=
    Request.filter_eq_nil fun _ member => Request.concerns_eq_false (Session.isForSpeaker_of_mem_speakerRequests member)
  rwa [List.filter_append, spared, List.append_nil,
    List.filter_eq_self.mpr fun request => Session.isForSensor_of_mem_subscriptionRequests] at asked

/-- No request of a run is made but at one of its events. -/
theorem requests_after (occurrences : List (Occurrence World)) : (engine.after platform occurrences).requests =
    engine.requests ++ (engine.moments platform occurrences).flatMap (Moment.requests platform) := by
  induction occurrences generalizing engine with
  | nil => simp [moments]
  | cons occurrence rest ih =>
    obtain ⟨made, makes, -⟩ : Asks platform Request.isForSpeaker _ (engine.meet occurrence).engine
      ((engine.meet occurrence).after platform) := asks_step occurrence.event
    have asked : ((engine.meet occurrence).after platform).requests = engine.requests ++ made := makes.requests
    rw [after_cons, ih, moments, List.flatMap_cons, Moment.requests_of_makes makes, asked, List.append_assoc]

end Engine

end CallProximity
