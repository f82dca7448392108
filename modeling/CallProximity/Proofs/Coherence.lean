import CallProximity.Proofs.Step
import Mathlib.Data.List.Induction

/-! The snapshot and the trackers that own its signals never drift apart. Changes are
detected on the trackers and decisions made on the snapshot, so every later argument about
either rests on this. -/

namespace CallProximity

namespace Snapshot

def status (snapshot : Snapshot) : CallStatus where
  hasIncomingCall := snapshot.hasIncomingCall
  hasOngoingCall := snapshot.hasOngoingCall
  isOutgoing := snapshot.isOutgoing
  isOffhook := snapshot.isOffhook
  isVideoCall := snapshot.isVideoCall
  isRttCall := snapshot.isRttCall

def reading (snapshot : Snapshot) : ProximityReading :=
  ⟨snapshot.proximityNear, snapshot.proximityFar⟩

end Snapshot

def Event.status? : Event → Option CallStatus
  | .callState _ new calls => some (CallStatus.derive new calls)
  | _ => none

namespace Session

theorem status_resubscribe (hasSensor : Bool) (session : Session) :
    (session.resubscribe hasSensor).snapshot.status = session.snapshot.status := by
  simp only [resubscribe]
  split <;> rfl

/-- What is left to readings, notifications and the tear-down. -/
def heeded (session : Session) : CallStatus × ProximityClassifier × SubscriptionReasons :=
  (session.snapshot.status, session.classifier, session.subscriptions)

theorem heeded_react (around : Surroundings) (session : Session) {event : Event} (silent : event.mayAnswer = false) :
    (session.react around event).heeded = session.heeded := by
  cases event with
  | distance _ | callState _ _ _ => cases silent
  | audioRoute route =>
    simp only [react, moveAudio]
    split <;> rfl
  | uiShowing showing =>
    simp only [react]
    split <;> rfl
  | orientation _ | dialpad _ | attemptingVideo _ | display _ _ | timer _ | tearDown => rfl

theorem heeded_next (around : Surroundings) (session : Session) {event : Event} (silent : event.mayAnswer = false)
    (going : event ≠ .tearDown) : (session.next around event).heeded = session.heeded := by
  simp only [next]
  split
  · rfl
  · cases event with
    | distance _ | callState _ _ _ => cases silent
    | tearDown => exact absurd rfl going
    | timer generation =>
      simp only [fire]
      split <;> rfl
    | _ => exact heeded_react around (session.refresh around.preferences) silent

theorem heeded_work (change : ChangeSet) (session : Session) : (session.work change).heeded = session.heeded :=
  kept_work (fun _ => rfl) (fun _ _ => rfl) change session

theorem status_next (around : Surroundings) (session : Session) (event : Event)
    (running : session.tornDown = false) :
    (session.next around event).snapshot.status = event.status?.getD session.snapshot.status := by
  cases event with
  | callState old new calls =>
    simp only [next, running, Bool.false_eq_true, ↓reduceIte]
    exact (congrArg Prod.fst (heeded_work ..)).trans (status_resubscribe ..)
  | distance value =>
    simp only [next, running, Bool.false_eq_true, ↓reduceIte, react]
    split <;> rfl
  | tearDown =>
    simp only [next, running, Bool.false_eq_true, ↓reduceIte]
    rfl
  | _ => exact congrArg Prod.fst (heeded_next around session rfl (by simp))

end Session

theorem CallStatus.isOffhook_derive (state : CallState) (calls : CallList) : (derive state calls).isOffhook =
    (decide (state = .pendingOutgoing) || (derive state calls).isOutgoing || (derive state calls).hasOngoingCall) := rfl

structure Session.Coherent (session : Session) : Prop where
  status : session.snapshot.status = session.calls.status
  derived : ∃ state calls, session.calls.status = CallStatus.derive state calls
  route : session.snapshot.audioRoute = session.calls.audioRoute
  reading : session.snapshot.reading = session.classifier.reading
  disabled : session.snapshot.sensorDisabledByPreference = session.preferences.sensorDisabled

namespace Session.Coherent

variable {session : Session}

theorem hasIncomingCall (coherent : session.Coherent) :
    session.snapshot.hasIncomingCall = session.calls.status.hasIncomingCall :=
  congrArg CallStatus.hasIncomingCall coherent.status

theorem isOffhook (coherent : session.Coherent) : session.snapshot.isOffhook = session.calls.status.isOffhook :=
  congrArg CallStatus.isOffhook coherent.status

theorem isVideoCall (coherent : session.Coherent) :
    session.snapshot.isVideoCall = session.calls.status.isVideoCall :=
  congrArg CallStatus.isVideoCall coherent.status

theorem isRttCall (coherent : session.Coherent) : session.snapshot.isRttCall = session.calls.status.isRttCall :=
  congrArg CallStatus.isRttCall coherent.status

theorem ringing_onhook (coherent : session.Coherent) (ringing : session.snapshot.hasIncomingCall = true) :
    session.snapshot.isOffhook = false := by
  obtain ⟨state, calls, derived⟩ := coherent.derived
  rw [coherent.hasIncomingCall, derived] at ringing
  have stated : state = .incoming := of_decide_eq_true ringing
  rw [coherent.isOffhook, derived, stated]
  rfl

theorem offhook_of_call (coherent : session.Coherent)
    (call : session.snapshot.hasOngoingCall = true ∨ session.snapshot.isOutgoing = true) :
    session.snapshot.isOffhook = true := by
  obtain ⟨state, calls, derived⟩ := coherent.derived
  have told : session.snapshot.status = CallStatus.derive state calls := coherent.status.trans derived
  have ongoing := congrArg CallStatus.hasOngoingCall told
  have outgoing := congrArg CallStatus.isOutgoing told
  refine (congrArg CallStatus.isOffhook told).trans ?_
  rw [CallStatus.isOffhook_derive, ← ongoing, ← outgoing]
  rcases call with goesOn | goesOut
  · exact Bool.or_eq_true_iff.mpr (.inr goesOn)
  · exact Bool.or_eq_true_iff.mpr (.inl (Bool.or_eq_true_iff.mpr (.inr goesOut)))

theorem refresh (coherent : session.Coherent) (preferences : Preferences) :
    (session.refresh preferences).Coherent :=
  { coherent with disabled := rfl }

theorem sense (coherent : session.Coherent) (distance : Float32) : (session.sense distance).Coherent :=
  { coherent with reading := rfl }

theorem reroute (coherent : session.Coherent) (wantsSpeaker : Bool) : (session.reroute wantsSpeaker).Coherent :=
  { coherent with }

theorem resync (coherent : session.Coherent) : session.resync.Coherent :=
  { coherent with }

theorem resubscribe (coherent : session.Coherent) (hasSensor : Bool) :
    (session.resubscribe hasSensor).Coherent := by
  simp only [Session.resubscribe]
  split
  · exact { coherent with reading := rfl }
  · exact { coherent with }

theorem hear (coherent : session.Coherent) (hasSensor : Bool) (old new : CallState) (calls : CallList) :
    (session.hear hasSensor old new calls).Coherent := by
  apply resubscribe
  exact { coherent with status := rfl, derived := ⟨new, calls, rfl⟩ }

theorem work (coherent : session.Coherent) (change : ChangeSet) : (session.work change).Coherent := by
  have resynced : (if change.resync then session.resync else session).Coherent := by
    split
    · exact coherent.resync
    · exact coherent
  unfold Session.work
  dsimp only
  split
  · exact resynced.reroute _
  · exact resynced

theorem moveAudio (coherent : session.Coherent) (route : AudioRoute) : (session.moveAudio route).Coherent := by
  simp only [Session.moveAudio]
  split
  · exact coherent
  · exact { coherent with route := rfl }

theorem react (coherent : session.Coherent) (around : Surroundings) (event : Event) :
    (session.react around event).Coherent := by
  cases event with
  | distance value =>
    simp only [Session.react]
    split
    · exact (coherent.sense value).reroute _
    · exact coherent
  | callState old new calls => exact (coherent.hear _ old new calls).work _
  | audioRoute route => exact coherent.moveAudio route
  | uiShowing showing =>
    simp only [Session.react]
    split
    · exact { coherent with }
    · exact coherent
  | orientation _ | dialpad _ | attemptingVideo _ | display _ _ => exact { coherent with }
  | timer _ | tearDown => exact coherent

theorem next (coherent : session.Coherent) (around : Surroundings) (event : Event) :
    (session.next around event).Coherent := by
  simp only [Session.next]
  split
  · exact coherent
  · cases event with
    | timer generation =>
      simp only [Session.fire]
      split
      · exact { coherent with }
      · exact coherent
    | tearDown => exact { coherent with }
    | _ => exact (coherent.refresh _).react around _

end Session.Coherent

variable {World : Type} {platform : Platform World} {engine : Engine World}

theorem Engine.coherent_start (platform : Platform World) (config : ClassifierConfig) (world : World) :
    (start platform config world).session.Coherent := by
  rw [session_start]
  simp only [Session.opening]
  constructor
  · rfl
  · exact ⟨.idle, {}, rfl⟩
  · rfl
  · dsimp only
    split <;> rfl
  · rfl

theorem Engine.coherent_step (coherent : engine.session.Coherent) (event : Event) :
    (engine.step platform event).session.Coherent :=
  holds_step Session.Coherent (fun _ _ coherent => { coherent with }) (coherent.next _ event)

theorem Engine.coherent_after (coherent : engine.session.Coherent) (occurrences : List (Occurrence World)) :
    (engine.after platform occurrences).session.Coherent :=
  (invariant_along (·.session.Coherent) occurrences coherent (fun _ _ _ coherent => coherent)
    (fun moment _ coherent => coherent_step coherent moment.event)).1

namespace Moment

variable {moment : Moment World}

theorem loaded?_of_mayAnswer (running : moment.engine.session.tornDown = false)
    (mayAnswer : moment.event.mayAnswer = true) :
    moment.loaded? platform = some (platform.surroundings moment.engine.world).preferences := by
  obtain ⟨engine, event⟩ := moment
  have going : ¬engine.session.tornDown = true := by simpa using running
  cases event with
  | distance _ | callState _ _ _ => exact if_neg going
  | _ => cases mayAnswer

theorem status_after (running : moment.engine.session.tornDown = false) :
    (moment.after platform).session.snapshot.status = moment.event.status?.getD moment.engine.session.snapshot.status := by
  refine (congrArg Snapshot.status (Engine.snapshot_step moment.event)).trans ?_
  exact Session.status_next _ _ moment.event running

end Moment

/-- The preferences at hand are the ones that the last event to load any found. -/
theorem Engine.preferences_after (occurrences : List (Occurrence World)) :
    (engine.after platform occurrences).session.preferences =
      (engine.latest? platform (Moment.loaded? platform) occurrences).getD engine.session.preferences := by
  -- The last event that loads any shows at the end of a run, so the run grows there.
  induction occurrences using List.reverseRecOn with
  | nil => rfl
  | append_singleton first last ih =>
    have stepped : (((engine.after platform first).meet last).after platform).session.preferences =
        (((engine.after platform first).meet last).loaded? platform).getD
          (engine.after platform first).session.preferences :=
      preferences_step last.event
    rw [after_concat, latest?_concat, stepped]
    cases ((engine.after platform first).meet last).loaded? platform with
    | none => exact ih
    | some loaded => rfl

def ProximityReading.Exclusive (reading : ProximityReading) : Prop :=
  ¬(reading.near = true ∧ reading.far = true)

theorem ProximityClassifier.exclusive_feed {classifier : ProximityClassifier}
    (exclusive : classifier.reading.Exclusive) (distance : Float32) : (classifier.feed distance).reading.Exclusive := by
  simp only [feed]
  split
  · exact exclusive
  · simp only [ProximityReading.next]
    split <;> simp [ProximityReading.Exclusive]

theorem ProximityClassifier.exclusive_reset (classifier : ProximityClassifier) : classifier.reset.reading.Exclusive := by
  simp [reset, ProximityReading.initial, ProximityReading.Exclusive]

/-- By what a classifier judges a distance. -/
def ProximityClassifier.scale (classifier : ProximityClassifier) : Option Float32 × ClassifierConfig :=
  (classifier.maxRange, classifier.config)

theorem ProximityClassifier.scale_feed (classifier : ProximityClassifier) (distance : Float32) :
    (classifier.feed distance).scale = classifier.scale := by
  simp only [feed]
  split <;> rfl

namespace Session

variable {session : Session}

theorem classifier_hear (hasSensor : Bool) (old new : CallState) (calls : CallList) :
    (session.hear hasSensor old new calls).classifier = session.classifier ∨
      (session.hear hasSensor old new calls).classifier = session.classifier.reset := by
  simp only [hear, resubscribe]
  split
  · exact .inr rfl
  · exact .inl rfl

theorem classifier_next_callState (around : Surroundings) (running : session.tornDown = false) (old new : CallState)
    (calls : CallList) : (session.next around (.callState old new calls)).classifier =
      ((session.refresh around.preferences).hear around.hasSensor old new calls).classifier := by
  simp only [next, running, Bool.false_eq_true, ↓reduceIte]
  exact congrArg (·.2.1) (heeded_work ..)

/-- All that an event can do to the classifier: it is fed, reset or left as it is. -/
theorem classifier_next (around : Surroundings) (session : Session) (event : Event) :
    (session.next around event).classifier = session.classifier ∨
      (∃ value, (session.next around event).classifier = session.classifier.feed value) ∨
      (session.next around event).classifier = session.classifier.reset := by
  have kept {event : Event} (silent : event.mayAnswer = false) (going : event ≠ .tearDown) :
      (session.next around event).classifier = session.classifier :=
    congrArg (·.2.1) (heeded_next around session silent going)
  cases running : session.tornDown with
  | true =>
    left
    simp only [next, running, ↓reduceIte]
  | false =>
    cases event with
    | distance value =>
      simp only [next, running, Bool.false_eq_true, ↓reduceIte, react]
      split
      · exact .inr (.inl ⟨value, rfl⟩)
      · exact .inl rfl
    | callState old new calls =>
      rw [classifier_next_callState around running]
      exact ((session.refresh around.preferences).classifier_hear around.hasSensor old new calls).imp_right .inr
    | tearDown =>
      left
      simp only [next, running, Bool.false_eq_true, ↓reduceIte]
      rfl
    | _ => exact .inl (kept rfl (by simp))

theorem exclusive_next (exclusive : session.classifier.reading.Exclusive) (around : Surroundings) (event : Event) :
    (session.next around event).classifier.reading.Exclusive := by
  rcases classifier_next around session event with kept | ⟨value, fed⟩ | reset
  · rw [kept]
    exact exclusive
  · rw [fed]
    exact ProximityClassifier.exclusive_feed exclusive value
  · rw [reset]
    exact ProximityClassifier.exclusive_reset _

theorem scale_next (around : Surroundings) (session : Session) (event : Event) :
    (session.next around event).classifier.scale = session.classifier.scale := by
  rcases classifier_next around session event with kept | ⟨value, fed⟩ | reset
  · rw [kept]
  · rw [fed, ProximityClassifier.scale_feed]
  · rw [reset]
    rfl

end Session

theorem Engine.exclusive_after (exclusive : engine.session.classifier.reading.Exclusive)
    (occurrences : List (Occurrence World)) :
    (engine.after platform occurrences).session.classifier.reading.Exclusive := by
  refine (invariant_along (·.session.classifier.reading.Exclusive) occurrences exclusive
    (fun _ _ _ exclusive => exclusive) ?_).1
  intro moment _ exclusive
  exact holds_step (·.classifier.reading.Exclusive) (fun _ _ exclusive => exclusive)
    (Session.exclusive_next exclusive _ moment.event)

theorem Engine.scale_after (platform : Platform World) (config : ClassifierConfig) (world : World)
    (occurrences : List (Occurrence World)) :
    ((start platform config world).after platform occurrences).session.classifier.scale =
      platform.sensor.elim (none, {}) fun sensor => (some sensor.maxRange, config) := by
  refine (invariant_along (·.session.classifier.scale = _) occurrences ?_ (fun _ _ _ same => same) ?_).1
  · rw [session_start]
    simp only [Session.opening]
    cases platform.sensor <;> rfl
  · intro moment _ same
    exact holds_step (·.classifier.scale = _) (fun _ _ same => same) ((Session.scale_next ..).trans same)

theorem Engine.isAvailable_after (platform : Platform World) (config : ClassifierConfig) (world : World)
    (occurrences : List (Occurrence World)) :
    ((start platform config world).after platform occurrences).session.classifier.isAvailable =
      platform.sensor.isSome := by
  refine (congrArg (·.1.isSome) (scale_after platform config world occurrences)).trans ?_
  cases platform.sensor <;> rfl

/-- After any run, torn down or not, each signal of the snapshot is what its tracker holds, near
and far exclude each other, so do a ringing call and a call under way, and a call that goes out
or goes on is under way. -/
theorem snapshot_mirrors_trackers (platform : Platform World) (config : ClassifierConfig) (world : World)
    (occurrences : List (Occurrence World)) :
    let started := Engine.start platform config world
    let session := (started.after platform occurrences).session
    let snapshot := session.snapshot
    let loaded := (started.latest? platform (Moment.loaded? platform) occurrences).getD
      (Preferences.load (platform.preferences world))
    snapshot.status = session.calls.status ∧ snapshot.audioRoute = session.calls.audioRoute ∧
      snapshot.reading = session.classifier.reading ∧
      ¬(snapshot.proximityNear = true ∧ snapshot.proximityFar = true) ∧
      snapshot.sensorDisabledByPreference = loaded.sensorDisabled ∧
      ¬(snapshot.hasIncomingCall = true ∧ snapshot.isOffhook = true) ∧
      (snapshot.hasOngoingCall = true ∨ snapshot.isOutgoing = true → snapshot.isOffhook = true) := by
  intro started session snapshot loaded
  have coherent : session.Coherent := Engine.coherent_after (Engine.coherent_start platform config world) occurrences
  have fresh : started.session.classifier.reading.Exclusive := by
    simp only [started, Engine.session_start, Session.opening]
    split <;> simp [ProximityReading.initial, ProximityReading.Exclusive]
  have exclusive : session.classifier.reading.Exclusive := Engine.exclusive_after fresh occurrences
  have preferences : session.preferences = loaded := by
    have opened : started.session.preferences = Preferences.load (platform.preferences world) := by
      simp only [started, Engine.session_start]
      rfl
    simp only [loaded, ← opened]
    exact Engine.preferences_after occurrences
  refine ⟨coherent.status, coherent.route, coherent.reading, ?_, ?_, ?_, ?_⟩
  · rw [← coherent.reading] at exclusive
    exact exclusive
  · rw [← preferences]
    exact coherent.disabled
  · rintro ⟨rings, offhook⟩
    cases offhook.symm.trans (coherent.ringing_onhook rings)
  · exact coherent.offhook_of_call

end CallProximity
