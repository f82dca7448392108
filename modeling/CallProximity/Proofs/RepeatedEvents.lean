import CallProximity.Proofs.AnswerRequests
import CallProximity.Proofs.IndependentSignals
import CallProximity.Proofs.Subscription

/-! An event that tells how things are may come twice. The second time the session knows it already: nothing
changes and nothing is asked for, whatever the first time set off. -/

namespace CallProximity

variable {World : Type} {platform : Platform World} {engine : Engine World} {event : Event}
  {signal : Signal}

/-- Whether an event tells how things are. A reading and a timer are heard anew each time, and so is that an
outgoing call was answered. -/
def Event.tellsState : Event → Bool
  | .distance _ | .timer _ => false
  | .callState old new calls => !(decide (old = .outgoing) && (CallStatus.derive new calls).hasOngoingCall)
  | _ => true

theorem DisplayTracker.notify_notify (tracker : DisplayTracker) (display : UInt32) (isOn : Bool) :
    (tracker.notify display isOn).2.notify display isOn = (none, (tracker.notify display isOn).2) := by
  simp only [notify]
  grind

theorem Snapshot.applyStatus_eq_self {snapshot : Snapshot} {status : CallStatus} (same : snapshot.status = status) :
    snapshot.applyStatus status = snapshot := by
  rw [← same]
  rfl

namespace CallAggregator

variable (aggregator : CallAggregator) {old new : CallState} {calls : CallList}

theorem isEmpty_change_notify (tells : Event.tellsState (.callState old new calls) = true) :
    ((aggregator.notify old new calls).2.change old new calls).isEmpty = true := by
  simp only [Event.tellsState, Bool.not_eq_true'] at tells
  rw [ChangeSet.isEmpty_iff]
  simp only [change, notify, tells, bne_self_eq_false, Bool.or_self, true_and]
  cases (CallStatus.derive new calls).hasIncomingCall <;> simp

end CallAggregator

namespace Session

variable {around : Surroundings} {session : Session}

theorem calls_moveAudio (route : AudioRoute) (session : Session) :
    (session.moveAudio route).calls.audioRoute = route := by
  simp only [moveAudio]
  split
  · next same => exact same.symm
  · rfl

theorem workRequests_of_isEmpty {change : ChangeSet} (quiet : change.isEmpty = true) :
    session.workRequests change = [] := by
  obtain ⟨still, unanswered, -⟩ := ChangeSet.isEmpty_iff.mp quiet
  simp only [workRequests, still, unanswered, Bool.false_eq_true, ↓reduceIte, List.append_nil]

/-- A session to which an event is no news. Where it still has the lock brought in line, it does so in any state. -/
structure Knows (around : Surroundings) (session : Session) (event : Event) : Prop where
  next : session.next around event = session
  asks : session.eventRequests around event = []
  unjudged : session.judgesAnswer event = false
  settles : session.tornDown = false → session.settles event = true → ∀ other : Session, other.settles event = true

theorem knows_of_tornDown (done : session.tornDown = true) (event : Event) : session.Knows around event := by
  refine ⟨?_, ?_, ?_, ?_⟩
  · simp only [next, done, ↓reduceIte]
  · simp only [eventRequests, done, ↓reduceIte]
  · simp only [judgesAnswer, done, Bool.not_true, Bool.false_and]
  · intro running
    cases done.symm.trans running

theorem changeTo_wantedReasons (reasoned : session.subscriptions = session.wantedReasons) :
    session.subscriptions.changeTo session.wantedReasons = .unchanged := by
  rw [← reasoned]
  exact SubscriptionReasons.changeTo_self _

theorem resubscribe_eq_self (reasoned : session.subscriptions = session.wantedReasons) (hasSensor : Bool) :
    session.resubscribe hasSensor = session := by
  have kept : ¬(hasSensor && session.subscriptions.changeTo session.wantedReasons = .unsubscribe) = true := by
    simp [changeTo_wantedReasons reasoned]
  rw [resubscribe, if_neg kept, ← reasoned]

/-- A session that has taken in a call notification, with the preferences of that moment. -/
structure Heard (around : Surroundings) (old new : CallState) (calls : CallList) (session : Session) : Prop where
  fresh : session.refresh around.preferences = session
  told : session.notify old new calls = session
  reasoned : session.subscriptions = session.wantedReasons
  quiet : (session.calls.change old new calls).isEmpty = true

theorem heard_next {old new : CallState} {calls : CallList} (running : session.tornDown = false)
    (tells : Event.tellsState (.callState old new calls) = true) :
    (session.next around (.callState old new calls)).Heard around old new calls := by
  have status : (session.next around (.callState old new calls)).snapshot.status = CallStatus.derive new calls :=
    status_next around session _ running
  have reasons : (session.next around (.callState old new calls)).subscriptions =
      (CallStatus.derive new calls).reasons around.preferences :=
    subscriptions_next around running (by simp)
  have stepped : session.next around (.callState old new calls) =
      (session.refresh around.preferences).react around (.callState old new calls) := by
    simp only [next, running, Bool.false_eq_true, ↓reduceIte]
  have fresh := refresh_react around.preferences around session (.callState old new calls)
  have noticed := calls_react_callState around (session.refresh around.preferences) old new calls
  rw [stepped] at status reasons ⊢
  generalize (session.refresh around.preferences).react around (.callState old new calls) = after at *
  refine ⟨fresh, ?_, ?_, ?_⟩
  · have kept : (after.calls.notify old new calls).2 = after.calls := by
      rw [noticed]
      rfl
    simp only [notify, kept, Snapshot.applyStatus_eq_self status]
  · have loaded : around.preferences = after.preferences := congrArg Session.preferences fresh
    rw [reasons, ← status, loaded]
    rfl
  · rw [noticed]
    exact (session.refresh around.preferences).calls.isEmpty_change_notify tells

theorem Heard.knows {old new : CallState} {calls : CallList} (heard : session.Heard around old new calls) :
    session.Knows around (.callState old new calls) := by
  cases running : session.tornDown with
  | true => exact knows_of_tornDown running _
  | false =>
    refine ⟨?_, ?_, ?_, ?_⟩
    · simp only [next, running, Bool.false_eq_true, ↓reduceIte, react, heard.fresh, hear, heard.told]
      rw [resubscribe_eq_self heard.reasoned]
      exact work_of_isEmpty heard.quiet
    · simp only [eventRequests, running, Bool.false_eq_true, ↓reduceIte, heard.fresh, heard.told,
        workRequests_of_isEmpty heard.quiet, sensorRequests, changeTo_wantedReasons heard.reasoned]
      cases around.hasSensor <;> rfl
    · simp only [judgesAnswer, (ChangeSet.isEmpty_iff.mp heard.quiet).2.2, Bool.and_false]
    · simp [settles, heard.quiet]

theorem Heard.answered {old new : CallState} {calls : CallList} {call : Option String}
    (heard : session.Heard around old new calls) : (session.answered call).Heard around old new calls where
  fresh := congrArg (Session.answered call) heard.fresh
  told := congrArg (Session.answered call) heard.told
  reasoned := heard.reasoned
  quiet := heard.quiet

theorem react_react (told : event.signal? = some signal) :
    (session.react around event).react around event = session.react around event := by
  cases event with
  | audioRoute route => exact moveAudio_of_same (calls_moveAudio route session).symm
  | uiShowing showing =>
    simp only [react]
    split <;> rfl
  | display id isOn => simp only [react, DisplayTracker.notify_notify]
  | orientation _ | dialpad _ | attemptingVideo _ => rfl
  | distance _ | callState _ _ _ | timer _ | tearDown => cases told

theorem knows_next_of_signal (running : session.tornDown = false) (told : event.signal? = some signal) :
    (session.next around event).Knows around event := by
  have goesOn : (session.next around event).tornDown = false :=
    (tornDown_next around session (Event.going_of_signal told)).trans running
  have reacted : session.next around event = (session.refresh around.preferences).react around event :=
    next_of_signal running told
  refine ⟨?_, ?_, ?_, ?_⟩
  · rw [next_of_signal goesOn told, fresh_next running told, reacted, react_react told]
  · simp only [eventRequests, goesOn, Bool.false_eq_true, ↓reduceIte]
    cases event with
    | audioRoute route => simp [reacted, react, calls_moveAudio]
    | display id isOn => simp [reacted, react, DisplayTracker.notify_notify]
    | orientation _ | uiShowing _ | dialpad _ | attemptingVideo _ => rfl
    | distance _ | callState _ _ _ | timer _ | tearDown => cases told
  · cases event with
    | distance _ | callState _ _ _ => cases told
    | _ => simp [judgesAnswer]
  · intro _ settles other
    cases event with
    | audioRoute route => simp [Session.settles, reacted, react, calls_moveAudio] at settles
    | display _ _ => cases settles
    | orientation _ | uiShowing _ | dialpad _ | attemptingVideo _ => rfl
    | distance _ | callState _ _ _ | timer _ | tearDown => cases told

end Session

namespace Engine

theorem knows_step (tells : event.tellsState = true) :
    (engine.step platform event).session.Knows (platform.surroundings engine.world) event := by
  cases running : engine.session.tornDown with
  | true =>
    apply Session.knows_of_tornDown
    rw [session_step_of_tornDown event running, running]
  | false =>
    have heard {signal : Signal} (told : event.signal? = some signal) :
        (engine.step platform event).session.Knows (platform.surroundings engine.world) event := by
      rw [session_step_of_silent (Event.mayAnswer_of_signal told)]
      exact Session.knows_next_of_signal running told
    cases event with
    | distance _ | timer _ => cases tells
    | callState old new calls =>
      apply Session.Heard.knows
      exact holds_step (Session.Heard _ old new calls) (fun _ _ => .answered) (Session.heard_next running tells)
    | tearDown =>
      apply Session.knows_of_tornDown
      exact congrArg Session.tornDown (session_tearDown running)
    | orientation _ | uiShowing _ | dialpad _ | attemptingVideo _ | audioRoute _ | display _ _ => exact heard rfl

end Engine

namespace Moment

variable {moment : Moment World}

theorem session_after_of_knows
    (knows : moment.engine.session.Knows (platform.surroundings moment.engine.world) moment.event) :
    (moment.after platform).session = moment.engine.session := by
  obtain ⟨call, same, -⟩ : ∃ call, (moment.after platform).session = _ ∧ _ := moment.engine.session_step moment.event
  have kept : (moment.after platform).session.lastAnswered = _ := (Engine.unanswered_step platform knows.unjudged).2
  rw [knows.next] at same
  rw [same] at kept ⊢
  exact congrArg (moment.engine.session.answered ·) kept

theorem isForLock_of_knows
    (knows : moment.engine.session.Knows (platform.surroundings moment.engine.world) moment.event)
    {request : Request} (member : request ∈ moment.requests platform) : request.isForLock = true := by
  let other (request : Request) := !request.isForLock && !request.isAnswer
  have asked : Engine.Asks platform other _ moment.engine (moment.after platform) :=
    Engine.asks_step_of_unlocked (fun _ lock => by simp [other, lock]) fun _ => rfl
  have nothingElse := requests_of_asks asked
  have noAnswer := requests_of_asks (Engine.unanswered_step platform knows.unjudged).1
  rw [knows.asks, List.filter_nil, List.filter_eq_nil_iff] at nothingElse
  rw [List.filter_eq_nil_iff] at noAnswer
  have neither := nothingElse request member
  simpa [other, noAnswer request member] using neither

theorem requests_of_knows
    (knows : moment.engine.session.Knows (platform.surroundings moment.engine.world) moment.event)
    (done : moment.engine.session.settles moment.event = true →
      moment.engine.session.tornDown = false →
      moment.engine.session.lockAction.Done (platform.lockHeld? moment.engine.world)) :
    moment.requests platform = [] := by
  cases running : moment.engine.session.tornDown with
  | true => exact requests_of_makes (Engine.makes_step_of_tornDown moment.event running)
  | false =>
    have going : moment.event ≠ .tearDown := by
      intro ends
      have next := knows.next
      simp only [Session.next, running, ends, Bool.false_eq_true, ↓reduceIte] at next
      rw [← next] at running
      cases running
    cases settles : moment.engine.session.settles moment.event with
    | false =>
      have spared : Engine.Asks platform Request.isForLock [] moment.engine (moment.after platform) :=
        Engine.asks_lock_step running settles going
      apply List.eq_nil_iff_forall_not_mem.mpr
      intro request member
      cases (isForLock_of_knows knows member).symm.trans (spared_of_asks spared member)
    | true =>
      obtain ⟨made, makes, heeds⟩ := moment.heeds platform
      rw [lockAction_of_going going, session_after_of_knows knows] at heeds
      rw [requests_of_makes makes]
      refine heeds.eq_nil (done settles running) ?_
      intro request member
      rw [← requests_of_makes makes] at member
      exact isForLock_of_knows knows member

end Moment

/-- Told again of how things are, a session stays as it is and asks for nothing, whatever state the first telling
found and whatever it set off. -/
theorem repeated_event_absorbed (platform : Platform World)
    (works : ∀ lock, platform.wakeLock = some lock → lock.Engages ∧ lock.Releases) (moment : Moment World)
    (tells : moment.event.tellsState = true)
    (steady : platform.surroundings (moment.after platform).world = platform.surroundings moment.engine.world) :
    let again : Moment World := ⟨moment.after platform, moment.event⟩
    again.requests platform = [] ∧ (again.after platform).session = (moment.after platform).session := by
  intro again
  have knows : again.engine.session.Knows (platform.surroundings again.engine.world) again.event := by
    simp only [again, steady]
    exact Engine.knows_step tells
  refine ⟨Moment.requests_of_knows knows ?_, Moment.session_after_of_knows knows⟩
  intro settles goesOn
  -- Where the lock would be brought in line again, the first telling left it so.
  have first := knows.settles goesOn settles moment.engine.session
  have running : moment.engine.session.tornDown = false :=
    (Engine.tornDown_step (Session.going_of_settles first)).symm.trans goesOn
  exact (Engine.settled_step running first).done works

/-- A second caller rings into a call with the device at the ear: two triggers, once. -/
theorem repeated_event_absorbed_ringing :
    let platform := ({} : Scenario).platform
    let world : SimulatedWorld := { store := ({} : PreferenceStore).setBool PreferenceKey.autoAnswer true }
    let engine := (Engine.start platform {} world).after platform [
      ⟨id, .callState .idle .inCall { hasLiveCall := true, activeCall := some { id := "a" } }⟩, ⟨id, .distance 0⟩]
    let moment : Moment SimulatedWorld := ⟨engine, .callState .inCall .incoming { ringingCallId := some "b" }⟩
    let again : Moment SimulatedWorld := ⟨moment.after platform, moment.event⟩
    moment.requests platform = [.enableOrientation false, .releaseLock false, .acceptCall] ∧
      again.requests platform = [] ∧
      (again.after platform).session = (moment.after platform).session := by
  intro platform world engine moment again
  refine ⟨by decide, repeated_event_absorbed platform ?_ moment rfl ?_⟩
  · rintro lock ⟨⟩
    exact ⟨SimulatedWorld.engages_wakeLock, SimulatedWorld.releases_wakeLock⟩
  · exact Engine.surroundings_step Scenario.surroundings_perform moment.event

end CallProximity
