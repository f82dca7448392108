import CallProximity.Proofs.SettledLock

/-! Signals of different kinds reach a session in any order to one effect. Each of them writes a part of the session
of its own. The requests on the way may differ, but a lock that does as it is told ends up as the session that they
leave behind decides. -/

namespace CallProximity

variable {World : Type} {platform : Platform World} {engine : Engine World} {lock : WakeLock World}
  {event first second : Event}

/-- What a session is told of by itself, calls and readings apart. -/
inductive Signal where
  | orientation
  | uiShowing
  | dialpad
  | attemptingVideo
  | audioRoute
  | display
deriving DecidableEq

def Event.signal? : Event → Option Signal
  | .orientation _ => some .orientation
  | .uiShowing _ => some .uiShowing
  | .dialpad _ => some .dialpad
  | .attemptingVideo _ => some .attemptingVideo
  | .audioRoute _ => some .audioRoute
  | .display _ _ => some .display
  | .distance _ | .callState _ _ _ | .timer _ | .tearDown => none

variable {signal one other : Signal}

namespace Event

theorem mayAnswer_of_signal (told : event.signal? = some signal) : event.mayAnswer = false := by
  cases event with
  | distance _ | callState _ _ _ => cases told
  | _ => rfl

theorem going_of_signal (told : event.signal? = some signal) : event ≠ .tearDown := by
  intro ends
  rw [ends] at told
  cases told

end Event

namespace Session

variable {around : Surroundings} {session : Session}

theorem next_of_signal (running : session.tornDown = false) (told : event.signal? = some signal) :
    session.next around event = (session.refresh around.preferences).react around event := by
  simp only [next, running, Bool.false_eq_true, ↓reduceIte]
  cases event with
  | timer _ | tearDown => cases told
  | _ => rfl

theorem calls_react (told : event.signal? = some signal) (still : signal ≠ .audioRoute) :
    (session.react around event).calls = session.calls := by
  cases event with
  | audioRoute _ =>
    cases told
    exact absurd rfl still
  | uiShowing showing =>
    simp only [react]
    split <;> rfl
  | orientation _ | dialpad _ | attemptingVideo _ | display _ _ => rfl
  | distance _ | callState _ _ _ | timer _ | tearDown => cases told

theorem moveAudio_of_same {route : AudioRoute} (same : route = session.calls.audioRoute) :
    session.moveAudio route = session :=
  if_pos same

theorem react_moveAudio (told : event.signal? = some signal) (still : signal ≠ .audioRoute) (route : AudioRoute) :
    (session.moveAudio route).react around event = (session.react around event).moveAudio route := by
  have calls : (session.react around event).calls = session.calls := calls_react told still
  by_cases same : route = session.calls.audioRoute
  · rw [moveAudio_of_same same, moveAudio_of_same (by rwa [calls])]
  · rw [moveAudio, moveAudio, calls, if_neg same, if_neg same]
    cases event with
    | audioRoute _ =>
      cases told
      exact absurd rfl still
    | uiShowing showing =>
      simp only [react]
      split <;> rfl
    | orientation _ | dialpad _ | attemptingVideo _ | display _ _ => rfl
    | distance _ | callState _ _ _ | timer _ | tearDown => cases told

theorem react_comm (told : first.signal? = some one) (toldOther : second.signal? = some other) (apart : one ≠ other) :
    (session.react around first).react around second = (session.react around second).react around first := by
  -- The call screen is told apart from the plain writes because it may be ignored, by the screen alone.
  cases first with
  | audioRoute route =>
    cases told
    exact react_moveAudio toldOther apart.symm route
  | uiShowing showing =>
    cases told
    cases second with
    | audioRoute route =>
      have told : (Event.uiShowing showing).signal? = some .uiShowing := rfl
      exact (react_moveAudio told (by decide) route).symm
    | uiShowing _ =>
      cases toldOther
      exact absurd rfl apart
    | orientation _ | dialpad _ | attemptingVideo _ | display _ _ =>
      simp only [react]
      split <;> rfl
    | distance _ | callState _ _ _ | timer _ | tearDown => cases toldOther
  | orientation _ | dialpad _ | attemptingVideo _ | display _ _ =>
    cases told
    cases second with
    | audioRoute route => exact (react_moveAudio rfl (by decide) route).symm
    | uiShowing showing =>
      simp only [react]
      split <;> rfl
    | orientation _ | dialpad _ | attemptingVideo _ | display _ _ =>
      cases toldOther
      first | rfl | exact absurd rfl apart
    | distance _ | callState _ _ _ | timer _ | tearDown => cases toldOther
  | distance _ | callState _ _ _ | timer _ | tearDown => cases told

theorem fresh_next (running : session.tornDown = false) (told : event.signal? = some signal) :
    (session.next around event).refresh around.preferences = session.next around event := by
  rw [next_of_signal running told, refresh_react]

theorem next_comm (told : first.signal? = some one) (toldOther : second.signal? = some other) (apart : one ≠ other) :
    (session.next around first).next around second = (session.next around second).next around first := by
  cases running : session.tornDown with
  | true => simp only [next, running, ↓reduceIte]
  | false =>
    have goesOn {event : Event} {signal : Signal} (told : event.signal? = some signal) :
        (session.next around event).tornDown = false :=
      (tornDown_next around session (Event.going_of_signal told)).trans running
    rw [next_of_signal (goesOn told) toldOther, next_of_signal (goesOn toldOther) told, next_of_signal running told,
      next_of_signal running toldOther, refresh_react, refresh_react, react_comm told toldOther apart]

theorem lockAction_eq_skip_iff_of_fresh {preferences : Preferences} {later : Session}
    (equipped : later.equipment = session.equipment) (fresh : session.refresh preferences = session)
    (freshLater : later.refresh preferences = later) : later.lockAction = .skip ↔ session.lockAction = .skip := by
  have disabled : session.snapshot.sensorDisabledByPreference = later.snapshot.sensorDisabledByPreference := by
    rw [← fresh, ← freshLater]
    rfl
  rw [lockAction_eq_skip_iff, lockAction_eq_skip_iff, equipped, disabled]

theorem lockAction_next_of_unsettled (told : event.signal? = some signal) (unsettled : session.settles event = false)
    (fresh : session.refresh around.preferences = session) :
    (session.next around event).lockAction = session.lockAction := by
  cases running : session.tornDown with
  | true => simp only [next, running, ↓reduceIte]
  | false =>
    rw [next_of_signal running told, fresh]
    cases event with
    | audioRoute route =>
      have same : route = session.calls.audioRoute := by simpa [settles] using unsettled
      exact congrArg lockAction (moveAudio_of_same same)
    | display id isOn => rfl
    | orientation _ | uiShowing _ | dialpad _ | attemptingVideo _ => cases unsettled
    | distance _ | callState _ _ _ | timer _ | tearDown => cases told

/-- Whether a signal has the lock brought in line does not depend on signals of other kinds. -/
theorem settles_next (told : first.signal? = some one) (toldOther : second.signal? = some other) (apart : one ≠ other) :
    (session.next around first).settles second = session.settles second := by
  cases second with
  | audioRoute route =>
    cases toldOther
    cases running : session.tornDown with
    | true => simp only [next, running, ↓reduceIte]
    | false =>
      rw [next_of_signal running told]
      simp only [settles, calls_react told apart, calls_refresh]
  | orientation _ | uiShowing _ | dialpad _ | attemptingVideo _ | display _ _ => rfl
  | distance _ | callState _ _ _ | timer _ | tearDown => cases toldOther

end Session

theorem Scenario.surroundings_perform {scenario : Scenario} (request : Request) (world : SimulatedWorld) :
    scenario.platform.surroundings (scenario.platform.perform world request) =
      scenario.platform.surroundings world := by
  let seen (world : SimulatedWorld) := (world.screenOn, world.store)
  have kept : seen (scenario.platform.perform world request) = seen world := by
    cases request with
    | acceptCall | subscribe | unsubscribe =>
      simp only [seen, Platform.perform, platform]
      split <;> rfl
    | _ => rfl
  exact congrArg (fun seen => Surroundings.mk _ (Preferences.load seen.2.source) seen.1) kept

namespace Engine

theorem surroundings_step (kept : ∀ request world,
      platform.surroundings (platform.perform world request) = platform.surroundings world) (event : Event) :
    platform.surroundings (engine.step platform event).world = platform.surroundings engine.world := by
  obtain ⟨made, makes, -⟩ := Moment.heeds platform ⟨engine, event⟩
  exact makes.keeps fun request _ => kept request

theorem isHeld_step_of_signal (told : event.signal? = some signal) (present : platform.wakeLock = some lock)
    (obeys : lock.Obeys platform) (running : engine.session.tornDown = false) :
    lock.isHeld (engine.step platform event).world =
      if engine.session.settles event then
        (engine.step platform event).session.lockAction.outcome?.getD (lock.isHeld engine.world)
      else lock.isHeld engine.world := by
  cases settles : engine.session.settles event with
  | true => exact isHeld_step_of_settles present obeys running settles
  | false => exact isHeld_of_asks obeys.apart (asks_lock_step running settles (Event.going_of_signal told))

/-- After two signals of different kinds a lock that either of them had brought in line is as the session now
decides. -/
theorem isHeld_step_step (told : first.signal? = some one) (toldOther : second.signal? = some other)
    (apart : one ≠ other) (present : platform.wakeLock = some lock) (obeys : lock.Obeys platform)
    (running : engine.session.tornDown = false)
    (steady : platform.surroundings (engine.step platform first).world = platform.surroundings engine.world) :
    lock.isHeld ((engine.step platform first).step platform second).world =
      if engine.session.settles first || engine.session.settles second then
        ((engine.step platform first).step platform second).session.lockAction.outcome?.getD
          (lock.isHeld engine.world)
      else lock.isHeld engine.world := by
  have stepped : (engine.step platform first).session =
      engine.session.next (platform.surroundings engine.world) first :=
    session_step_of_silent (Event.mayAnswer_of_signal told)
  have goesOn : (engine.step platform first).session.tornDown = false :=
    (tornDown_step (Event.going_of_signal told)).trans running
  have fresh : (engine.step platform first).session.refresh (platform.surroundings engine.world).preferences =
      (engine.step platform first).session := by
    rw [stepped]
    exact Session.fresh_next running told
  have settles : (engine.step platform first).session.settles second = engine.session.settles second := by
    rw [stepped]
    exact Session.settles_next told toldOther apart
  have last : ((engine.step platform first).step platform second).session =
      (engine.step platform first).session.next (platform.surroundings engine.world) second := by
    rw [← steady]
    exact session_step_of_silent (Event.mayAnswer_of_signal toldOther)
  rw [isHeld_step_of_signal toldOther present obeys goesOn, isHeld_step_of_signal told present obeys running, settles]
  cases settled : engine.session.settles second with
  | false =>
    have same := Session.lockAction_next_of_unsettled toldOther (settles.trans settled) fresh
    rw [← last] at same
    simp only [Bool.false_eq_true, ↓reduceIte, Bool.or_false, same]
  | true =>
    simp only [↓reduceIte, Bool.or_true]
    cases decided : ((engine.step platform first).step platform second).session.lockAction.outcome? with
    | some held => rfl
    | none =>
      -- What the second signal leaves alone, the first one left alone as well.
      have skips : (engine.step platform first).session.lockAction.outcome? = none := by
        rw [LockAction.outcome?_eq_none_iff] at decided ⊢
        refine (Session.lockAction_eq_skip_iff_of_fresh (equipment_step second) fresh ?_).mp decided
        rw [last]
        exact Session.fresh_next goesOn toldOther
      simp only [skips, Option.getD_none, ite_self]

end Engine

/-- Two signals of different kinds leave the same session and the same lock in either order, as long as neither
changes what the other is told by: the preferences, and whether the screen is on. -/
theorem signals_commute (platform : Platform World) (engine : Engine World) (first second : Event)
    (one other : Signal) (told : first.signal? = some one) (toldOther : second.signal? = some other)
    (apart : one ≠ other) (obeys : ∀ lock, platform.wakeLock = some lock → lock.Obeys platform)
    (steady : ∀ event ∈ [first, second],
      platform.surroundings (engine.step platform event).world = platform.surroundings engine.world) :
    let onward := (engine.step platform first).step platform second
    let swapped := (engine.step platform second).step platform first
    onward.session = swapped.session ∧ onward.lockState platform = swapped.lockState platform := by
  intro onward swapped
  have steadyFirst := steady first (by simp)
  have steadySecond := steady second (by simp)
  have same : onward.session = swapped.session := by
    have silent := Event.mayAnswer_of_signal told
    have silentOther := Event.mayAnswer_of_signal toldOther
    simp only [onward, swapped, Engine.session_step_of_silent silent, Engine.session_step_of_silent silentOther,
      steadyFirst, steadySecond]
    exact Session.next_comm told toldOther apart
  refine ⟨same, ?_⟩
  simp only [Engine.lockState, same]
  cases present : platform.wakeLock with
  | none => rfl
  | some lock =>
    suffices held : lock.isHeld onward.world = lock.isHeld swapped.world by simp only [held]
    cases running : engine.session.tornDown with
    | true =>
      have untouched (earlier later : Event) :
          ((engine.step platform earlier).step platform later).world = engine.world := by
        have stays : (engine.step platform earlier).session.tornDown = true := by
          rw [Engine.session_step_of_tornDown earlier running, running]
        exact (Engine.makes_step_of_tornDown later stays).world.trans
          (Engine.makes_step_of_tornDown earlier running).world
      simp only [onward, swapped, untouched]
    | false =>
      have here := Engine.isHeld_step_step told toldOther apart present (obeys lock present) running steadyFirst
      have there := Engine.isHeld_step_step toldOther told apart.symm present (obeys lock present) running steadySecond
      rw [Bool.or_comm] at there
      refine here.trans (Eq.trans ?_ there.symm)
      simp only [onward, swapped] at same
      rw [same]

/-- Turned flat before its call screen shows, the device gets its screen back for a moment. -/
theorem signals_commute_showing :
    let platform := ({} : Scenario).platform
    let engine := (Engine.start platform {} {}).step platform
      (.callState .outgoing .inCall { hasLiveCall := true, activeCall := some { id := "a" } })
    let onward := (engine.step platform (.uiShowing true)).step platform (.orientation .horizontal)
    let swapped := (engine.step platform (.orientation .horizontal)).step platform (.uiShowing true)
    onward.requests = engine.requests ∧ swapped.requests = engine.requests ++ [.releaseLock true, .acquireLock] ∧
      onward.session = swapped.session ∧ onward.lockState platform = swapped.lockState platform := by
  intro platform engine onward swapped
  refine ⟨by decide, by decide, ?_⟩
  apply signals_commute platform engine (.uiShowing true) (.orientation .horizontal) .uiShowing .orientation rfl rfl
    (by decide)
  · rintro lock ⟨⟩
    exact ⟨SimulatedWorld.engages_wakeLock, SimulatedWorld.releases_wakeLock, SimulatedWorld.apart_wakeLock _⟩
  · intro event _
    exact Engine.surroundings_step Scenario.surroundings_perform event

end CallProximity
