import CallProximity.Proofs.Coherence
import CallProximity.Simulation

/-! When an event brings the lock in line, and what becomes of the lock when it does not. -/

namespace CallProximity

variable {World : Type}

/-- Whether the session's state asks for the screen-off lock: a call is on, or rings where
the user wants the lock for that too, and nothing keeps the screen on. -/
def Snapshot.wantsLock (snapshot : Snapshot) (preferences : Preferences) : Bool :=
  (snapshot.isOffhook || (snapshot.hasIncomingCall && preferences.autoSpeakerIncallOnly)) &&
    !snapshot.keepsScreenOn

theorem Snapshot.dark_of_wantsLock {snapshot : Snapshot} {preferences : Preferences}
    (wants : snapshot.wantsLock preferences = true) : snapshot.keepsScreenOn = false := by
  simpa using (Bool.and_eq_true_iff.mp wants).2

theorem decideLock_of_enabled {snapshot : Snapshot} {preferences : Preferences}
    (enabled : snapshot.sensorDisabledByPreference = false) : decideLock snapshot preferences =
      if snapshot.wantsLock preferences then .engage else .release snapshot.keepsScreenOn := by
  simp [decideLock, Snapshot.wantsLock, enabled]

namespace WakeLock

/-- Requests for other devices leave the lock as it is. -/
def Apart (lock : WakeLock World) (platform : Platform World) : Prop :=
  ∀ request world, request.isForLock = false →
    lock.isHeld (platform.perform world request) = lock.isHeld world

/-- Releasing always takes effect. -/
def Releases (lock : WakeLock World) : Prop :=
  ∀ restoreImmediately world, lock.isHeld (lock.release restoreImmediately world).2 = false

/-- Acquiring always takes effect. -/
def Engages (lock : WakeLock World) : Prop :=
  ∀ world, lock.isHeld (lock.acquire world).2 = true

/-- During a run nobody but the session touches the lock. -/
structure Owned (lock : WakeLock World) (platform : Platform World) (occurrences : List (Occurrence World)) :
    Prop where
  apart : lock.Apart platform
  undisturbed : ∀ occurrence ∈ occurrences, ∀ world, lock.isHeld (occurrence.meanwhile world) = lock.isHeld world

end WakeLock

/-- No event of a run loads preferences that turn proximity off. -/
def Engine.LoadsEnabled (platform : Platform World) (engine : Engine World) (occurrences : List (Occurrence World)) :
    Prop :=
  ∀ moment ∈ engine.moments platform occurrences, ∀ preferences ∈ moment.loaded? platform,
    preferences.sensorDisabled = false

theorem ChangeSet.isEmpty_iff {change : ChangeSet} : change.isEmpty = true ↔
    change.resync = false ∧ change.outgoingAnswered = false ∧ change.incoming = false := by
  simp only [isEmpty, Bool.and_eq_true, Bool.not_eq_true', and_assoc]

namespace Session

variable {session : Session}

theorem snapshot_resubscribe (hasSensor : Bool) :
    ∃ reading, (session.resubscribe hasSensor).snapshot = session.snapshot.applyReading reading := by
  simp only [resubscribe]
  split
  · exact ⟨.initial, rfl⟩
  · exact ⟨session.snapshot.reading, rfl⟩

/-- A notification without triggers changes neither what keeps the screen on nor whether a
call is on. Ringing may stop unnoticed, but not begin. -/
theorem Coherent.status_of_quiet {old new : CallState} {calls : CallList} (coherent : session.Coherent)
    (quiet : (session.calls.change old new calls).isEmpty = true) :
    (CallStatus.derive new calls).isOffhook = session.snapshot.isOffhook ∧
      (CallStatus.derive new calls).isVideoCall = session.snapshot.isVideoCall ∧
      (CallStatus.derive new calls).isRttCall = session.snapshot.isRttCall ∧
      ((CallStatus.derive new calls).hasIncomingCall = true → session.snapshot.hasIncomingCall = true) := by
  rw [coherent.isOffhook, coherent.isVideoCall, coherent.isRttCall, coherent.hasIncomingCall]
  simp only [ChangeSet.isEmpty, CallAggregator.change, Bool.and_eq_true, Bool.not_eq_true', Bool.or_eq_false_iff,
    bne_eq_false_iff_eq, Bool.and_eq_false_iff] at quiet
  obtain ⟨⟨⟨⟨sameOffhook, sameVideo⟩, sameRtt⟩, -⟩, ringing⟩ := quiet
  refine ⟨sameOffhook, sameVideo, sameRtt, ?_⟩
  intro rings
  rcases ringing with silent | known
  · cases rings.symm.trans silent
  · simpa using known.1

theorem work_of_isEmpty {change : ChangeSet} (quiet : change.isEmpty = true) : session.work change = session := by
  obtain ⟨still, unanswered, -⟩ := ChangeSet.isEmpty_iff.mp quiet
  simp only [work, still, unanswered, Bool.false_eq_true, ↓reduceIte]

/-- An event that leaves the lock alone gives no reason to move it, but that ringing may
have stopped. -/
theorem snapshot_next_of_unsettled (around : Surroundings) {event : Event} (coherent : session.Coherent)
    (unsettled : session.settles event = false) :
    (session.next around event).snapshot.keepsScreenOn = session.snapshot.keepsScreenOn ∧
      (session.next around event).snapshot.isOffhook = session.snapshot.isOffhook ∧
      ((session.next around event).snapshot.hasIncomingCall = true → session.snapshot.hasIncomingCall = true) := by
  simp only [next]
  split
  · exact ⟨rfl, rfl, id⟩
  · cases event with
    | timer generation =>
      simp only [fire]
      split <;> exact ⟨rfl, rfl, id⟩
    | distance value =>
      simp only [react]
      split <;> exact ⟨rfl, rfl, id⟩
    | display id isOn => exact ⟨rfl, rfl, fun ringing => ringing⟩
    | tearDown => exact ⟨rfl, rfl, id⟩
    | audioRoute route =>
      have same : route = (session.refresh around.preferences).calls.audioRoute := by
        simpa [settles] using unsettled
      have unmoved : (session.refresh around.preferences).moveAudio route = session.refresh around.preferences :=
        if_pos same
      simp only [react, unmoved]
      exact ⟨rfl, rfl, id⟩
    | callState old new calls =>
      have quiet : ((session.refresh around.preferences).calls.change old new calls).isEmpty = true := by
        simpa [settles] using unsettled
      obtain ⟨offhook, video, rtt, ringing⟩ := coherent.status_of_quiet quiet
      obtain ⟨reading, heard⟩ := ((session.refresh around.preferences).notify old new calls).snapshot_resubscribe
        around.hasSensor
      simp only [react, work_of_isEmpty quiet, hear, heard]
      refine ⟨?_, offhook, ringing⟩
      simp only [Snapshot.keepsScreenOn, Snapshot.isHorizontal, notify, refresh, Snapshot.applyStatus,
        Snapshot.applyReading, video, rtt]
    | orientation _ | dialpad _ | attemptingVideo _ | uiShowing _ => cases unsettled

theorem wantsLock_of_next_of_unsettled (around : Surroundings) {event : Event} {preferences : Preferences}
    (coherent : session.Coherent) (unsettled : session.settles event = false)
    (wants : (session.next around event).snapshot.wantsLock preferences = true) :
    session.snapshot.wantsLock preferences = true := by
  obtain ⟨dark, offhook, rang⟩ := snapshot_next_of_unsettled around coherent unsettled
  simp only [Snapshot.wantsLock, dark, offhook, Bool.and_eq_true, Bool.or_eq_true] at wants ⊢
  obtain ⟨on | ⟨rings, holds⟩, free⟩ := wants
  · exact ⟨.inl on, free⟩
  · exact ⟨.inr ⟨rang rings, holds⟩, free⟩

end Session

namespace Engine

variable {platform : Platform World} {engine before after : Engine World} {lock : WakeLock World}

theorem isHeld_of_asks (apart : lock.Apart platform)
    (asks : Asks platform Request.isForLock [] before after) :
    lock.isHeld after.world = lock.isHeld before.world := by
  obtain ⟨made, makes, spared⟩ := asks
  apply makes.keeps
  intro request member world
  exact apart request world (by simpa using List.filter_eq_nil_iff.mp spared request member)

/-! What the operations around the lock ask of it: nothing. -/

theorem asks_lock_cancelPending : Asks platform Request.isForLock [] engine (engine.cancelPending platform) :=
  asks_cancelPending fun _ => rfl

theorem asks_lock_enableOrientation (enabled : Bool) :
    Asks platform Request.isForLock [] engine (engine.enableOrientation platform enabled) :=
  (makes_enableOrientation enabled).asks _

theorem asks_lock_recomputeRoute (wantsSpeaker : Bool) :
    Asks platform Request.isForLock [] engine (engine.recomputeRoute platform wantsSpeaker) := by
  have asked : Asks platform Request.isForLock _ engine (engine.recomputeRoute platform wantsSpeaker) :=
    asks_recomputeRoute (fun _ => rfl) wantsSpeaker
  rwa [Session.filter_routeRequests fun _ speaker => Request.concerns_eq_false speaker] at asked

theorem recomputes_runTrigger (platform : Platform World) (engine : Engine World) (trigger : Trigger) :
    ∃ middle : Engine World, Asks platform Request.isForLock [] engine middle ∧
      engine.runTrigger platform trigger = middle.recomputeLock platform := by
  cases trigger with
  | resync =>
    unfold runTrigger resync
    dsimp only
    refine ⟨_, ?_, rfl⟩
    have started := ((Asks.refl platform engine).update fun session =>
      { session with snapshot := { session.snapshot with orientation := .unknown } }).andNothing
      (asks_lock_enableOrientation engine.session.snapshot.isOffhook)
    split
    · exact started
    · exact started.andNothing asks_lock_cancelPending
  | outgoingAnswered => exact ⟨_, asks_lock_recomputeRoute _, rfl⟩
  | incoming => exact ⟨_, asks_maybeAutoAnswer rfl _, rfl⟩

/-- What an engine looks like whose last act was to bring the lock in line. -/
def Settled (platform : Platform World) (engine : Engine World) : Prop :=
  ∃ before : Engine World, engine = before.recomputeLock platform

/-- The lock is brought in line last, after whatever else was asked for since. -/
def SettledSince (platform : Platform World) (start engine : Engine World) : Prop :=
  ∃ middle : Engine World, start.exchanges <+: middle.exchanges ∧ engine = middle.recomputeLock platform

namespace SettledSince

variable {start middle : Engine World}

theorem settled (settled : SettledSince platform start engine) : Settled platform engine := by
  obtain ⟨middle, -, same⟩ := settled
  exact ⟨middle, same⟩

theorem earlier (settled : SettledSince platform middle engine) (stands : start.exchanges <+: middle.exchanges) :
    SettledSince platform start engine := by
  obtain ⟨last, after, same⟩ := settled
  exact ⟨last, stands.trans after, same⟩

theorem stands (settled : SettledSince platform start engine) : start.exchanges <+: engine.exchanges := by
  obtain ⟨middle, after, rfl⟩ := settled
  exact after.trans makes_recomputeLock.stands

end SettledSince

theorem SettledSince.runTriggers {change : ChangeSet} (needed : change.isEmpty = false) :
    SettledSince platform engine (engine.runTriggers platform change) := by
  have worked {triggers : List Trigger} (raised : triggers ≠ []) :
      SettledSince platform engine (triggers.foldl (Engine.runTrigger platform) engine) := by
    induction triggers generalizing engine with
    | nil => exact absurd rfl raised
    | cons trigger rest ih =>
      obtain ⟨middle, asks, same⟩ := recomputes_runTrigger platform engine trigger
      have first : SettledSince platform engine (engine.runTrigger platform trigger) := ⟨middle, asks.stands, same⟩
      by_cases last : rest = []
      · rw [last]
        exact first
      · exact (ih last).earlier first.stands
  rw [← foldl_triggers]
  apply worked
  simp only [ChangeSet.triggers]
  simp_all [ChangeSet.isEmpty]

/-- The events that have the lock brought in line do so last: once, or once for each trigger of a notification. Before
that they ask nothing of the lock. -/
theorem recomputes_of_settles (platform : Platform World) {event : Event} (running : engine.session.tornDown = false)
    (settles : engine.session.settles event = true) :
    (∃ middle : Engine World, Asks platform Request.isForLock [] engine middle ∧
      engine.step platform event = middle.recomputeLock platform) ∨
    ∃ (heard : Engine World) (change : ChangeSet), Asks platform Request.isForLock [] engine heard ∧
      change.isEmpty = false ∧ engine.step platform event = heard.runTriggers platform change := by
  have refreshed : Asks platform Request.isForLock [] engine (engine.refreshPreferences platform) :=
    makes_refreshPreferences.asks _
  cases event with
  | orientation _ | dialpad _ =>
    simp only [step, process_of_running _ running]
    exact .inl ⟨_, refreshed.update _, rfl⟩
  | attemptingVideo _ =>
    simp only [step, process_of_running _ running]
    exact .inl ⟨_, (refreshed.note ..).update _, rfl⟩
  | uiShowing showing =>
    simp only [step, process_of_running _ running, onUiShowing]
    split
    · exact .inl ⟨_, refreshed.update _, rfl⟩
    · exact .inl ⟨_, refreshed, rfl⟩
  | audioRoute route =>
    have differs : route ≠ (engine.refreshPreferences platform).session.calls.audioRoute := by
      rw [calls_refreshPreferences]
      simpa [Session.settles] using settles
    simp only [step, process_of_running _ running, onAudioRoute, CallAggregator.setRoute, differs, ↓reduceIte]
    refine .inl ⟨_, ?_, rfl⟩
    split
    · exact (refreshed.note ..).update _
    · exact ((refreshed.note ..).update _).andNothing asks_lock_cancelPending
  | callState old new calls =>
    simp only [step, process_of_running _ running, onCallState_eq]
    refine .inr ⟨_, _, refreshed.andNothing (asks_heard rfl rfl old new calls), ?_, rfl⟩
    rw [calls_refreshPreferences]
    simpa [Session.settles] using settles
  | distance _ | display _ _ | timer _ | tearDown => cases settles

theorem settledSince_step {event : Event} (running : engine.session.tornDown = false)
    (settles : engine.session.settles event = true) : SettledSince platform engine (engine.step platform event) := by
  rcases recomputes_of_settles platform running settles with
    ⟨middle, asks, same⟩ | ⟨heard, change, asks, needed, same⟩
  · exact ⟨middle, asks.stands, same⟩
  · rw [same]
    exact (SettledSince.runTriggers needed).earlier asks.stands

theorem settled_step {event : Event} (running : engine.session.tornDown = false)
    (settles : engine.session.settles event = true) : Settled platform (engine.step platform event) :=
  (settledSince_step running settles).settled

theorem loaded?_of_settles {event : Event} (running : engine.session.tornDown = false)
    (settles : engine.session.settles event = true) : (⟨engine, event⟩ : Moment World).loaded? platform =
      some (Preferences.load (platform.preferences engine.world)) := by
  simp only [Moment.loaded?, running, Bool.false_eq_true, ↓reduceIte]
  cases event with
  | timer _ | tearDown => cases settles
  | _ => rfl

theorem enabled_of_settles {event : Event} (running : engine.session.tornDown = false)
    (settles : engine.session.settles event = true) (coherent : (engine.step platform event).session.Coherent)
    (enabled : ∀ preferences ∈ (⟨engine, event⟩ : Moment World).loaded? platform,
      preferences.sensorDisabled = false) :
    (engine.step platform event).session.snapshot.sensorDisabledByPreference = false := by
  have loaded : (⟨engine, event⟩ : Moment World).loaded? platform = _ := loaded?_of_settles running settles
  rw [coherent.disabled, preferences_step, loaded]
  exact enabled _ loaded

theorem runTriggers_of_isEmpty {change : ChangeSet} (quiet : change.isEmpty = true) :
    engine.runTriggers platform change = engine := by
  obtain ⟨still, unanswered, silent⟩ := ChangeSet.isEmpty_iff.mp quiet
  simp only [runTriggers, still, unanswered, silent, Bool.false_eq_true, ↓reduceIte]

theorem equipment_after (occurrences : List (Occurrence World)) :
    (engine.after platform occurrences).session.equipment = engine.session.equipment :=
  (invariant_along (·.session.equipment = engine.session.equipment) occurrences rfl
    (fun _ _ _ same => same) (fun _ _ same => (equipment_step _).trans same)).1

theorem lockState_eq_held_iff : engine.lockState platform = .held ↔
    ∃ lock, platform.wakeLock = some lock ∧ engine.session.managesLock = true ∧ lock.isHeld engine.world = true := by
  simp only [lockState]
  cases platform.wakeLock with
  | none => simp
  | some lock => simp [Bool.and_eq_true]

theorem asks_lock_onDistance (distance : Float32) :
    Asks platform Request.isForLock [] engine (engine.onDistance platform distance) := by
  cases available : engine.session.classifier.isAvailable with
  | false =>
    rw [onDistance_of_unavailable available]
    exact .refl platform engine
  | true =>
    rw [onDistance_of_available available]
    exact (((makes_sensed distance).asks _).andNothing (asks_lock_recomputeRoute _)).andNothing
      (asks_maybeAutoAnswer rfl _)

theorem asks_lock_step {event : Event} (running : engine.session.tornDown = false)
    (unsettled : engine.session.settles event = false) (going : event ≠ .tearDown) :
    Asks platform Request.isForLock [] engine (engine.step platform event) := by
  have refreshed : Asks platform Request.isForLock [] engine (engine.refreshPreferences platform) :=
    makes_refreshPreferences.asks _
  cases event with
  | distance value =>
    simp only [step, process_of_running _ running]
    exact refreshed.andNothing (asks_lock_onDistance value)
  | display id isOn =>
    simp only [step, process_of_running _ running]
    refine refreshed.andNothing ?_
    simp only [onDisplay]
    split
    · exact .refl platform _
    · exact (((Asks.refl platform _).update _).note ..).andNothing (asks_lock_enableOrientation _)
  | timer generation =>
    apply Asks.nothing (makes_onTimer generation running)
    simp only [Session.fireRequests]
    grind
  | audioRoute route =>
    have same : route = (engine.refreshPreferences platform).session.calls.audioRoute := by
      rw [calls_refreshPreferences]
      simpa [Session.settles] using unsettled
    simp only [step, process_of_running _ running, onAudioRoute, CallAggregator.setRoute, ← same, ↓reduceIte]
    exact refreshed
  | callState old new calls =>
    have quiet : ((engine.refreshPreferences platform).session.calls.change old new calls).isEmpty = true := by
      rw [calls_refreshPreferences]
      simpa [Session.settles] using unsettled
    simp only [step, process_of_running _ running, onCallState_eq, runTriggers_of_isEmpty quiet]
    exact refreshed.andNothing (asks_heard rfl rfl old new calls)
  | tearDown => exact absurd rfl going
  | orientation _ | dialpad _ | attemptingVideo _ | uiShowing _ => cases unsettled

theorem isHeld_releaseLock (present : platform.wakeLock = some lock) (releases : lock.Releases)
    (restoreImmediately : Bool) : lock.isHeld (engine.releaseLock platform restoreImmediately).world = false := by
  rw [(makes_releaseLock restoreImmediately).world]
  simp only [present, Option.any_some]
  cases held : lock.isHeld engine.world with
  | true =>
    simp only [↓reduceIte, List.foldl_cons, List.foldl_nil, Platform.perform, present, Option.elim_some]
    exact releases ..
  | false => simpa using held

section Settled

variable (present : platform.wakeLock = some lock) (settled : Settled platform engine)
  (equipped : engine.session.equipment = (true, true))
  (enabled : engine.session.snapshot.sensorDisabledByPreference = false)

include present settled equipped enabled

theorem isHeld_of_unwanted (releases : lock.Releases)
    (unwanted : engine.session.snapshot.wantsLock engine.session.preferences = false) :
    lock.isHeld engine.world = false := by
  obtain ⟨before, rfl⟩ := settled
  simp only [session_recomputeLock, Session.equipment, Prod.mk.injEq] at equipped enabled unwanted
  have made : (before.recomputeLock platform).world = _ := makes_recomputeLock.world
  simp only [lockRequests, present, equipped, Bool.and_self, ↓reduceIte, decideLock_of_enabled enabled, unwanted,
    Bool.false_eq_true] at made
  rw [made]
  cases held : lock.isHeld before.world with
  | true =>
    simp only [↓reduceIte, List.foldl_cons, List.foldl_nil, Platform.perform, present, Option.elim_some]
    exact releases ..
  | false => simpa using held

theorem isHeld_of_wanted (engages : lock.Engages)
    (wanted : engine.session.snapshot.wantsLock engine.session.preferences = true) :
    lock.isHeld engine.world = true := by
  obtain ⟨before, rfl⟩ := settled
  simp only [session_recomputeLock, Session.equipment, Prod.mk.injEq] at equipped enabled wanted
  have made : (before.recomputeLock platform).world = _ := makes_recomputeLock.world
  simp only [lockRequests, present, equipped, Bool.and_self, ↓reduceIte, decideLock_of_enabled enabled, wanted]
    at made
  rw [made]
  cases held : lock.isHeld before.world with
  | true => simpa using held
  | false =>
    simp only [Bool.false_eq_true, ↓reduceIte, List.foldl_cons, List.foldl_nil, Platform.perform, present,
      Option.elim_some]
    exact engages _

end Settled

end Engine

namespace SimulatedWorld

def wakeLock : WakeLock SimulatedWorld where
  isHeld := lockHeld
  acquire := acquire
  release := fun _ => release

theorem releases_wakeLock : wakeLock.Releases := fun _ _ => rfl

theorem engages_wakeLock : wakeLock.Engages := fun _ => rfl

theorem apart_wakeLock (scenario : Scenario) : wakeLock.Apart scenario.platform := by
  intro request world other
  cases request with
  | acquireLock | releaseLock _ => cases other
  | acceptCall =>
    simp only [Platform.perform, Scenario.platform]
    split <;> rfl
  | subscribe | unsubscribe =>
    simp only [Platform.perform, Scenario.platform]
    split <;> rfl
  | _ => rfl

end SimulatedWorld

end CallProximity
