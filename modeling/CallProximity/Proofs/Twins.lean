import CallProximity.Proofs.LockRequests
import Mathlib.Data.List.Forall2

/-! Two sessions side by side, on platforms that answer them alike. Requests of one kind are hidden: they may
be made of one platform and not of the other, as long as the devices stay alike. Each operation then keeps
the two sessions equal, and asks for the same but for what is hidden. -/

namespace CallProximity

variable {World Other : Type} {hidden : Request → Bool} {alike : World → Other → Prop}

theorem Request.filter_if_shown {request : Request} {here there : Prop} [Decidable here] [Decidable there]
    (agree : hidden request = false → (here ↔ there)) : (if here then [request] else []).filter (!hidden ·) =
      (if there then [request] else []).filter (!hidden ·) := by
  cases kind : hidden request with
  | true => split <;> split <;> simp [kind]
  | false => simp only [agree kind]

/-- Two platforms that a session cannot tell apart while their devices are alike. They stay alike under
requests that both carry out, and under hidden ones that one of them carries out alone. -/
structure Platform.Alike (hidden : Request → Bool) (alike : World → Other → Prop) (platform : Platform World)
    (other : Platform Other) : Prop where
  maxRange : platform.sensor.map ProximitySensor.maxRange = other.sensor.map ProximitySensor.maxRange
  hasLock : platform.wakeLock.isSome = other.wakeLock.isSome
  hasTelephony : hidden .acceptCall = false → platform.telephony.isSome = other.telephony.isSome
  preferences : ∀ {world twin}, alike world twin →
    Preferences.load (platform.preferences world) = Preferences.load (other.preferences twin)
  screen : ∀ {world twin}, alike world twin → platform.isScreenOn world = other.isScreenOn twin
  accepts : ∀ {world twin}, alike world twin → platform.accepts world = other.accepts twin
  held : ∀ {request world twin}, request.isForLock = true → hidden request = false → alike world twin →
    platform.lockHeld? world = other.lockHeld? twin
  shown : ∀ {request world twin}, hidden request = false → alike world twin →
    alike (platform.perform world request) (other.perform twin request)
  hiddenHere : ∀ {request world twin}, hidden request = true → alike world twin →
    alike (platform.perform world request) twin
  hiddenThere : ∀ {request world twin}, hidden request = true → alike world twin →
    alike world (other.perform twin request)

/-- Two engines with the same session, on devices that are alike, that asked for the same but for what is
hidden. -/
structure Engine.Twins (hidden : Request → Bool) (alike : World → Other → Prop) (engine : Engine World)
    (twin : Engine Other) : Prop where
  session : engine.session = twin.session
  alike : alike engine.world twin.world
  requests : engine.requests.filter (!hidden ·) = twin.requests.filter (!hidden ·)

/-- The same event, after whatever kept the devices alike. -/
structure Occurrence.Alike (alike : World → Other → Prop) (occurrence : Occurrence World) (other : Occurrence Other) :
    Prop where
  event : occurrence.event = other.event
  meanwhile : ∀ {world twin}, alike world twin → alike (occurrence.meanwhile world) (other.meanwhile twin)

namespace Platform.Alike

variable {platform : Platform World} {other : Platform Other} (same : platform.Alike hidden alike other)

include same

theorem hasSensor : platform.sensor.isSome = other.sensor.isSome := by
  simpa using congrArg Option.isSome same.maxRange

theorem opening (config : ClassifierConfig) (preferences : Preferences) :
    Session.opening platform config preferences = Session.opening other config preferences := by
  have ranged := same.maxRange
  have taken := same.hasLock
  simp only [Session.opening]
  cases here : platform.sensor <;> cases there : other.sensor <;> simp_all

theorem foldl {made asked : List Request} {world : World} {twin : Other}
    (agree : made.filter (!hidden ·) = asked.filter (!hidden ·)) (begins : alike world twin) :
    alike (made.foldl platform.perform world) (asked.foldl other.perform twin) := by
  have alone {asked : List Request} {world : World} {twin : Other} (hides : ∀ request ∈ asked, hidden request = true)
      (begins : alike world twin) : alike world (asked.foldl other.perform twin) :=
    asked.foldlRecOn _ begins fun _ still request member => same.hiddenThere (hides request member) still
  induction made generalizing asked world twin with
  | nil => exact alone (by simpa using agree.symm) begins
  | cons request rest ih =>
    cases kind : hidden request with
    | true => exact ih (by simpa [kind] using agree) (same.hiddenHere kind begins)
    | false =>
      have next : asked.filter (!hidden ·) = request :: rest.filter (!hidden ·) := by simp [← agree, kind]
      obtain ⟨before, after, rfl, hides, -, agree⟩ := List.filter_eq_cons_iff.mp next
      rw [List.foldl_append, List.foldl_cons, List.foldl_cons]
      exact ih agree.symm (same.shown kind (alone (by simpa using hides) begins))

end Platform.Alike

namespace Engine.Twins

variable {platform : Platform World} {other : Platform Other} {engine later : Engine World} {twin mate : Engine Other}

theorem note (twins : Twins hidden alike engine twin) {level levelThere : LogLevel} {message messageThere : String}
    {fields fieldsThere : List (String × String)} : Twins hidden alike (engine.note level message fields)
      (twin.note levelThere messageThere fieldsThere) :=
  ⟨twins.session, twins.alike, twins.requests⟩

theorem update (twins : Twins hidden alike engine twin) (change : Session → Session) :
    Twins hidden alike (engine.update change) (twin.update change) :=
  ⟨congrArg change twins.session, twins.alike, twins.requests⟩

variable (same : platform.Alike hidden alike other) (twins : Twins hidden alike engine twin)

include same twins

theorem of_makes {made asked : List Request} (makes : Makes platform made engine later)
    (makesThere : Makes other asked twin mate) (session : later.session = mate.session)
    (agree : made.filter (!hidden ·) = asked.filter (!hidden ·)) : Twins hidden alike later mate where
  session := session
  alike := by
    rw [makes.world, makesThere.world]
    exact same.foldl agree twins.alike
  requests := by rw [makes.requests, makesThere.requests, List.filter_append, List.filter_append, twins.requests, agree]

theorem filter_lockRequests : (engine.lockRequests platform).filter (!hidden ·) =
    (twin.lockRequests other).filter (!hidden ·) := by
  rw [lockRequests_eq, lockRequests_eq, twins.session]
  cases twin.session.lockAction with
  | skip => rfl
  | engage | release _ => exact Request.filter_if_shown fun shown => by rw [same.held rfl shown twins.alike]

theorem recomputeLock : Twins hidden alike (engine.recomputeLock platform) (twin.recomputeLock other) :=
  twins.of_makes same makes_recomputeLock makes_recomputeLock (by simp [twins.session])
    (twins.filter_lockRequests same)

theorem cancelPending : Twins hidden alike (engine.cancelPending platform) (twin.cancelPending other) :=
  twins.of_makes same makes_cancelPending makes_cancelPending (by simp [twins.session]) (by rw [twins.session])

theorem recomputeRoute (wantsSpeaker : Bool) :
    Twins hidden alike (engine.recomputeRoute platform wantsSpeaker) (twin.recomputeRoute other wantsSpeaker) := by
  apply twins.of_makes same (makes_recomputeRoute _) (makes_recomputeRoute _)
  · rw [session_recomputeRoute, session_recomputeRoute, twins.session]
  · rw [twins.session]

theorem enableOrientation (enabled : Bool) :
    Twins hidden alike (engine.enableOrientation platform enabled) (twin.enableOrientation other enabled) :=
  twins.of_makes same (makes_enableOrientation _) (makes_enableOrientation _) twins.session rfl

theorem maybeAutoAnswer (near : Bool) :
    Twins hidden alike (engine.maybeAutoAnswer platform near) (twin.maybeAutoAnswer other near) := by
  apply twins.of_makes same (makes_maybeAutoAnswer near) (makes_maybeAutoAnswer near)
  · rw [session_maybeAutoAnswer_eq, session_maybeAutoAnswer_eq, twins.session, same.accepts twins.alike,
      same.screen twins.alike]
  · rw [answerRequests_eq, answerRequests_eq, twins.session, same.screen twins.alike]
    exact Request.filter_if_shown fun shown => by rw [same.hasTelephony shown]

theorem heard (old new : CallState) (calls : CallList) :
    Twins hidden alike (engine.heard platform old new calls) (twin.heard other old new calls) := by
  apply twins.of_makes same (makes_heard old new calls) (makes_heard old new calls)
  · rw [session_heard, session_heard, twins.session, same.hasSensor]
  · rw [twins.session, same.hasSensor]

theorem releaseLock (restoreImmediately : Bool) : Twins hidden alike (engine.releaseLock platform restoreImmediately)
    (twin.releaseLock other restoreImmediately) := by
  apply twins.of_makes same (makes_releaseLock _) (makes_releaseLock _)
  · rw [session_releaseLock, session_releaseLock, twins.session]
  · simp only [Platform.any_isHeld_iff]
    exact Request.filter_if_shown fun shown => by rw [same.held rfl shown twins.alike]

theorem resync : Twins hidden alike (engine.resync platform) (twin.resync other) := by
  have unknown (offhook : Bool) := (twins.update fun session =>
    { session with snapshot := { session.snapshot with orientation := .unknown } }).enableOrientation same offhook
  have both : engine.session.snapshot.isOffhook = twin.session.snapshot.isOffhook := by rw [twins.session]
  cases offhook : twin.session.snapshot.isOffhook with
  | true =>
    simp only [Engine.resync, session_update, both, offhook, ↓reduceIte]
    exact (unknown true).recomputeLock same
  | false =>
    simp only [Engine.resync, session_update, both, offhook, ↓reduceIte, Bool.false_eq_true]
    exact ((unknown false).cancelPending same).recomputeLock same

theorem runTrigger (trigger : Trigger) :
    Twins hidden alike (engine.runTrigger platform trigger) (twin.runTrigger other trigger) := by
  cases trigger with
  | resync => exact twins.resync same
  | outgoingAnswered =>
    simp only [Engine.runTrigger, twins.session]
    exact (twins.recomputeRoute same _).recomputeLock same
  | incoming =>
    simp only [Engine.runTrigger, twins.session]
    exact (twins.maybeAutoAnswer same _).recomputeLock same

theorem onCallState (old new : CallState) (calls : CallList) :
    Twins hidden alike (engine.onCallState platform old new calls) (twin.onCallState other old new calls) := by
  have worked {engine : Engine World} {twin : Engine Other} (twins : Twins hidden alike engine twin)
      (triggers : List Trigger) : Twins hidden alike (triggers.foldl (Engine.runTrigger platform) engine)
        (triggers.foldl (Engine.runTrigger other) twin) := by
    induction triggers generalizing engine twin with
    | nil => exact twins
    | cons trigger rest ih => exact ih (twins.runTrigger same trigger)
  rw [onCallState_eq, onCallState_eq, ← foldl_triggers, ← foldl_triggers, twins.session]
  exact worked (twins.heard same old new calls) _

theorem sensed (distance : Float32) : Twins hidden alike (engine.sensed distance) (twin.sensed distance) := by
  apply twins.of_makes same (makes_sensed distance) (makes_sensed distance)
  · rw [session_sensed, session_sensed, twins.session]
  · rfl

theorem onDistance (distance : Float32) :
    Twins hidden alike (engine.onDistance platform distance) (twin.onDistance other distance) := by
  cases available : twin.session.classifier.isAvailable with
  | false =>
    rw [onDistance_of_unavailable available, onDistance_of_unavailable (twins.session ▸ available)]
    exact twins
  | true =>
    rw [onDistance_of_available available, onDistance_of_available (twins.session ▸ available), twins.session]
    exact ((twins.sensed same distance).recomputeRoute same _).maybeAutoAnswer same _

theorem changeSnapshot (change : Snapshot → Snapshot) :
    Twins hidden alike (engine.changeSnapshot platform change) (twin.changeSnapshot other change) :=
  (twins.update _).recomputeLock same

theorem onUiShowing (showing : Bool) :
    Twins hidden alike (engine.onUiShowing platform showing) (twin.onUiShowing other showing) := by
  simp only [Engine.onUiShowing, same.screen twins.alike]
  split
  · exact twins.changeSnapshot same _
  · exact twins.recomputeLock same

theorem onAudioRoute (route : AudioRoute) :
    Twins hidden alike (engine.onAudioRoute platform route) (twin.onAudioRoute other route) := by
  simp only [Engine.onAudioRoute, twins.session]
  split
  · exact twins
  · refine Twins.recomputeLock same ?_
    split
    · exact twins.note.update _
    · exact (twins.note.update _).cancelPending same

theorem onDisplay (id : UInt32) (isOn : Bool) :
    Twins hidden alike (engine.onDisplay platform id isOn) (twin.onDisplay other id isOn) := by
  simp only [Engine.onDisplay, twins.session]
  split
  · exact twins
  · exact ((twins.update _).note).enableOrientation same _

theorem onTimer (generation : Nat) (running : engine.session.tornDown = false) :
    Twins hidden alike (engine.onTimer platform generation) (twin.onTimer other generation) := by
  have still : twin.session.tornDown = false := twins.session ▸ running
  apply twins.of_makes same (makes_onTimer generation running) (makes_onTimer generation still)
  · rw [session_onTimer generation running, session_onTimer generation still, twins.session]
  · rw [twins.session]

theorem tearDown (running : engine.session.tornDown = false) :
    Twins hidden alike (engine.tearDown platform) (twin.tearDown other) := by
  have dismantled : Twins hidden alike (engine.dismantle platform) (twin.dismantle other) := by
    apply twins.of_makes same makes_dismantle makes_dismantle
    · rw [session_dismantle, session_dismantle, twins.session]
    · rw [twins.session, same.hasSensor]
  rw [tearDown_of_running running, tearDown_of_running (twins.session ▸ running), dismantled.session]
  apply note
  split
  · exact dismantled.releaseLock same true
  · exact dismantled

theorem refreshPreferences :
    Twins hidden alike (engine.refreshPreferences platform) (twin.refreshPreferences other) := by
  apply twins.of_makes same makes_refreshPreferences makes_refreshPreferences
  · rw [session_refreshPreferences, session_refreshPreferences, twins.session, same.preferences twins.alike]
  · rfl

theorem step (event : Event) : Twins hidden alike (engine.step platform event) (twin.step other event) := by
  cases running : engine.session.tornDown with
  | true =>
    have done : twin.session.tornDown = true := twins.session ▸ running
    apply twins.of_makes same (makes_step_of_tornDown event running) (makes_step_of_tornDown event done) _ rfl
    rw [session_step_of_tornDown event running, session_step_of_tornDown event done, twins.session]
  | false =>
    have fresh : Twins hidden alike (engine.refreshPreferences platform) (twin.refreshPreferences other) :=
      twins.refreshPreferences same
    have still : twin.session.tornDown = false := twins.session ▸ running
    cases event with
    | timer generation => exact twins.onTimer same generation running
    | tearDown => exact twins.tearDown same running
    | distance value =>
      simp only [Engine.step, process_of_running _ running, process_of_running _ still]
      exact fresh.onDistance same value
    | orientation value | dialpad value =>
      simp only [Engine.step, process_of_running _ running, process_of_running _ still]
      exact fresh.changeSnapshot same _
    | attemptingVideo attempting =>
      simp only [Engine.step, process_of_running _ running, process_of_running _ still]
      exact fresh.note.changeSnapshot same _
    | callState old new calls =>
      simp only [Engine.step, process_of_running _ running, process_of_running _ still]
      exact fresh.onCallState same old new calls
    | audioRoute route =>
      simp only [Engine.step, process_of_running _ running, process_of_running _ still]
      exact fresh.onAudioRoute same route
    | uiShowing showing =>
      simp only [Engine.step, process_of_running _ running, process_of_running _ still]
      exact fresh.onUiShowing same showing
    | display id isOn =>
      simp only [Engine.step, process_of_running _ running, process_of_running _ still]
      exact fresh.onDisplay same id isOn

theorem meet {occurrence : Occurrence World} {counterpart : Occurrence Other} (pair : occurrence.Alike alike counterpart) :
    Twins hidden alike ((engine.meet occurrence).after platform) ((twin.meet counterpart).after other) := by
  obtain ⟨meanwhile, event⟩ := counterpart
  obtain ⟨rfl, still⟩ := pair
  have met : Twins hidden alike (engine.meet occurrence).engine (twin.disturb meanwhile) :=
    ⟨twins.session, still twins.alike, twins.requests⟩
  exact met.step same occurrence.event

theorem after {occurrences : List (Occurrence World)} {counterparts : List (Occurrence Other)}
    (pairs : List.Forall₂ (Occurrence.Alike alike) occurrences counterparts) :
    Twins hidden alike (engine.after platform occurrences) (twin.after other counterparts) := by
  induction pairs generalizing engine twin with
  | nil => exact twins
  | cons pair _ ih => exact ih (twins.meet same pair)

end Engine.Twins

theorem Platform.Alike.start {platform : Platform World} {other : Platform Other} {world : World} {twin : Other}
    (same : platform.Alike hidden alike other) (config : ClassifierConfig) (begins : alike world twin) :
    Engine.Twins hidden alike (Engine.start platform config world) (Engine.start other config twin) := by
  have opening := same.opening config (Preferences.load (other.preferences twin))
  have loaded := same.preferences begins
  have opened : Engine.Twins hidden alike
      ⟨.opening platform config (Preferences.load (platform.preferences world)), world, [], []⟩
      ⟨.opening other config (Preferences.load (other.preferences twin)), twin, [], []⟩ :=
    ⟨loaded ▸ opening, begins, rfl⟩
  apply opened.of_makes same (Engine.makes_start config world) (Engine.makes_start config twin)
  · rw [Engine.session_start, Engine.session_start, loaded, opening]
  · simp only [Bool.and_eq_true, Platform.any_isHeld_iff]
    apply Request.filter_if_shown
    intro shown
    rw [loaded, opening, same.held rfl shown begins]

end CallProximity
