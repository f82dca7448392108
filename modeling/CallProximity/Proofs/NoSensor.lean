import CallProximity.Proofs.AnswerRequests
import CallProximity.Proofs.LockRequests
import CallProximity.Proofs.SpeakerRoute

/-! Without a proximity sensor a session is blind, and that is all. It lets a lock go that it finds held and asks
for nothing else that a reading could call for. What it knows of calls, the route and the call screen it knows as
any other session: readings play no part in that. -/

namespace CallProximity

/-- Called for by readings, or made for them. -/
def Request.needsSensor (request : Request) : Bool :=
  request.isForLock || request.isForSpeaker || request.isForSensor || request.isAnswer

/-- Whether an event tells of anything but the sensor, the display or a timer. -/
def Event.tells : Event → Bool
  | .distance _ | .display _ _ | .timer _ => false
  | _ => true

/-- An event, and all that what it tells may depend on. -/
structure Telling where
  event : Event
  autoAnswer : Bool
  screenOn : Bool

variable {World : Type} {platform : Platform World} {engine : Engine World}

def Moment.telling? (platform : Platform World) (moment : Moment World) : Option Telling :=
  let around := platform.surroundings moment.engine.world
  if moment.event.tells then some ⟨moment.event, around.preferences.autoAnswer, around.screenOn⟩ else none

def Engine.tellings (platform : Platform World) (engine : Engine World) (occurrences : List (Occurrence World)) :
    List Telling :=
  (engine.moments platform occurrences).filterMap (Moment.telling? platform)

namespace Session

/-- What is left of a session without its sensor and what it has for it. -/
def unsensed (session : Session) : Session where
  snapshot := { session.snapshot.applyReading .initial with sensorDisabledByPreference := false }
  preferences := {}
  classifier := { maxRange := none }
  calls := session.calls
  managesLock := false
  subscriptions := session.subscriptions
  tornDown := session.tornDown

def tell (session : Session) (telling : Telling) : Session :=
  (session.next ⟨false, { autoAnswer := telling.autoAnswer }, telling.screenOn⟩ telling.event).unsensed

variable {session : Session}

theorem unsensed_work (change : ChangeSet) : (session.work change).unsensed =
    if change.resync then session.unsensed.adjust ({ · with orientation := .unknown }) else session.unsensed := by
  simp only [work]
  cases change.resync <;> cases change.outgoingAnswered <;> rfl

theorem unsensed_hear (hasSensor : Bool) (old new : CallState) (calls : CallList) :
    (session.hear hasSensor old new calls).unsensed =
      { (session.unsensed.notify old new calls) with
        subscriptions := (CallStatus.derive new calls).reasons session.preferences } := by
  simp only [hear, resubscribe]
  split <;> rfl

theorem unsensed_moveAudio (route : AudioRoute) : (session.moveAudio route).unsensed =
    if route = session.calls.audioRoute then session.unsensed
    else
      { session.unsensed.adjust ({ · with audioRoute := route }) with
        calls := { session.calls with audioRoute := route } } := by
  simp only [moveAudio]
  split <;> rfl

theorem unsensed_next_of_untold (around : Surroundings) {event : Event} (untold : event.tells = false) :
    (session.next around event).unsensed = session.unsensed := by
  simp only [next]
  split
  · rfl
  · cases event with
    | distance value =>
      simp only [react]
      split <;> rfl
    | timer generation =>
      simp only [fire]
      split <;> rfl
    | display id isOn => rfl
    | _ => cases untold

theorem unsensed_next_of_told (around : Surroundings) {event : Event} (told : event.tells = true) :
    (session.next around event).unsensed =
      session.unsensed.tell ⟨event, around.preferences.autoAnswer, around.screenOn⟩ := by
  have same : session.unsensed.tornDown = session.tornDown := rfl
  simp only [tell, next, same]
  split
  · rfl
  · cases event with
    | callState old new calls =>
      simp only [react]
      rw [unsensed_work, unsensed_work, unsensed_hear, unsensed_hear]
      rfl
    | audioRoute route =>
      simp only [react]
      rw [unsensed_moveAudio, unsensed_moveAudio]
      rfl
    | uiShowing showing =>
      simp only [react]
      split <;> rfl
    | orientation _ | dialpad _ | attemptingVideo _ | tearDown => rfl
    | _ => cases told

theorem classifier_next_of_absent (around : Surroundings) (event : Event)
    (absent : session.classifier = { maxRange := none }) :
    (session.next around event).classifier = { maxRange := none } := by
  rcases classifier_next around session event with kept | ⟨value, fed⟩ | reset
  · rw [kept, absent]
  · rw [fed, absent]
    rfl
  · rw [reset, absent]
    rfl

theorem routeRequests_of_unavailable (unavailable : session.classifier.isAvailable = false) (wantsSpeaker : Bool) :
    session.routeRequests wantsSpeaker = [] :=
  if_neg (Bool.eq_false_iff.mp unavailable)

theorem speakerRequests_of_unavailable (unavailable : session.classifier.isAvailable = false)
    (idle : session.pending = none) (around : Surroundings) (event : Event) :
    session.speakerRequests around event = [] := by
  simp only [speakerRequests]
  cases event with
  | distance value =>
    have blind : ((session.refresh around.preferences).sense value).classifier.isAvailable = false :=
      (isAvailable_sense ..).trans unavailable
    simp only [routeRequests_of_unavailable blind, ite_self]
  | callState old new calls =>
    have standing : ((session.refresh around.preferences).hear around.hasSensor old new calls).standing =
        (session.refresh around.preferences).standing := standing_hear ..
    have blind : ((session.refresh around.preferences).hear around.hasSensor old new calls).classifier.isAvailable =
        false := (congrArg (·.1.2) standing).trans unavailable
    simp only [routeRequests_of_unavailable blind, ite_self]
  | timer generation => simp [fireRequests, idle]
  | _ => exact ite_self _

end Session

/-- The session has no sensor, and the lock was left to others for that. -/
structure Session.Blind (session : Session) : Prop where
  classifier : session.classifier = { maxRange := none }
  unmanaged : session.managesLock = false
  poised : session.Poised

namespace Session.Blind

variable {session : Session} (blind : session.Blind)

include blind

theorem unavailable : session.classifier.isAvailable = false :=
  congrArg ProximityClassifier.isAvailable blind.classifier

theorem reading : session.snapshot.reading = .initial :=
  blind.poised.coherent.reading.trans (congrArg ProximityClassifier.reading blind.classifier)

theorem idle : session.pending = none := by
  cases pending : session.pending with
  | none => rfl
  | some activation => cases blind.unavailable.symm.trans (blind.poised.awaits activation pending).available

end Session.Blind

namespace Engine

theorem blind_start (absent : platform.sensor = none) (config : ClassifierConfig) (world : World) :
    (start platform config world).session.Blind := by
  refine ⟨?_, ?_, poised_start platform config world⟩ <;> rw [session_start, Session.opening, absent]
  simp

theorem blind_step (blind : engine.session.Blind) (event : Event) : (engine.step platform event).session.Blind where
  classifier := holds_step (·.classifier = _) (fun _ _ same => same)
    (Session.classifier_next_of_absent _ event blind.classifier)
  unmanaged := (congrArg Prod.fst (equipment_step event)).trans blind.unmanaged
  poised := poised_step blind.poised event

theorem unsensed_step (event : Event) : (engine.step platform event).session.unsensed =
    (engine.session.next (platform.surroundings engine.world) event).unsensed :=
  holds_step (·.unsensed = _) (fun _ _ same => same) rfl

/-- Readings apart, what a session knows is made of what it was told, whatever the platform. -/
theorem unsensed_after (occurrences : List (Occurrence World)) :
    (engine.after platform occurrences).session.unsensed =
      (engine.tellings platform occurrences).foldl Session.tell engine.session.unsensed := by
  induction occurrences generalizing engine with
  | nil => rfl
  | cons occurrence rest ih =>
    let moment := engine.meet occurrence
    have stepped : (moment.after platform).session.unsensed = _ := unsensed_step occurrence.event
    rw [after_cons, ih, stepped]
    simp only [tellings, moments, List.filterMap_cons, Moment.telling?]
    have event : moment.event = occurrence.event := rfl
    cases told : occurrence.event.tells with
    | true =>
      rw [event, told, if_pos rfl, List.foldl_cons, Session.unsensed_next_of_told _ told]
      rfl
    | false =>
      rw [event, told, if_neg (by simp), Session.unsensed_next_of_untold _ told]
      rfl

theorem unsensed_start (platform : Platform World) (config : ClassifierConfig) (world : World) :
    (start platform config world).session.unsensed =
      { snapshot := {}, preferences := {}, classifier := { maxRange := none }, managesLock := false } := by
  rw [session_start]
  rfl

end Engine

theorem Moment.unasked_of_blind {moment : Moment World} (absent : platform.sensor = none)
    (blind : moment.engine.session.Blind) : (moment.requests platform).filter Request.needsSensor = [] := by
  have missing : (platform.surroundings moment.engine.world).hasSensor = false := congrArg Option.isSome absent
  have lock : (moment.requests platform).filter Request.isForLock = [] := lockRequests_of_unmanaged blind.unmanaged
  have speaker : (moment.requests platform).filter Request.isForSpeaker = [] :=
    (requests_of_asks (Engine.asks_step moment.event)).trans
      (Session.speakerRequests_of_unavailable blind.unavailable blind.idle _ moment.event)
  have sensor : (moment.requests platform).filter Request.isForSensor = [] :=
    requests_for_sensor.trans (Session.subscriptionRequests_of_no_sensor missing moment.event)
  have spared {kind : Request → Bool} (none : (moment.requests platform).filter kind = []) {request : Request}
      (member : request ∈ moment.requests platform) : kind request = false :=
    Bool.eq_false_iff.mpr (List.filter_eq_nil_iff.mp none request member)
  apply Request.filter_eq_nil
  intro request member
  have unanswered : request.isAnswer = false := by
    cases request with
    | acceptCall =>
      have reading : (moment.after platform).session.snapshot.reading = .initial :=
        (Engine.blind_step blind moment.event).reading
      have near := (reason_of_acceptCall member).2.2.1
      cases near.symm.trans (congrArg ProximityReading.near reading)
    | _ => rfl
  simp only [Request.needsSensor, spared lock member, spared speaker member, spared sensor member, unanswered,
    Bool.or_self]

/-- Without a sensor, whatever readings come: a lock that is held when the session starts is let go, and nothing is
asked for after that which a reading could call for. The device counts as away and nothing is ever pending. Calls, the
route, the call screen and the reasons for the sensor are the same as in any session, sensor or not, that was told the
same but for readings. -/
theorem inert_without_sensor (platform : Platform World) (config : ClassifierConfig) (world : World)
    (occurrences : List (Occurrence World)) (absent : platform.sensor = none) :
    let started := Engine.start platform config world
    let reached := started.after platform occurrences
    let session := reached.session
    let snapshot := session.snapshot
    started.requests = (if platform.wakeLock.any (·.isHeld world) then [.releaseLock true] else []) ∧
    reached.requests.filter Request.needsSensor = started.requests ∧
    snapshot.proximityFar = true ∧ snapshot.proximityNear = false ∧ session.pending = none ∧
    ∀ {Other : Type} (other : Platform Other) (others : ClassifierConfig) (twin : Other)
      (counterparts : List (Occurrence Other)),
      (Engine.start other others twin).tellings other counterparts = started.tellings platform occurrences →
      let mirrored := ((Engine.start other others twin).after other counterparts).session
      session.calls = mirrored.calls ∧ snapshot.status = mirrored.snapshot.status ∧
      snapshot.audioRoute = mirrored.snapshot.audioRoute ∧ snapshot.uiShowing = mirrored.snapshot.uiShowing ∧
      snapshot.dialpadVisible = mirrored.snapshot.dialpadVisible ∧
      snapshot.isAttemptingVideoCall = mirrored.snapshot.isAttemptingVideoCall ∧
      snapshot.orientation = mirrored.snapshot.orientation ∧ session.subscriptions = mirrored.subscriptions := by
  intro started reached session snapshot
  have opened : started.session.Blind := Engine.blind_start absent config world
  obtain ⟨blind, along⟩ : session.Blind ∧
      ∀ moment ∈ started.moments platform occurrences, moment.engine.session.Blind :=
    Engine.invariant_along (·.session.Blind) occurrences opened (fun _ _ _ blind => blind)
      (fun moment _ blind => Engine.blind_step blind moment.event)
  have reading := blind.reading
  refine ⟨?_, ?_, congrArg ProximityReading.far reading, congrArg ProximityReading.near reading, blind.idle, ?_⟩
  · rw [Engine.requests_start, absent]
    simp
  · have unasked : ((started.moments platform occurrences).flatMap (Moment.requests platform)).filter
        Request.needsSensor = [] := by
      rw [List.filter_flatMap]
      exact List.flatMap_eq_nil_iff.mpr fun moment member => Moment.unasked_of_blind absent (along moment member)
    rw [Engine.requests_after, List.filter_append, unasked, List.append_nil]
    apply List.filter_eq_self.mpr
    intro request member
    rw [Engine.eq_releaseLock_of_mem_requests_start member]
    rfl
  · intro Other other others twin counterparts told mirrored
    have same : session.unsensed = mirrored.unsensed := by
      rw [Engine.unsensed_after, Engine.unsensed_after, told, Engine.unsensed_start, Engine.unsensed_start]
    have shown {α : Type} (view : Session → α) (kept : ∀ session : Session, view session.unsensed = view session) :
        view session = view mirrored := (kept _).symm.trans ((congrArg view same).trans (kept _))
    exact ⟨shown (·.calls) fun _ => rfl, shown (·.snapshot.status) fun _ => rfl,
      shown (·.snapshot.audioRoute) fun _ => rfl, shown (·.snapshot.uiShowing) fun _ => rfl,
      shown (·.snapshot.dialpadVisible) fun _ => rfl, shown (·.snapshot.isAttemptingVideoCall) fun _ => rfl,
      shown (·.snapshot.orientation) fun _ => rfl, shown (·.subscriptions) fun _ => rfl⟩

/-- A call rings to be answered at the ear, and is answered by hand. A device that has no sensor finds the lock held
when it starts, and readings come to it all the same. -/
theorem inert_without_sensor_answered :
    let platform := ({ hasProximitySensor := false } : Scenario).platform
    let other := ({} : Scenario).platform
    let world : SimulatedWorld := { store := ({} : PreferenceStore).setBool PreferenceKey.autoAnswer true }
    let held : SimulatedWorld := { world with lockHeld := true }
    let ringing : Occurrence SimulatedWorld := ⟨id, .callState .idle .incoming { ringingCallId := some "a" }⟩
    let raised : Occurrence SimulatedWorld := ⟨id, .distance 0⟩
    let answered : Occurrence SimulatedWorld := ⟨id, .callState .incoming .inCall { hasLiveCall := true }⟩
    let counterparts := [ringing, answered]
    let occurrences := [raised, ringing, raised, answered]
    platform.sensor = none ∧
      ((Engine.start platform {} held).after platform occurrences).requests.filter Request.needsSensor =
        [.releaseLock true] ∧
      ((Engine.start other {} world).after other counterparts).requests =
        [.subscribe, .enableOrientation true, .acquireLock] ∧
      (Engine.start other {} world).tellings other counterparts =
        (Engine.start platform {} held).tellings platform occurrences ∧
      ((Engine.start platform {} held).after platform occurrences).session.subscriptions =
        ((Engine.start other {} world).after other counterparts).session.subscriptions := by
  intro platform other world held ringing raised answered counterparts occurrences
  have told : (Engine.start other {} world).tellings other counterparts =
      (Engine.start platform {} held).tellings platform occurrences := by
    simp only [Engine.tellings, Engine.moments, List.filterMap_cons, List.filterMap_nil, Moment.telling?, Engine.meet,
      counterparts, occurrences, ringing, raised, answered, Event.tells, ↓reduceIte, Bool.false_eq_true,
      List.cons.injEq, Telling.mk.injEq, true_and, and_true]
    decide
  obtain ⟨opening, asked, -, -, -, alike⟩ := inert_without_sensor platform {} held occurrences rfl
  obtain ⟨-, -, -, -, -, -, -, same⟩ := alike other {} world counterparts told
  exact ⟨rfl, asked.trans opening, by decide, told, same⟩

end CallProximity
