import CallProximity.Proofs.Coherence
import CallProximity.Proofs.TearDown

/-! The subscription of the sensor follows the reasons for it, and the reasons follow the calls.
A reason handed over to the other never lets the subscription go. -/

namespace CallProximity

/-- The reasons that a status gives, by the preferences of the moment it is told. -/
def CallStatus.reasons (status : CallStatus) (preferences : Preferences) : SubscriptionReasons where
  offhook := status.isOffhook
  ringing := status.hasIncomingCall && preferences.autoAnswer

/-- The turn of the sensor's requests: it is subscribed first. -/
def Request.sensorTurn (turn : Nat) : Request :=
  if turn % 2 = 0 then .subscribe else .unsubscribe

namespace SubscriptionChange

def requests : SubscriptionChange → List Request
  | .unchanged => []
  | .subscribe => [.subscribe]
  | .unsubscribe => [.unsubscribe]

end SubscriptionChange

namespace SubscriptionReasons

variable {before after : SubscriptionReasons}

theorem isEmpty_eq_false_iff {reasons : SubscriptionReasons} :
    reasons.isEmpty = false ↔ (reasons.offhook || reasons.ringing) = true := by
  simp only [isEmpty]
  cases reasons.offhook <;> simp

theorem changeTo_self (reasons : SubscriptionReasons) : reasons.changeTo reasons = .unchanged := by
  simp only [changeTo]
  cases reasons.isEmpty <;> rfl

theorem changeTo_of_handover (held : before.isEmpty = false) (holds : after.isEmpty = false) :
    before.changeTo after = .unchanged := by
  simp only [changeTo, held, holds]

/-- The sensor is asked when the first reason begins or the last one ends, and it is then its
turn for just that. -/
theorem requests_changeTo {turn : Nat} (subscribed : turn % 2 = 1 ↔ before.isEmpty = false) :
    (before.changeTo after).requests =
      if before.isEmpty = after.isEmpty then [] else [Request.sensorTurn turn] := by
  cases empty : before.isEmpty <;> cases empties : after.isEmpty <;>
    simp only [empty, Bool.true_eq_false, iff_false, iff_true] at subscribed <;>
    simp [changeTo, SubscriptionChange.requests, Request.sensorTurn, empty, empties, subscribed]

end SubscriptionReasons

namespace Session

variable {session : Session}

theorem sensorRequests_eq (hasSensor : Bool) : session.sensorRequests hasSensor =
    if hasSensor then (session.subscriptions.changeTo session.wantedReasons).requests else [] := by
  simp only [sensorRequests]
  cases hasSensor <;> cases session.subscriptions.changeTo session.wantedReasons <;> rfl

theorem subscriptions_hear (hasSensor : Bool) (old new : CallState) (calls : CallList) :
    (session.hear hasSensor old new calls).subscriptions =
      (CallStatus.derive new calls).reasons session.preferences := by
  simp only [hear, resubscribe]
  split <;> rfl

theorem subscriptions_next (around : Surroundings) {event : Event} (running : session.tornDown = false)
    (going : event ≠ .tearDown) : (session.next around event).subscriptions =
      event.status?.elim session.subscriptions (·.reasons around.preferences) := by
  cases event with
  | callState old new calls =>
    simp only [next, running, Bool.false_eq_true, ↓reduceIte]
    exact (congrArg (·.2.2) (heeded_work ..)).trans (subscriptions_hear ..)
  | distance value =>
    simp only [next, running, Bool.false_eq_true, ↓reduceIte, react]
    split <;> rfl
  | _ => exact congrArg (·.2.2) (heeded_next around session rfl going)

theorem subscriptionRequests_eq (around : Surroundings) {event : Event} (running : session.tornDown = false)
    (going : event ≠ .tearDown) : session.subscriptionRequests around event =
      if around.hasSensor then
        (session.subscriptions.changeTo (session.next around event).subscriptions).requests
      else [] := by
  rw [subscriptions_next around running going]
  simp only [subscriptionRequests, running, Bool.false_eq_true, ↓reduceIte]
  cases event with
  | callState old new calls => exact sensorRequests_eq around.hasSensor
  | tearDown => exact absurd rfl going
  | _ =>
    simp only [Event.status?, Option.elim_none, SubscriptionReasons.changeTo_self, SubscriptionChange.requests,
      ite_self]

theorem subscriptionRequests_cases (around : Surroundings) {event : Event} (running : session.tornDown = false)
    (going : event ≠ .tearDown) : session.subscriptionRequests around event = [] ∨
      (session.subscriptionRequests around event = [.subscribe] ∧ session.subscriptions.isEmpty = true) ∨
      session.subscriptionRequests around event = [.unsubscribe] := by
  rw [subscriptionRequests_eq around running going]
  simp only [SubscriptionReasons.changeTo]
  cases around.hasSensor <;> cases session.subscriptions.isEmpty <;>
    cases (session.next around event).subscriptions.isEmpty <;> simp [SubscriptionChange.requests]

theorem subscriptionRequests_of_no_sensor {around : Surroundings} (absent : around.hasSensor = false) (event : Event) :
    session.subscriptionRequests around event = [] := by
  simp only [subscriptionRequests, sensorRequests_eq, absent]
  split
  · rfl
  · split <;> rfl

theorem subscriptionRequests_of_handover {around : Surroundings} {event : Event}
    (held : session.subscriptions.isEmpty = false)
    (holds : (session.next around event).subscriptions.isEmpty = false) :
    session.subscriptionRequests around event = [] := by
  cases running : session.tornDown with
  | true => simp only [subscriptionRequests, running, ↓reduceIte]
  | false =>
    have going : event ≠ .tearDown := by
      rintro rfl
      simp [next, close, running, SubscriptionReasons.isEmpty] at holds
    rw [subscriptionRequests_eq around running going, SubscriptionReasons.changeTo_of_handover held holds]
    exact ite_self _

end Session

variable {World : Type} {platform : Platform World} {engine : Engine World}

def Moment.noticed? (platform : Platform World) (moment : Moment World) : Option Preferences :=
  moment.event.status?.bind fun _ => moment.loaded? platform

theorem Moment.noticed?_of_running {moment : Moment World} (running : moment.engine.session.tornDown = false) :
    moment.noticed? platform =
      moment.event.status?.map fun _ => (platform.surroundings moment.engine.world).preferences := by
  obtain ⟨engine, event⟩ := moment
  have stays : engine.session.tornDown = false := running
  cases event with
  | callState old new calls =>
    simp only [noticed?, loaded?, Event.status?, stays, Bool.false_eq_true, ↓reduceIte]
    rfl
  | _ => rfl

/-- The reasons of a running session are those of the calls, by the preferences that the last
notification found. -/
structure Session.Informed (session : Session) (noticed : Option Preferences) : Prop where
  running : session.tornDown = false
  offhook : session.subscriptions.offhook = session.snapshot.isOffhook
  ringing : session.subscriptions.ringing =
    (session.snapshot.hasIncomingCall && noticed.any Preferences.autoAnswer)

namespace Session.Informed

variable {session : Session} {noticed : Option Preferences}

theorem start (config : ClassifierConfig) (world : World) :
    (Engine.start platform config world).session.Informed none := by
  rw [Engine.session_start]
  exact ⟨rfl, rfl, rfl⟩

theorem next (informed : session.Informed noticed) (around : Surroundings) {event : Event} (going : event ≠ .tearDown) :
    (session.next around event).Informed ((event.status?.map fun _ => around.preferences).or noticed) := by
  have status := status_next around session event informed.running
  have reasons := subscriptions_next around informed.running going
  have running : (session.next around event).tornDown = false :=
    (tornDown_next around session going).trans informed.running
  have offhook := congrArg CallStatus.isOffhook status
  have incoming := congrArg CallStatus.hasIncomingCall status
  cases told : event.status? with
  | none =>
    rw [told] at offhook incoming reasons
    refine ⟨running, ?_, ?_⟩
    · rw [reasons]
      exact informed.offhook.trans offhook.symm
    · rw [reasons]
      refine informed.ringing.trans ?_
      exact congrArg (· && _) incoming.symm
  | some status =>
    rw [told] at offhook incoming reasons
    refine ⟨running, ?_, ?_⟩
    · rw [reasons]
      exact offhook.symm
    · rw [reasons]
      exact congrArg (· && _) incoming.symm

theorem after {occurrences : List (Occurrence World)} (informed : engine.session.Informed none)
    (going : ∀ occurrence ∈ occurrences, occurrence.event ≠ .tearDown) :
    (engine.after platform occurrences).session.Informed
      (engine.latest? platform (Moment.noticed? platform) occurrences) := by
  -- The last notification shows at the end of a run, so the run grows there.
  induction occurrences using List.reverseRecOn with
  | nil => exact informed
  | append_singleton first last ih =>
    have earlier := ih fun other member => going other (List.mem_append_left _ member)
    have found : ((engine.after platform first).meet last).noticed? platform = _ :=
      Moment.noticed?_of_running earlier.running
    rw [Engine.after_concat, Engine.latest?_concat, found]
    exact Engine.holds_step (Informed · _) (fun _ _ next => ⟨next.running, next.offhook, next.ringing⟩)
      (earlier.next _ (going last (by simp)))

end Session.Informed

def Engine.sensorRequests (engine : Engine World) : List Request :=
  engine.requests.filter Request.isForSensor

/-- The sensor has a subscription: the last it was asked for is to begin one. -/
def Engine.Subscribed (engine : Engine World) : Prop :=
  engine.sensorRequests.getLast? = some .subscribe

instance (engine : Engine World) : Decidable engine.Subscribed :=
  inferInstanceAs (Decidable (engine.sensorRequests.getLast? = some .subscribe))

namespace Engine

theorem subscriptions_step (event : Event) : (engine.step platform event).session.subscriptions =
    (engine.session.next (platform.surroundings engine.world) event).subscriptions :=
  holds_step (·.subscriptions = _) (fun _ _ same => same) rfl

theorem sensorRequests_step (event : Event) : (engine.step platform event).sensorRequests =
    engine.sensorRequests ++ engine.session.subscriptionRequests (platform.surroundings engine.world) event := by
  obtain ⟨made, makes, asked⟩ : Asks platform _ _ engine (engine.step platform event) := asks_sensor_step event
  rw [sensorRequests, makes.requests, List.filter_append, asked]
  rfl

theorem sensorRequests_start (config : ClassifierConfig) (world : World) :
    (start platform config world).sensorRequests = [] := by
  apply List.filter_eq_nil_iff.mpr
  intro request member
  rw [eq_releaseLock_of_mem_requests_start member]
  simp [Request.concerns, Request.matter]

theorem sensorRequests_after_of_no_sensor (absent : platform.sensor.isSome = false)
    (occurrences : List (Occurrence World)) :
    (engine.after platform occurrences).sensorRequests = engine.sensorRequests := by
  refine (invariant_along (·.sensorRequests = engine.sensorRequests) occurrences rfl (fun _ _ _ same => same) ?_).1
  intro moment _ same
  refine (sensorRequests_step moment.event).trans ?_
  rw [Session.subscriptionRequests_of_no_sensor absent, List.append_nil]
  exact same

/-- The sensor was subscribed and unsubscribed in turn, and is subscribed now if a reason holds. -/
structure TakesTurns (engine : Engine World) : Prop where
  turns : engine.sensorRequests = (List.range engine.sensorRequests.length).map Request.sensorTurn
  subscribed : engine.sensorRequests.length % 2 = 1 ↔ engine.session.subscriptions.isEmpty = false

namespace TakesTurns

theorem start (config : ClassifierConfig) (world : World) : (start platform config world).TakesTurns := by
  constructor
  · rw [sensorRequests_start]
    rfl
  · rw [sensorRequests_start, session_start]
    simp [Session.opening, SubscriptionReasons.isEmpty]

theorem disturb (turns : engine.TakesTurns) (change : World → World) : (engine.disturb change).TakesTurns :=
  ⟨turns.turns, turns.subscribed⟩

theorem step (turns : engine.TakesTurns) (sensor : platform.sensor.isSome = true)
    (running : engine.session.tornDown = false) {event : Event} (going : event ≠ .tearDown) :
    (engine.step platform event).TakesTurns := by
  have asked : (engine.step platform event).sensorRequests = engine.sensorRequests ++ _ := sensorRequests_step event
  have present : (platform.surroundings engine.world).hasSensor = true := sensor
  rw [Session.subscriptionRequests_eq _ running going, if_pos present, ← subscriptions_step event,
    SubscriptionReasons.requests_changeTo turns.subscribed] at asked
  by_cases same : engine.session.subscriptions.isEmpty = (engine.step platform event).session.subscriptions.isEmpty
  · rw [if_pos same, List.append_nil] at asked
    constructor
    · rw [asked]
      exact turns.turns
    · rw [asked, ← same]
      exact turns.subscribed
  · rw [if_neg same] at asked
    have length : (engine.step platform event).sensorRequests.length = engine.sensorRequests.length + 1 := by
      rw [asked, List.length_append, List.length_singleton]
    constructor
    · rw [length, List.range_succ, List.map_append, ← turns.turns]
      exact asked
    · rw [length]
      have subscribed := turns.subscribed
      cases held : engine.session.subscriptions.isEmpty <;>
        cases holds : (engine.step platform event).session.subscriptions.isEmpty <;> grind

theorem after {occurrences : List (Occurrence World)} (turns : engine.TakesTurns)
    (sensor : platform.sensor.isSome = true) (running : engine.session.tornDown = false)
    (going : ∀ occurrence ∈ occurrences, occurrence.event ≠ .tearDown) :
    (engine.after platform occurrences).TakesTurns := by
  induction occurrences generalizing engine with
  | nil => exact turns
  | cons occurrence rest ih =>
    have goesOn : occurrence.event ≠ .tearDown := going occurrence (List.mem_cons_self ..)
    have stays : ((engine.meet occurrence).after platform).session.tornDown = false :=
      (tornDown_step goesOn).trans running
    apply ih _ stays
    · intro other member
      exact going other (List.mem_cons_of_mem _ member)
    · exact (turns.disturb occurrence.meanwhile).step sensor running goesOn

theorem getLast?_iff (turns : engine.TakesTurns) :
    engine.sensorRequests.getLast? = some .subscribe ↔ engine.session.subscriptions.isEmpty = false := by
  rw [← turns.subscribed, turns.turns]
  generalize engine.sensorRequests.length = length
  cases length with
  | zero => simp
  | succ turn =>
    rw [List.range_succ, List.map_append]
    simp only [List.map_cons, List.map_nil, List.getLast?_append, List.getLast?_singleton, Request.sensorTurn]
    grind

end TakesTurns

theorem sensorRequests_after_tearDown (running : engine.session.tornDown = false) (meanwhile : World → World)
    (later : List (Occurrence World)) : (engine.after platform (⟨meanwhile, .tearDown⟩ :: later)).sensorRequests =
      engine.sensorRequests ++ if platform.sensor.isSome then [.unsubscribe] else [] := by
  let closing := (engine.meet ⟨meanwhile, .tearDown⟩).engine
  have met : closing.session.tornDown = false := running
  have asked : (closing.step platform .tearDown).sensorRequests = engine.sensorRequests ++ _ :=
    sensorRequests_step .tearDown
  have done : (closing.step platform .tearDown).session.tornDown = true :=
    congrArg Session.tornDown (session_tearDown met)
  have kept : ((closing.step platform .tearDown).after platform later).exchanges =
      (closing.step platform .tearDown).exchanges := by
    rw [after_of_tornDown done]
    exact (foldl_ignore _ later).2.1
  have still : ((closing.step platform .tearDown).after platform later).sensorRequests =
      (closing.step platform .tearDown).sensorRequests :=
    congrArg (fun exchanges => (exchanges.map Exchange.request).filter Request.isForSensor) kept
  refine still.trans ?_
  rw [asked]
  simp only [Session.subscriptionRequests, met, Bool.false_eq_true, ↓reduceIte]
  rfl

end Engine

namespace Moment

variable {moment : Moment World}

theorem requests_for_sensor : (moment.requests platform).filter Request.isForSensor =
    moment.engine.session.subscriptionRequests (platform.surroundings moment.engine.world) moment.event :=
  requests_of_asks (Engine.asks_sensor_step moment.event)

theorem subscribed_after (unasked : (moment.requests platform).filter Request.isForSensor = []) :
    (moment.after platform).Subscribed ↔ moment.engine.Subscribed := by
  have asked : (moment.after platform).sensorRequests = moment.engine.sensorRequests ++ _ :=
    Engine.sensorRequests_step moment.event
  rw [requests_for_sensor] at unasked
  rw [unasked, List.append_nil] at asked
  rw [Engine.Subscribed, asked]
  rfl

end Moment

namespace Engine

theorem subscribed_iff_after (config : ClassifierConfig) (world : World) {occurrences : List (Occurrence World)}
    (running : ((start platform config world).after platform occurrences).session.tornDown = false) :
    ((start platform config world).after platform occurrences).Subscribed ↔ platform.sensor.isSome = true ∧
      ((start platform config world).after platform occurrences).session.subscriptions.isEmpty = false := by
  obtain ⟨opened, going⟩ := going_of_after running
  cases sensor : platform.sensor.isSome with
  | false =>
    have unasked : ((start platform config world).after platform occurrences).sensorRequests = [] :=
      (sensorRequests_after_of_no_sensor sensor occurrences).trans (sensorRequests_start config world)
    simp [Subscribed, unasked]
  | true =>
    have turns := (TakesTurns.start config world).after sensor opened going
    exact turns.getLast?_iff.trans (and_iff_right rfl).symm

theorem called_of_subscribed (config : ClassifierConfig) (world : World) {occurrences : List (Occurrence World)}
    (running : ((start platform config world).after platform occurrences).session.tornDown = false) :
    let reached := (start platform config world).after platform occurrences
    (reached.Subscribed → reached.session.snapshot.isOffhook = true ∨ reached.session.snapshot.hasIncomingCall = true) ∧
      (platform.sensor.isSome = true → reached.session.snapshot.isOffhook = true → reached.Subscribed) := by
  intro reached
  have subscribed : reached.Subscribed ↔ _ := subscribed_iff_after config world running
  have informed : reached.session.Informed _ :=
    (Session.Informed.start config world).after (going_of_after running).2
  rw [SubscriptionReasons.isEmpty_eq_false_iff, informed.offhook, informed.ringing, Bool.or_eq_true_iff,
    Bool.and_eq_true_iff] at subscribed
  constructor
  · intro held
    exact (subscribed.mp held).2.imp_right And.left
  · intro sensor offhook
    exact subscribed.mpr ⟨sensor, .inl offhook⟩

end Engine

/-- Up to the tear-down the reasons are those of the calls, by the preferences that the last
notification found, and never both at once. The sensor is subscribed and unsubscribed in turn, is
subscribed just while a reason holds and sees nothing of a reason that takes over from the other;
the tear-down unsubscribes it a last time. Where there is no sensor, none is asked for anything. -/
theorem sensor_follows_reasons (platform : Platform World) (config : ClassifierConfig) (world : World)
    (occurrences : List (Occurrence World)) (going : ∀ occurrence ∈ occurrences, occurrence.event ≠ .tearDown) :
    let started := Engine.start platform config world
    let reached := started.after platform occurrences
    let reasons := reached.session.subscriptions
    let snapshot := reached.session.snapshot
    let noticed := started.latest? platform (Moment.noticed? platform) occurrences
    let asked := reached.sensorRequests
    reasons.contains .offhook = snapshot.isOffhook ∧
      reasons.contains .ringing = (snapshot.hasIncomingCall && noticed.any Preferences.autoAnswer) ∧
      ¬(reasons.contains .offhook = true ∧ reasons.contains .ringing = true) ∧
      (platform.sensor.isSome = true →
        asked = (List.range asked.length).map Request.sensorTurn ∧
        (asked.getLast? = some .subscribe ↔ reasons.isEmpty = false)) ∧
      (platform.sensor.isSome = false → asked = []) ∧
      (∀ moment ∈ started.moments platform occurrences,
        moment.engine.session.subscriptions.isEmpty = false →
        (moment.after platform).session.subscriptions.isEmpty = false →
        (moment.requests platform).filter Request.isForSensor = []) ∧
      ∀ (meanwhile : World → World) (later : List (Occurrence World)),
        (reached.after platform (⟨meanwhile, .tearDown⟩ :: later)).sensorRequests =
          asked ++ if platform.sensor.isSome then [.unsubscribe] else [] := by
  intro started reached reasons snapshot noticed asked
  have opened : started.session = .opening platform config (Preferences.load (platform.preferences world)) :=
    Engine.session_start config world
  have idle : started.session.Informed none := by
    rw [opened]
    exact ⟨rfl, rfl, rfl⟩
  have informed : reached.session.Informed noticed := idle.after going
  have coherent : reached.session.Coherent := Engine.coherent_after (Engine.coherent_start platform config world) occurrences
  have fresh : started.TakesTurns := by
    constructor
    · rw [Engine.sensorRequests_start]
      rfl
    · rw [Engine.sensorRequests_start, opened]
      simp [Session.opening, SubscriptionReasons.isEmpty]
  refine ⟨informed.offhook, informed.ringing, ?_, ?_, ?_, ?_, ?_⟩
  · rintro ⟨offhook, ringing⟩
    have rings : snapshot.hasIncomingCall = true := (Bool.and_eq_true_iff.mp (informed.ringing.symm.trans ringing)).1
    have onhook : snapshot.isOffhook = false := coherent.ringing_onhook rings
    cases onhook.symm.trans (informed.offhook.symm.trans offhook)
  · intro sensor
    have turns : reached.TakesTurns := fresh.after sensor idle.running going
    exact ⟨turns.turns, turns.getLast?_iff⟩
  · intro absent
    exact (Engine.sensorRequests_after_of_no_sensor absent occurrences).trans (Engine.sensorRequests_start config world)
  · intro moment _ held holds
    rw [Moment.requests_of_asks (Engine.asks_sensor_step moment.event)]
    have next : (moment.after platform).session.subscriptions = _ := Engine.subscriptions_step moment.event
    rw [next] at holds
    exact Session.subscriptionRequests_of_handover held holds
  · intro meanwhile later
    exact Engine.sensorRequests_after_tearDown informed.running meanwhile later

/-- A call rings to be answered at the ear, is answered, and ends. -/
theorem sensor_follows_reasons_answered :
    let platform := ({} : Scenario).platform
    let world : SimulatedWorld := { store := ({} : PreferenceStore).setBool PreferenceKey.autoAnswer true }
    let ringing : Occurrence SimulatedWorld := ⟨id, .callState .idle .incoming { ringingCallId := some "a" }⟩
    let answered : Occurrence SimulatedWorld :=
      ⟨id, .callState .incoming .inCall { hasLiveCall := true, activeCall := some { id := "a" } }⟩
    let started := Engine.start platform {} world
    let reached := started.after platform [ringing, answered]
    (∀ occurrence ∈ [ringing, answered], occurrence.event ≠ .tearDown) ∧
      (started.after platform [ringing]).session.subscriptions.toList = [.ringing] ∧
      reached.session.subscriptions.toList = [.offhook] ∧ reached.sensorRequests = [.subscribe] ∧
      (reached.after platform [⟨id, .tearDown⟩]).sensorRequests = [.subscribe, .unsubscribe] := by
  intro platform world ringing answered started reached
  have going : ∀ occurrence ∈ [ringing, answered], occurrence.event ≠ .tearDown := by simp [ringing, answered]
  have asked : reached.sensorRequests = [.subscribe] := by decide
  obtain ⟨-, -, -, -, -, -, closed⟩ := sensor_follows_reasons platform {} world [ringing, answered] going
  refine ⟨going, by decide, by decide, asked, ?_⟩
  have last : (reached.after platform [⟨id, .tearDown⟩]).sensorRequests = reached.sensorRequests ++ [.unsubscribe] :=
    closed id []
  rw [last, asked]
  rfl

/-- Reasons are looked at again by notifications alone. Up to the tear-down the sensor is therefore subscribed
just while the calls want it by the preferences loaded last, unless a call rings and the last notification found
it otherwise whether calls are to be answered. In exactly those runs it is subscribed without being wanted, or
wanted without being subscribed. -/
theorem subscribed_iff_wanted_unless_toggled (platform : Platform World) (config : ClassifierConfig) (world : World)
    (occurrences : List (Occurrence World)) (sensor : platform.sensor.isSome = true)
    (going : ∀ occurrence ∈ occurrences, occurrence.event ≠ .tearDown) :
    let started := Engine.start platform config world
    let reached := started.after platform occurrences
    let snapshot := reached.session.snapshot
    let loaded := (started.latest? platform (Moment.loaded? platform) occurrences).getD
      (Preferences.load (platform.preferences world))
    let noticed := started.latest? platform (Moment.noticed? platform) occurrences
    let wanted := snapshot.isOffhook || (snapshot.hasIncomingCall && loaded.autoAnswer)
    let toggled := snapshot.hasIncomingCall = true ∧ noticed.any Preferences.autoAnswer ≠ loaded.autoAnswer
    (¬toggled → (reached.Subscribed ↔ wanted = true)) ∧ (toggled → (reached.Subscribed ↔ wanted = false)) := by
  intro started reached snapshot loaded noticed wanted toggled
  have idle : started.session.Informed none := .start config world
  have informed : reached.session.Informed noticed := idle.after going
  have coherent : reached.session.Coherent := Engine.coherent_after (Engine.coherent_start platform config world) occurrences
  have turns : reached.TakesTurns := (Engine.TakesTurns.start config world).after sensor idle.running going
  have subscribed : reached.Subscribed ↔
      (snapshot.isOffhook || (snapshot.hasIncomingCall && noticed.any Preferences.autoAnswer)) = true := by
    rw [← informed.ringing, ← informed.offhook]
    exact turns.getLast?_iff.trans SubscriptionReasons.isEmpty_eq_false_iff
  rw [subscribed]
  constructor
  · intro untouched
    cases rings : snapshot.hasIncomingCall with
    | false => simp [wanted, rings]
    | true =>
      have same : noticed.any Preferences.autoAnswer = loaded.autoAnswer := by
        by_contra differs
        exact untouched ⟨rings, differs⟩
      simp only [wanted, rings, same]
  · rintro ⟨rings, differs⟩
    have onhook : snapshot.isOffhook = false := coherent.ringing_onhook rings
    simp only [wanted, onhook, rings, Bool.false_or, Bool.true_and]
    cases found : noticed.any Preferences.autoAnswer <;> cases loads : loaded.autoAnswer <;> simp_all

/-- While a call rings to be answered at the ear, it is no longer to be: the sensor keeps its subscription, until the
call is answered by hand and wants it again. -/
theorem subscribed_iff_wanted_unless_toggled_answered :
    let platform := ({} : Scenario).platform
    let answering (value : Bool) (world : SimulatedWorld) : SimulatedWorld :=
      { world with store := world.store.setBool PreferenceKey.autoAnswer value }
    let occurrences : List (Occurrence SimulatedWorld) := [
      ⟨answering true, .callState .idle .incoming { ringingCallId := some "a" }⟩, ⟨answering false, .uiShowing true⟩]
    let answered : Occurrence SimulatedWorld :=
      ⟨id, .callState .incoming .inCall { hasLiveCall := true, activeCall := some { id := "a" } }⟩
    let started := Engine.start platform {} {}
    let reached := started.after platform occurrences
    let renewed := started.after platform (occurrences ++ [answered])
    (platform.sensor.isSome = true ∧ ∀ occurrence ∈ occurrences ++ [answered], occurrence.event ≠ .tearDown) ∧
      (reached.session.snapshot.isOffhook = false ∧ reached.session.preferences.autoAnswer = false) ∧
      reached.Subscribed ∧ renewed.session.snapshot.isOffhook = true ∧ renewed.Subscribed := by
  intro platform answering occurrences answered started reached renewed
  have still : ∀ occurrence ∈ occurrences ++ [answered], occurrence.event ≠ .tearDown := by
    simp [occurrences, answered]
  have going : ∀ occurrence ∈ occurrences, occurrence.event ≠ .tearDown := fun occurrence member =>
    still occurrence (List.mem_append_left _ member)
  obtain ⟨-, toggled⟩ := subscribed_iff_wanted_unless_toggled platform {} {} occurrences rfl going
  obtain ⟨agrees, -⟩ := subscribed_iff_wanted_unless_toggled platform {} {} _ rfl still
  exact ⟨⟨rfl, still⟩, by decide, (toggled (by decide)).mpr (by decide), by decide, (agrees (by decide)).mpr (by decide)⟩

/-- A call rings, and only then is to be answered at the ear: the sensor that would tell is never subscribed. -/
theorem unsubscribed_after_toggle :
    let platform := ({} : Scenario).platform
    let answering (world : SimulatedWorld) : SimulatedWorld :=
      { world with store := world.store.setBool PreferenceKey.autoAnswer true }
    let reached := (Engine.start platform {} {}).after platform [
      ⟨id, .callState .idle .incoming { ringingCallId := some "a" }⟩, ⟨answering, .uiShowing true⟩]
    let snapshot := reached.session.snapshot
    let loaded := reached.session.preferences
    ¬(reached.Subscribed ↔ (snapshot.isOffhook || (snapshot.hasIncomingCall && loaded.autoAnswer)) = true) := by
  decide

end CallProximity
