import CallProximity.Proofs.Coherence

/-! Audio goes to the speaker only by an activation that is due, and an activation waits only
while the speaker is right: its timer looks at nothing when it fires. Audio goes back to the
ear at once, and only by a reading or an answered call that finds the device there. -/

namespace CallProximity

abbrev Request.isRoute (request : Request) : Bool :=
  request.concerns [.route]

/-- The speaker is right for this activation: a call is on, audio is at the ear, and the
device is away from it. -/
structure Session.AwaitsSpeaker (session : Session) (activation : PendingActivation) : Prop where
  running : session.tornDown = false
  available : session.classifier.isAvailable = true
  offhook : session.snapshot.isOffhook = true
  earpiece : session.snapshot.audioRoute = .earpiece
  far : session.snapshot.proximityFar = true
  speaker : activation.route = .speaker

/-- Judging the route puts audio to the ear. -/
structure Session.PutsToEar (session : Session) (wantsSpeaker : Bool) : Prop where
  available : session.classifier.isAvailable = true
  near : wantsSpeaker = false
  offhook : session.snapshot.isOffhook = true
  autoSpeaker : session.preferences.autoSpeaker = true
  handset : session.snapshot.audioRoute.isExternal = false

/-- Every activation that waits does so with good reason. -/
structure Session.Poised (session : Session) : Prop where
  coherent : session.Coherent
  awaits : ∀ activation, session.pending = some activation → session.AwaitsSpeaker activation

theorem decideSpeaker_eq_routeNow {wantsSpeaker : Bool} {snapshot : Snapshot} {preferences : Preferences}
    {route : AudioRoute} : decideSpeaker wantsSpeaker snapshot preferences = .routeNow route ↔
      route = .earpiece ∧ wantsSpeaker = false ∧ snapshot.isOffhook = true ∧ preferences.autoSpeaker = true ∧
        snapshot.audioRoute.isExternal = false := by
  simp only [decideSpeaker]
  grind

theorem eq_of_decideSpeaker_eq_schedule {wantsSpeaker : Bool} {snapshot : Snapshot} {preferences : Preferences}
    {delay : UInt64} {route : AudioRoute}
    (decided : decideSpeaker wantsSpeaker snapshot preferences = .schedule delay route) :
    route = .speaker ∧ wantsSpeaker = true ∧ snapshot.isOffhook = true ∧ snapshot.audioRoute = .earpiece := by
  simp only [decideSpeaker, AudioRoute.isExternal] at decided
  cases held : snapshot.audioRoute <;> grind

namespace Session

variable {session : Session} {wantsSpeaker : Bool} {activation : PendingActivation}

theorem decideSpeaker_of_putsToEar (ear : session.PutsToEar wantsSpeaker) :
    decideSpeaker wantsSpeaker session.snapshot session.preferences = .routeNow .earpiece :=
  decideSpeaker_eq_routeNow.mpr ⟨rfl, ear.near, ear.offhook, ear.autoSpeaker, ear.handset⟩

theorem routeRequests_of_putsToEar (ear : session.PutsToEar wantsSpeaker) :
    session.routeRequests wantsSpeaker = [.setRoute .earpiece] := by
  simp [routeRequests, ear.available, decideSpeaker_of_putsToEar ear]

theorem activation?_of_putsToEar (ear : session.PutsToEar wantsSpeaker) : session.activation? wantsSpeaker = none := by
  simp [activation?, decideSpeaker_of_putsToEar ear]

theorem putsToEar_of_mem_routeRequests {route : AudioRoute}
    (member : .setRoute route ∈ session.routeRequests wantsSpeaker) :
    route = .earpiece ∧ session.PutsToEar wantsSpeaker := by
  simp only [routeRequests] at member
  split at member
  case isFalse => cases member
  case isTrue available =>
    split at member
    · cases member
    · simp at member
    · next target decided =>
      have same : route = target := by simpa using member
      rw [← same] at decided
      obtain ⟨rfl, near, offhook, autoSpeaker, handset⟩ := decideSpeaker_eq_routeNow.mp decided
      exact ⟨rfl, available, near, offhook, autoSpeaker, handset⟩

theorem awaits_of_activation? (running : session.tornDown = false)
    (scheduled : session.activation? session.snapshot.proximityFar = some activation) :
    session.AwaitsSpeaker activation := by
  simp only [activation?] at scheduled
  split at scheduled
  case isFalse => cases scheduled
  case isTrue available =>
    split at scheduled
    · next decided =>
      obtain ⟨target, far, offhook, earpiece⟩ := eq_of_decideSpeaker_eq_schedule decided
      cases scheduled
      exact ⟨running, available, offhook, earpiece, far, target⟩
    · cases scheduled

theorem work_of_answered {change : ChangeSet} (answered : change.outgoingAnswered = true) :
    session.work change =
      (if change.resync then session.resync else session).reroute session.snapshot.proximityFar := by
  simp only [work, answered, ↓reduceIte]
  split <;> rfl

theorem pending_work_of_answered {change : ChangeSet} (answered : change.outgoingAnswered = true) :
    (session.work change).pending = session.activation? session.snapshot.proximityFar := by
  rw [work_of_answered answered]
  split <;> rfl

theorem snapshot_resubscribe_of_offhook (hasSensor : Bool) (offhook : session.snapshot.isOffhook = true) :
    (session.resubscribe hasSensor).snapshot = session.snapshot := by
  simp only [resubscribe]
  split
  · next unsubscribes =>
    simp only [wantedReasons, offhook, SubscriptionReasons.changeTo, SubscriptionReasons.isEmpty] at unsubscribes
    grind
  · rfl

theorem isOffhook_hear (hasSensor : Bool) (old new : CallState) (calls : CallList) :
    (session.hear hasSensor old new calls).snapshot.isOffhook = (CallStatus.derive new calls).isOffhook :=
  congrArg CallStatus.isOffhook (status_resubscribe hasSensor (session.notify old new calls))

theorem snapshot_hear_of_offhook (hasSensor : Bool) {old new : CallState} {calls : CallList}
    (offhook : (CallStatus.derive new calls).isOffhook = true) :
    (session.hear hasSensor old new calls).snapshot = session.snapshot.applyStatus (CallStatus.derive new calls) :=
  snapshot_resubscribe_of_offhook hasSensor offhook

theorem pending_hear (hasSensor : Bool) (old new : CallState) (calls : CallList) :
    (session.hear hasSensor old new calls).pending = session.pending := by
  simp only [hear, resubscribe]
  split <;> rfl

theorem AwaitsSpeaker.hear (awaits : session.AwaitsSpeaker activation) (hasSensor : Bool) {old new : CallState}
    {calls : CallList} (offhook : (CallStatus.derive new calls).isOffhook = true) :
    (session.hear hasSensor old new calls).AwaitsSpeaker activation := by
  have standing : (session.hear hasSensor old new calls).standing = session.standing := standing_hear ..
  have snapshot : (session.hear hasSensor old new calls).snapshot = _ := snapshot_hear_of_offhook hasSensor offhook
  exact {
    running := (congrArg (·.2.1) standing).trans awaits.running
    available := (congrArg (·.1.2) standing).trans awaits.available
    offhook := by rw [snapshot]; exact offhook
    earpiece := by rw [snapshot]; exact awaits.earpiece
    far := by rw [snapshot]; exact awaits.far
    speaker := awaits.speaker }

theorem isOffhook_of_not_resync {old new : CallState} {calls : CallList} (coherent : session.Coherent)
    (calm : (session.calls.change old new calls).resync = false) :
    (CallStatus.derive new calls).isOffhook = session.snapshot.isOffhook := by
  simp only [CallAggregator.change, Bool.or_eq_false_iff, bne_eq_false_iff_eq] at calm
  exact calm.1.1.trans coherent.isOffhook.symm

theorem awaits_reroute (running : session.tornDown = false)
    (pending : (session.reroute session.snapshot.proximityFar).pending = some activation) :
    (session.reroute session.snapshot.proximityFar).AwaitsSpeaker activation :=
  { awaits_of_activation? running pending with }

namespace Poised

theorem awaits_work (poised : session.Poised) (running : session.tornDown = false) (hasSensor : Bool)
    {old new : CallState} {calls : CallList}
    (pending : ((session.hear hasSensor old new calls).work (session.calls.change old new calls)).pending =
      some activation) :
    ((session.hear hasSensor old new calls).work (session.calls.change old new calls)).AwaitsSpeaker activation := by
  have heard : (session.hear hasSensor old new calls).tornDown = false :=
    (congrArg (·.2.1) (standing_hear hasSensor old new calls session)).trans running
  have before (pending : (session.hear hasSensor old new calls).pending = some activation) :
      session.AwaitsSpeaker activation :=
    poised.awaits activation ((pending_hear hasSensor old new calls).symm.trans pending)
  simp only [work] at pending ⊢
  cases resyncs : (session.calls.change old new calls).resync <;>
    cases answered : (session.calls.change old new calls).outgoingAnswered <;>
    simp only [resyncs, answered, Bool.false_eq_true, ↓reduceIte] at pending ⊢
  case false.false =>
    have awaits := before pending
    exact awaits.hear hasSensor ((isOffhook_of_not_resync poised.coherent resyncs).trans awaits.offhook)
  case true.false =>
    simp only [resync] at pending
    split at pending
    · next offhook =>
      rw [isOffhook_hear] at offhook
      exact { (before pending).hear hasSensor offhook with }
    · cases pending
  case false.true => exact awaits_reroute heard pending
  case true.true => exact awaits_reroute heard pending

theorem refresh (poised : session.Poised) (preferences : Preferences) : (session.refresh preferences).Poised where
  coherent := poised.coherent.refresh preferences
  awaits := fun activation pending => { poised.awaits activation pending with }

theorem awaits_react (poised : session.Poised) (running : session.tornDown = false) (around : Surroundings)
    {event : Event} (pending : (session.react around event).pending = some activation) :
    (session.react around event).AwaitsSpeaker activation := by
  cases event with
  | distance value =>
    simp only [react] at pending ⊢
    split at pending
    · next available =>
      rw [if_pos available]
      exact awaits_reroute running pending
    · next unavailable =>
      rw [if_neg unavailable]
      exact poised.awaits activation pending
  | callState old new calls => exact poised.awaits_work running around.hasSensor pending
  | audioRoute route =>
    simp only [react, moveAudio] at pending ⊢
    split at pending
    · next same =>
      rw [if_pos same]
      exact poised.awaits activation pending
    · next differs =>
      rw [if_neg differs]
      dsimp only at pending ⊢
      split at pending
      · next earpiece => exact { poised.awaits activation pending with earpiece := earpiece }
      · cases pending
  | uiShowing showing =>
    simp only [react] at pending ⊢
    split
    · next shown =>
      rw [if_pos shown] at pending
      exact { poised.awaits activation pending with }
    · next hidden =>
      rw [if_neg hidden] at pending
      exact poised.awaits activation pending
  | orientation _ | dialpad _ | attemptingVideo _ | display _ _ => exact { poised.awaits activation pending with }
  | timer _ | tearDown => exact poised.awaits activation pending

theorem next (poised : session.Poised) (around : Surroundings) (event : Event) :
    (session.next around event).Poised := by
  refine ⟨poised.coherent.next around event, ?_⟩
  intro activation pending
  simp only [Session.next] at pending ⊢
  cases running : session.tornDown with
  | true =>
    simp only [running, ↓reduceIte] at pending ⊢
    exact poised.awaits activation pending
  | false =>
    simp only [running, Bool.false_eq_true, ↓reduceIte] at pending ⊢
    cases event with
    | timer generation =>
      simp only [fire] at pending ⊢
      split at pending
      · cases pending
      · next other =>
        rw [if_neg other]
        exact poised.awaits activation pending
    | tearDown => cases pending
    | _ => exact (poised.refresh _).awaits_react running around pending

end Poised

/-- What the event tells of the ear: a reading during a call, or the answer to an outgoing
call, with the device not away. -/
def FindsEar (session : Session) : Event → Prop
  | .distance value => (session.classifier.feed value).reading.far = false ∧ session.snapshot.isOffhook = true
  | .callState old new calls =>
      old = .outgoing ∧ (CallStatus.derive new calls).hasOngoingCall = true ∧
        (CallStatus.derive new calls).isOffhook = true ∧ session.snapshot.proximityFar = false
  | _ => False

/-- A sensor at hand, automatic speaker on, no other device that plays the call, and the ear found. -/
structure ReturnsToEar (session : Session) (around : Surroundings) (event : Event) : Prop where
  running : session.tornDown = false
  available : session.classifier.isAvailable = true
  autoSpeaker : around.preferences.autoSpeaker = true
  handset : session.snapshot.audioRoute.isExternal = false
  found : session.FindsEar event

theorem putsToEar_sense {around : Surroundings} {value : Float32} (running : session.tornDown = false) :
    ((session.refresh around.preferences).sense value).PutsToEar
        ((session.refresh around.preferences).sense value).snapshot.proximityFar ↔
      session.ReturnsToEar around (.distance value) := by
  have available : ((session.refresh around.preferences).sense value).classifier.isAvailable =
      session.classifier.isAvailable := isAvailable_sense ..
  constructor
  · intro ear
    exact ⟨running, available.symm.trans ear.available, ear.autoSpeaker, ear.handset, ear.near, ear.offhook⟩
  · intro returns
    exact ⟨available.trans returns.available, returns.found.1, returns.found.2, returns.autoSpeaker, returns.handset⟩

theorem isOffhook_of_hasOngoingCall {state : CallState} {calls : CallList}
    (ongoing : (CallStatus.derive state calls).hasOngoingCall = true) :
    (CallStatus.derive state calls).isOffhook = true := by
  simp only [CallStatus.derive] at ongoing ⊢
  simp [ongoing]

theorem putsToEar_hear {around : Surroundings} {new : CallState} {calls : CallList} (running : session.tornDown = false)
    (ongoing : (CallStatus.derive new calls).hasOngoingCall = true) :
    ((session.refresh around.preferences).hear around.hasSensor .outgoing new calls).PutsToEar
        ((session.refresh around.preferences).hear around.hasSensor .outgoing new calls).snapshot.proximityFar ↔
      session.ReturnsToEar around (.callState .outgoing new calls) := by
  have offhook := isOffhook_of_hasOngoingCall ongoing
  have standing : ((session.refresh around.preferences).hear around.hasSensor .outgoing new calls).standing =
      (session.refresh around.preferences).standing := standing_hear ..
  have snapshot : ((session.refresh around.preferences).hear around.hasSensor .outgoing new calls).snapshot = _ :=
    snapshot_hear_of_offhook around.hasSensor offhook
  generalize (session.refresh around.preferences).hear around.hasSensor .outgoing new calls = heard at *
  have available : heard.classifier.isAvailable = session.classifier.isAvailable := congrArg (·.1.2) standing
  have preferences : heard.preferences = around.preferences := congrArg (·.2.2.1) standing
  have far : heard.snapshot.proximityFar = session.snapshot.proximityFar := by
    rw [snapshot]
    rfl
  have route : heard.snapshot.audioRoute = session.snapshot.audioRoute := by
    rw [snapshot]
    rfl
  constructor
  · intro ear
    refine ⟨running, available.symm.trans ear.available, ?_, ?_, rfl, ongoing, offhook, far.symm.trans ear.near⟩
    · rw [← preferences]
      exact ear.autoSpeaker
    · rw [← route]
      exact ear.handset
  · intro returns
    refine ⟨available.trans returns.available, far.trans returns.found.2.2.2, ?_, ?_, ?_⟩
    · rw [snapshot]
      exact offhook
    · rw [preferences]
      exact returns.autoSpeaker
    · rw [route]
      exact returns.handset

/-- The only requests for a route: an activation that is due asks for its own, and finding
the ear asks for the earpiece. -/
theorem setRoute_of_mem_speakerRequests {around : Surroundings} {event : Event} {route : AudioRoute}
    (member : .setRoute route ∈ session.speakerRequests around event) :
    (∃ activation, event = .timer activation.generation ∧ session.pending = some activation ∧
      activation.route = route) ∨ (route = .earpiece ∧ session.ReturnsToEar around event) := by
  simp only [speakerRequests] at member
  cases running : session.tornDown with
  | true => simp [running] at member
  | false =>
    simp only [running, Bool.false_eq_true, ↓reduceIte] at member
    cases event with
    | timer generation =>
      left
      simp only [fireRequests] at member
      split at member
      · next activation pending =>
        split at member
        · next due => exact ⟨activation, by rw [due], pending, by simpa using (List.mem_singleton.mp member).symm⟩
        · cases member
      · cases member
    | distance value =>
      right
      obtain ⟨earpiece, ear⟩ := putsToEar_of_mem_routeRequests member
      exact ⟨earpiece, (putsToEar_sense running).mp ear⟩
    | callState old new calls =>
      right
      dsimp only at member
      split at member
      · next answered =>
        simp only [CallAggregator.change, Bool.and_eq_true, decide_eq_true_eq] at answered
        obtain ⟨rfl, ongoing⟩ := answered
        obtain ⟨earpiece, ear⟩ := putsToEar_of_mem_routeRequests member
        exact ⟨earpiece, (putsToEar_hear running ongoing).mp ear⟩
      · cases member
    | _ => cases member

theorem speakerRequests_of_returnsToEar {around : Surroundings} {event : Event}
    (returns : session.ReturnsToEar around event) :
    session.speakerRequests around event = [.setRoute .earpiece] ∧ (session.next around event).pending = none := by
  have running := returns.running
  simp only [speakerRequests, next, running, Bool.false_eq_true, ↓reduceIte]
  cases event with
  | distance value =>
    have ear := (putsToEar_sense running).mpr returns
    have available : (session.refresh around.preferences).classifier.isAvailable = true := returns.available
    refine ⟨routeRequests_of_putsToEar ear, ?_⟩
    simp only [react, available, ↓reduceIte]
    exact activation?_of_putsToEar ear
  | callState old new calls =>
    obtain ⟨rfl, ongoing, -, -⟩ := returns.found
    have ear := (putsToEar_hear running ongoing).mpr returns
    have answered : (session.calls.change .outgoing new calls).outgoingAnswered = true := by
      simpa [CallAggregator.change] using ongoing
    refine ⟨by simp only [answered, ↓reduceIte]; exact routeRequests_of_putsToEar ear, ?_⟩
    exact (pending_work_of_answered answered).trans (activation?_of_putsToEar ear)
  | _ => exact returns.found.elim

end Session

variable {World : Type} {platform : Platform World} {engine : Engine World}

theorem Engine.poised_start (platform : Platform World) (config : ClassifierConfig) (world : World) :
    (start platform config world).session.Poised := by
  refine ⟨coherent_start platform config world, ?_⟩
  rw [session_start]
  intro activation pending
  cases pending

theorem Engine.poised_step (poised : engine.session.Poised) (event : Event) :
    (engine.step platform event).session.Poised := by
  refine holds_step Session.Poised ?_ (poised.next _ event)
  intro call session poised
  exact ⟨{ poised.coherent with }, fun activation pending => { poised.awaits activation pending with }⟩

theorem Engine.poised_along (platform : Platform World) (config : ClassifierConfig) (world : World)
    (occurrences : List (Occurrence World)) :
    ((start platform config world).after platform occurrences).session.Poised ∧
      ∀ moment ∈ (start platform config world).moments platform occurrences, moment.engine.session.Poised :=
  invariant_along (·.session.Poised) occurrences (poised_start platform config world) (fun _ _ _ poised => poised)
    (fun moment _ poised => poised_step poised moment.event)

namespace Moment

variable {moment : Moment World}

def ReturnsToEar (platform : Platform World) (moment : Moment World) : Prop :=
  moment.engine.session.ReturnsToEar (platform.surroundings moment.engine.world) moment.event

/-- The event is the timer of an activation that waits for it with good reason. -/
def FiresSpeaker (moment : Moment World) : Prop :=
  ∃ activation, moment.event = .timer activation.generation ∧ moment.engine.session.pending = some activation ∧
    moment.engine.session.AwaitsSpeaker activation

theorem setRoute_mem_requests {route : AudioRoute} (member : .setRoute route ∈ moment.requests platform) :
    .setRoute route ∈
      moment.engine.session.speakerRequests (platform.surroundings moment.engine.world) moment.event := by
  rw [← requests_of_asks (Engine.asks_step moment.event)]
  exact List.mem_filter.mpr ⟨member, rfl⟩

theorem fires_or_returns {route : AudioRoute} (poised : moment.engine.session.Poised)
    (member : .setRoute route ∈ moment.requests platform) :
    (route = .speaker ∧ moment.FiresSpeaker) ∨ (route = .earpiece ∧ moment.ReturnsToEar platform) := by
  rcases Session.setRoute_of_mem_speakerRequests (setRoute_mem_requests member) with
    ⟨activation, due, pending, rfl⟩ | returned
  · have awaits := poised.awaits activation pending
    exact .inl ⟨awaits.speaker, activation, due, pending, awaits⟩
  · exact .inr returned

theorem requests_of_returnsToEar (returns : moment.ReturnsToEar platform) :
    (moment.requests platform).filter Request.isRoute = [.setRoute .earpiece] ∧
      (moment.after platform).session.pending = none := by
  obtain ⟨asked, idle⟩ := Session.speakerRequests_of_returnsToEar returns
  constructor
  · have routes : (moment.requests platform).filter Request.isRoute =
        ((moment.requests platform).filter Request.isForSpeaker).filter Request.isRoute := by
      rw [List.filter_filter]
      congr 1
      funext request
      cases request <;> rfl
    rw [routes, requests_of_asks (Engine.asks_step moment.event), asked]
    rfl
  · exact (Engine.pending_step moment.event).trans idle

end Moment

/-- Over any run: an activation waits only while the speaker is right, audio moves to the
speaker only where its timer fires meanwhile, and to the ear exactly where the device is
found there; nothing else moves audio. -/
theorem audio_moves_safely (platform : Platform World) (config : ClassifierConfig) (world : World)
    (occurrences : List (Occurrence World)) :
    let started := Engine.start platform config world
    let reached := started.after platform occurrences
    (∀ activation, reached.session.pending = some activation → reached.session.AwaitsSpeaker activation) ∧
    reached.requests = started.requests ++ (started.moments platform occurrences).flatMap (Moment.requests platform) ∧
    (∀ route, .setRoute route ∉ started.requests) ∧
    ∀ moment ∈ started.moments platform occurrences,
      (.setRoute .speaker ∈ moment.requests platform → moment.FiresSpeaker) ∧
      (∀ route, .setRoute route ∈ moment.requests platform → route ≠ .speaker →
        route = .earpiece ∧ moment.ReturnsToEar platform) ∧
      (moment.ReturnsToEar platform → (moment.requests platform).filter Request.isRoute = [.setRoute .earpiece] ∧
        (moment.after platform).session.pending = none) := by
  intro started reached
  obtain ⟨last, along⟩ := Engine.poised_along platform config world occurrences
  refine ⟨last.awaits, Engine.requests_after occurrences, ?_, ?_⟩
  · intro route member
    cases Engine.eq_releaseLock_of_mem_requests_start member
  · intro moment member
    have poised := along moment member
    refine ⟨?_, ?_, Moment.requests_of_returnsToEar⟩
    · intro moved
      rcases Moment.fires_or_returns poised moved with ⟨-, fires⟩ | ⟨absurdly, -⟩
      · exact fires
      · cases absurdly
    · intro route moved other
      rcases Moment.fires_or_returns poised moved with ⟨speaker, -⟩ | returned
      · exact absurd speaker other
      · exact returned

end CallProximity
