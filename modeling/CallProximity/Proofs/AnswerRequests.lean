import CallProximity.Proofs.AutoAnswer
import CallProximity.Proofs.Subscription

/-! Every request to answer a call has its reason. That a call rings is looked at by notifications alone: a reading
has the platform asked also where nothing rings. -/

namespace CallProximity

/-- The id of a call is kept only while it rings. -/
def CallAggregator.NamesRinging (aggregator : CallAggregator) : Prop :=
  aggregator.status.hasIncomingCall = false → aggregator.ringingCallId = none

theorem CallAggregator.namesRinging_notify (aggregator : CallAggregator) (old new : CallState) (calls : CallList) :
    (aggregator.notify old new calls).2.NamesRinging := by
  intro quiet
  have silent : (aggregator.change old new calls).status.hasIncomingCall = false := quiet
  simp [notify, silent]

namespace Session

variable {session : Session}

theorem calls_hear (hasSensor : Bool) (old new : CallState) (calls : CallList) :
    (session.hear hasSensor old new calls).calls = (session.calls.notify old new calls).2 := by
  simp only [hear, resubscribe]
  split <;> rfl

theorem calls_react_callState (around : Surroundings) (session : Session) (old new : CallState) (calls : CallList) :
    (session.react around (.callState old new calls)).calls = (session.calls.notify old new calls).2 := by
  have worked : (session.react around (.callState old new calls)).calls =
      (session.hear around.hasSensor old new calls).calls :=
    kept_work (fun _ => rfl) (fun _ _ => rfl) ..
  exact worked.trans (calls_hear ..)

theorem calls_next (around : Surroundings) (session : Session) (event : Event) :
    (session.next around event).calls = session.calls ∨
      (∃ old new calls, (session.next around event).calls = (session.calls.notify old new calls).2) ∨
      ∃ route, (session.next around event).calls = { session.calls with audioRoute := route } := by
  simp only [next]
  split
  · exact .inl rfl
  · cases event with
    | callState old new calls => exact .inr (.inl ⟨old, new, calls, calls_react_callState ..⟩)
    | audioRoute route =>
      simp only [react, moveAudio]
      split
      · exact .inl rfl
      · exact .inr (.inr ⟨route, rfl⟩)
    | distance value =>
      simp only [react]
      split <;> exact .inl rfl
    | uiShowing showing =>
      simp only [react]
      split <;> exact .inl rfl
    | timer generation =>
      simp only [fire]
      split <;> exact .inl rfl
    | orientation _ | dialpad _ | attemptingVideo _ | display _ _ | tearDown => exact .inl rfl

theorem namesRinging_next (names : session.calls.NamesRinging) (around : Surroundings) (event : Event) :
    (session.next around event).calls.NamesRinging := by
  rcases calls_next around session event with kept | ⟨old, new, calls, told⟩ | ⟨route, moved⟩
  · rw [kept]
    exact names
  · rw [told]
    exact session.calls.namesRinging_notify old new calls
  · rw [moved]
    exact names

theorem wantsAnswer_of_quiet (coherent : session.Coherent) (names : session.calls.NamesRinging)
    (quiet : session.snapshot.hasIncomingCall = false) (near screenOn : Bool) : session.wantsAnswer near screenOn =
      shouldAutoAnswer near session.snapshot session.preferences true screenOn := by
  simp [wantsAnswer, names (coherent.hasIncomingCall.symm.trans quiet)]

theorem running_of_judgesAnswer {event : Event} (judges : session.judgesAnswer event = true) :
    session.tornDown = false ∧ event.mayAnswer = true := by
  obtain ⟨running, judges⟩ := Bool.and_eq_true_iff.mp judges
  refine ⟨by simpa using running, ?_⟩
  cases event with
  | distance _ | callState _ _ _ => rfl
  | _ => cases judges

end Session

variable {World : Type} {platform : Platform World} {engine : Engine World}

namespace Engine

theorem namesRinging_start (platform : Platform World) (config : ClassifierConfig) (world : World) :
    (start platform config world).session.calls.NamesRinging := by
  rw [session_start]
  exact fun _ => rfl

theorem namesRinging_step (names : engine.session.calls.NamesRinging) (event : Event) :
    (engine.step platform event).session.calls.NamesRinging :=
  holds_step (·.calls.NamesRinging) (fun _ _ names => names) (Session.namesRinging_next names _ event)

theorem namesRinging_after (names : engine.session.calls.NamesRinging) (occurrences : List (Occurrence World)) :
    (engine.after platform occurrences).session.calls.NamesRinging :=
  (invariant_along (·.session.calls.NamesRinging) occurrences names (fun _ _ _ names => names)
    (fun moment _ names => namesRinging_step names moment.event)).1

end Engine

namespace Moment

variable {moment : Moment World}

/-- The session by which the ringing call is judged: all that the event leaves behind, before any answer. -/
def judged (platform : Platform World) (moment : Moment World) : Session :=
  (moment.after platform).session.answered moment.engine.session.lastAnswered

theorem requests_of_judges (platform : Platform World)
    (judges : moment.engine.session.judgesAnswer moment.event = true) :
    let session := moment.judged platform
    ∃ earlier later, .acceptCall ∉ earlier ∧ .acceptCall ∉ later ∧ moment.requests platform = earlier ++
      (if platform.telephony.isSome && session.wantsAnswer session.snapshot.proximityNear
        (platform.isScreenOn (earlier.foldl platform.perform moment.engine.world)) then [.acceptCall] else []) ++ later := by
  intro session
  have unasked {made : List Request} (silent : made.filter Request.isAnswer = []) : .acceptCall ∉ made := by
    intro member
    exact List.filter_eq_nil_iff.mp silent _ member rfl
  obtain ⟨found, ⟨earlier, makes, before⟩, kept, ⟨later, makesLater, after⟩, same⟩ :=
    Engine.exists_judged_step platform judges
  have answers : Engine.Makes platform _ found (found.maybeAutoAnswer platform found.session.snapshot.proximityNear) :=
    Engine.makes_maybeAutoAnswer _
  have judged : session = found.session := by
    obtain ⟨call, left, -⟩ : ∃ call, (found.maybeAutoAnswer platform found.session.snapshot.proximityNear).session =
        found.session.answered call ∧ _ := found.session_maybeAutoAnswer _
    have reached : (moment.after platform).session = found.session.answered call := same.trans left
    simp only [session, Moment.judged]
    rw [reached, ← kept]
    rfl
  refine ⟨earlier, later, unasked before, unasked after, ?_⟩
  rw [requests_of_makes ((makes.trans answers).trans makesLater), Engine.answerRequests_eq, judged, makes.world]

theorem rings_or_reads (judges : moment.engine.session.judgesAnswer moment.event = true) :
    (moment.after platform).session.snapshot.hasIncomingCall = true ∨ ∃ value, moment.event = .distance value := by
  obtain ⟨running, -⟩ := Session.running_of_judgesAnswer judges
  have status : (moment.after platform).session.snapshot.status = _ := status_after running
  replace judges := (Bool.and_eq_true_iff.mp judges).2
  obtain ⟨engine, event⟩ := moment
  cases event with
  | distance value => exact .inr ⟨value, rfl⟩
  | callState old new calls =>
    have incoming : (CallStatus.derive new calls).hasIncomingCall = true := (Bool.and_eq_true_iff.mp judges).1
    exact .inl ((congrArg CallStatus.hasIncomingCall status).trans incoming)
  | _ => cases judges

theorem reason_of_acceptCall (asked : .acceptCall ∈ moment.requests platform) :
    let session := (moment.after platform).session
    moment.engine.session.judgesAnswer moment.event = true ∧ platform.telephony.isSome = true ∧
      session.snapshot.proximityNear = true ∧ session.snapshot.hasOngoingCall = false ∧
      session.preferences.autoAnswer = true := by
  intro session
  cases judges : moment.engine.session.judgesAnswer moment.event with
  | false =>
    have silent := requests_of_asks (Engine.unanswered_step platform judges).1
    exact absurd rfl (List.filter_eq_nil_iff.mp silent _ asked)
  | true =>
    obtain ⟨earlier, later, before, after, requests⟩ := requests_of_judges platform judges
    rw [requests, List.mem_append, List.mem_append] at asked
    have answers := (asked.resolve_right after).resolve_left before
    split at answers
    · next wants =>
      simp only [Session.wantsAnswer, shouldAutoAnswer, Bool.and_eq_true, Bool.not_eq_true', Bool.and_true] at wants
      obtain ⟨telephony, ⟨⟨⟨near, -⟩, free⟩, autoAnswer⟩, -⟩ := wants
      exact ⟨rfl, telephony, near, free, autoAnswer⟩
    · cases answers

end Moment

/-- An answer is asked for only by the preferences just loaded, with the device at the ear and no call under way,
where a call rings or by a reading. Whether a call rings a reading does not look at: where none does, as while a call
goes out, it has the platform asked all the same. -/
theorem answers_asked_while_ringing_or_at_reading (platform : Platform World) (config : ClassifierConfig)
    (world : World) (earlier : List (Occurrence World)) (occurrence : Occurrence World) :
    let started := Engine.start platform config world
    let moment := (started.after platform earlier).meet occurrence
    let session := (moment.after platform).session
    let snapshot := session.snapshot
    (.acceptCall ∈ moment.requests platform →
      moment.loaded? platform = some session.preferences ∧ session.preferences.autoAnswer = true ∧
      platform.telephony.isSome = true ∧ snapshot.proximityNear = true ∧ snapshot.hasOngoingCall = false ∧
      (snapshot.hasIncomingCall = true ∨
        ∃ value, occurrence.event = .distance value ∧ (moment.engine.Subscribed → snapshot.isOffhook = true))) ∧
    ∀ value, occurrence.event = .distance value → moment.engine.session.tornDown = false →
      platform.sensor.isSome = true → snapshot.hasIncomingCall = false →
      ∃ before after, .acceptCall ∉ before ∧ .acceptCall ∉ after ∧ moment.requests platform =
        before ++ (if platform.telephony.isSome && shouldAutoAnswer snapshot.proximityNear snapshot session.preferences true
          (platform.isScreenOn (before.foldl platform.perform moment.engine.world)) then [.acceptCall] else []) ++ after := by
  intro started moment session snapshot
  constructor
  · intro asked
    obtain ⟨judges, telephony, near, free, autoAnswer⟩ := Moment.reason_of_acceptCall asked
    obtain ⟨running, mayAnswer⟩ := Session.running_of_judgesAnswer judges
    have loaded : moment.loaded? platform = some _ := Moment.loaded?_of_mayAnswer running mayAnswer
    have fresh : session.preferences = (moment.loaded? platform).getD _ := Engine.preferences_step occurrence.event
    have status : snapshot.status = occurrence.event.status?.getD _ := Moment.status_after running
    refine ⟨?_, autoAnswer, telephony, near, free, ?_⟩
    · rw [fresh, loaded]
      rfl
    · rcases Moment.rings_or_reads judges with rings | ⟨value, reading⟩
      · exact .inl rings
      · have same : snapshot.status = (started.after platform earlier).session.snapshot.status := by
          rw [status, show occurrence.event = .distance value from reading]
          rfl
        by_cases held : moment.engine.Subscribed
        · rcases (Engine.called_of_subscribed config world running).1 held with offhook | rings
          · exact .inr ⟨value, reading, fun _ => (congrArg CallStatus.isOffhook same).trans offhook⟩
          · exact .inl ((congrArg CallStatus.hasIncomingCall same).trans rings)
        · exact .inr ⟨value, reading, fun again => absurd again held⟩
  · intro value reading running sensor quiet
    have available : moment.engine.session.classifier.isAvailable = true :=
      (Engine.isAvailable_after platform config world earlier).trans sensor
    have judges : moment.engine.session.judgesAnswer moment.event = true := by
      rw [show moment.event = .distance value from reading, Session.judgesAnswer, running, available]
      rfl
    have met : moment.engine.session.Coherent :=
      Engine.coherent_after (Engine.coherent_start platform config world) earlier
    have coherent : session.Coherent := Engine.coherent_step met occurrence.event
    have named : moment.engine.session.calls.NamesRinging :=
      Engine.namesRinging_after (Engine.namesRinging_start platform config world) earlier
    have names : session.calls.NamesRinging := Engine.namesRinging_step named occurrence.event
    have decided : ∀ near screenOn, (moment.judged platform).wantsAnswer near screenOn =
        shouldAutoAnswer near snapshot session.preferences true screenOn :=
      Session.wantsAnswer_of_quiet { coherent with } names quiet
    obtain ⟨before, after, unasked, unaskedAfter, requests⟩ := Moment.requests_of_judges platform judges
    rw [decided] at requests
    exact ⟨before, after, unasked, unaskedAfter, requests⟩

/-- With answering at the ear on, the phone is raised to the ear while a call goes out. -/
theorem answer_asked_for_outgoing_call :
    let platform := ({} : Scenario).platform
    let world : SimulatedWorld := { store := ({} : PreferenceStore).setBool PreferenceKey.autoAnswer true }
    let dialed := (Engine.start platform {} world).after platform [⟨id, .callState .idle .outgoing {}⟩]
    let raised := dialed.meet ⟨id, .distance 0⟩
    let snapshot := (raised.after platform).session.snapshot
    dialed.Subscribed ∧ snapshot.isOutgoing = true ∧
      ¬(.acceptCall ∈ raised.requests platform → snapshot.hasIncomingCall = true) := by
  decide

end CallProximity
