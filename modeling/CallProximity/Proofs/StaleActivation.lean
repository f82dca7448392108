import CallProximity.Proofs.Supersession

/-! An activation is judged when it is scheduled, and its timer looks at nothing when it fires. Most of
what was judged then cannot change without dropping the activation. Two things can: a call that was
about to go out may go out, and the preferences may turn against automatic speaker. -/

namespace CallProximity

section Decision

variable {snapshot : Snapshot} {preferences : Preferences}

theorem decideSpeaker_of_earpiece (offhook : snapshot.isOffhook = true) (autoSpeaker : preferences.autoSpeaker = true)
    (earpiece : snapshot.audioRoute = .earpiece) : decideSpeaker true snapshot preferences =
      if preferences.autoSpeakerIncallOnly && snapshot.isOutgoing then .nothing
      else .schedule preferences.autoSpeakerDelay .speaker := by
  simp [decideSpeaker, offhook, autoSpeaker, earpiece, AudioRoute.isExternal]

theorem allowed_of_decideSpeaker_eq_schedule {delay : UInt64} {route : AudioRoute}
    (decided : decideSpeaker true snapshot preferences = .schedule delay route) :
    preferences.autoSpeaker = true ∧ (preferences.autoSpeakerIncallOnly && snapshot.isOutgoing) = false := by
  simp only [decideSpeaker] at decided
  grind

end Decision

namespace Session

variable {session : Session} {activation : PendingActivation}

theorem decided_of_reroute {wantsSpeaker : Bool}
    (pending : (session.reroute wantsSpeaker).pending = some activation) :
    decideSpeaker true (session.reroute wantsSpeaker).snapshot (session.reroute wantsSpeaker).preferences =
      .schedule activation.delay activation.route := by
  simp only [reroute, activation?] at pending
  split at pending
  case isFalse => cases pending
  case isTrue =>
    split at pending
    · next decided =>
      obtain ⟨-, rfl, -⟩ := eq_of_decideSpeaker_eq_schedule decided
      cases pending
      exact decided
    · cases pending

theorem decided_of_work {change : ChangeSet} (pending : (session.work change).pending = some activation) :
    session.pending = some activation ∨
      decideSpeaker true (session.work change).snapshot (session.work change).preferences =
        .schedule activation.delay activation.route := by
  cases answered : change.outgoingAnswered with
  | true =>
    rw [work_of_answered answered] at pending ⊢
    exact .inr (decided_of_reroute pending)
  | false =>
    rw [work_of_unanswered answered] at pending
    split at pending
    · simp only [resync] at pending
      split at pending
      · exact .inl pending
      · cases pending
    · exact .inl pending

theorem decided_of_next (around : Surroundings) (event : Event)
    (pending : (session.next around event).pending = some activation) :
    session.pending = some activation ∨ (session.tornDown = false ∧ event.mayAnswer = true ∧
      decideSpeaker true (session.next around event).snapshot around.preferences =
        .schedule activation.delay activation.route) := by
  have fresh : ((session.refresh around.preferences).react around event).preferences = around.preferences :=
    congrArg (·.2.2.1) (standing_react around (session.refresh around.preferences) event)
  simp only [next] at pending ⊢
  split at pending
  · exact .inl pending
  · next running =>
    rw [if_neg running]
    rw [Bool.not_eq_true] at running
    cases event with
    | distance value =>
      simp only [react] at pending ⊢
      split at pending
      · next available =>
        rw [if_pos available]
        exact .inr ⟨running, rfl, decided_of_reroute pending⟩
      · exact .inl pending
    | callState old new calls =>
      simp only [react] at pending fresh ⊢
      rcases decided_of_work pending with kept | decided
      · rw [pending_hear] at kept
        exact .inl kept
      · rw [fresh] at decided
        exact .inr ⟨running, rfl, decided⟩
    | audioRoute route =>
      simp only [react, moveAudio] at pending
      split at pending
      · exact .inl pending
      · split at pending
        · exact .inl pending
        · cases pending
    | uiShowing showing =>
      simp only [react] at pending
      split at pending <;> exact .inl pending
    | timer generation =>
      simp only [fire] at pending
      split at pending
      · cases pending
      · exact .inl pending
    | tearDown => cases pending
    | orientation _ | dialpad _ | attemptingVideo _ | display _ _ => exact .inl pending

end Session

variable {World : Type} {platform : Platform World} {engine : Engine World} {activation : PendingActivation}

namespace Moment

variable {moment : Moment World}

theorem decided_of_after (pending : (moment.after platform).session.pending = some activation) :
    moment.engine.session.pending = some activation ∨ ∃ preferences, moment.loaded? platform = some preferences ∧
      decideSpeaker true (moment.after platform).session.snapshot preferences =
        .schedule activation.delay activation.route := by
  have snapshot : (moment.after platform).session.snapshot = _ := Engine.snapshot_step moment.event
  rcases Session.decided_of_next _ moment.event ((Engine.pending_step moment.event).symm.trans pending) with
    kept | ⟨running, mayAnswer, decided⟩
  · exact .inl kept
  · rw [← snapshot] at decided
    exact .inr ⟨_, loaded?_of_mayAnswer running mayAnswer, decided⟩

end Moment

namespace Engine

/-- While the activation was pending the call went out, and nothing was told of the calls since. -/
def WentOut (platform : Platform World) (engine : Engine World) (activation : PendingActivation)
    (occurrences : List (Occurrence World)) : Prop :=
  ∃ earlier dialed later, occurrences = earlier ++ dialed :: later ∧
    (engine.after platform earlier).session.pending = some activation ∧
    dialed.event.status?.any CallStatus.isOutgoing = true ∧ ∀ occurrence ∈ later, occurrence.event.status? = none

theorem not_wentOut_nil : ¬engine.WentOut platform activation [] := by
  rintro ⟨earlier, dialed, later, split, -⟩
  simp at split

theorem wentOut_concat {occurrences : List (Occurrence World)} {last : Occurrence World} :
    engine.WentOut platform activation (occurrences ++ [last]) ↔
      ((engine.after platform occurrences).session.pending = some activation ∧
        last.event.status?.any CallStatus.isOutgoing = true) ∨
      (engine.WentOut platform activation occurrences ∧ last.event.status? = none) := by
  simp only [WentOut, exists_split_concat, List.forall_mem_append, List.forall_mem_singleton]
  constructor
  · rintro (⟨pending, outgoing, -⟩ | ⟨earlier, dialed, later, split, pending, outgoing, silent, quiet⟩)
    · exact .inl ⟨pending, outgoing⟩
    · exact .inr ⟨⟨earlier, dialed, later, split, pending, outgoing, silent⟩, quiet⟩
  · rintro (⟨pending, outgoing⟩ | ⟨⟨earlier, dialed, later, split, pending, outgoing, silent⟩, quiet⟩)
    · exact .inl ⟨pending, outgoing, fun _ absent => by cases absent⟩
    · exact .inr ⟨earlier, dialed, later, split, pending, outgoing, silent, quiet⟩

theorem isOutgoing_concat {first : List (Occurrence World)} {last : Occurrence World}
    (running : (engine.after platform first).session.tornDown = false) :
    (engine.after platform (first ++ [last])).session.snapshot.isOutgoing =
      (last.event.status?.getD (engine.after platform first).session.snapshot.status).isOutgoing := by
  rw [after_concat]
  exact congrArg CallStatus.isOutgoing (Moment.status_after running)

theorem isOutgoing_of_wentOut {occurrences : List (Occurrence World)}
    (running : (engine.after platform occurrences).session.tornDown = false)
    (wentOut : engine.WentOut platform activation occurrences) :
    (engine.after platform occurrences).session.snapshot.isOutgoing = true := by
  induction occurrences using List.reverseRecOn with
  | nil => exact absurd wentOut not_wentOut_nil
  | append_singleton first last ih =>
    rw [after_concat] at running
    have ran : (engine.after platform first).session.tornDown = false := Moment.running_of_after running
    rw [isOutgoing_concat ran]
    rcases wentOut_concat.mp wentOut with ⟨-, outgoing⟩ | ⟨before, quiet⟩
    · cases noticed : last.event.status? with
      | none => simp [noticed] at outgoing
      | some status => simpa [noticed] using outgoing
    · rw [quiet]
      exact ih ran before

/-- What is known of an activation under preferences that stay as they are: they are for automatic
speaker, and if they keep it to calls under way, the call is not an outgoing one unless it went out
meanwhile. -/
structure Judged (platform : Platform World) (engine : Engine World) (preferences : Preferences)
    (activation : PendingActivation) (occurrences : List (Occurrence World)) : Prop where
  autoSpeaker : preferences.autoSpeaker = true
  wentOut : preferences.autoSpeakerIncallOnly = true →
    (engine.after platform occurrences).session.snapshot.isOutgoing = true →
    engine.WentOut platform activation occurrences

theorem Judged.concat {preferences : Preferences} {first : List (Occurrence World)} {last : Occurrence World}
    (judged : engine.Judged platform preferences activation first)
    (running : (engine.after platform first).session.tornDown = false)
    (waits : (engine.after platform first).session.pending = some activation) :
    engine.Judged platform preferences activation (first ++ [last]) := by
  refine ⟨judged.autoSpeaker, ?_⟩
  intro restricted outgoing
  rw [isOutgoing_concat running] at outgoing
  apply wentOut_concat.mpr
  cases noticed : last.event.status? with
  | none =>
    rw [noticed] at outgoing
    exact .inr ⟨judged.wentOut restricted outgoing, rfl⟩
  | some status =>
    rw [noticed] at outgoing
    exact .inl ⟨waits, by simpa using outgoing⟩

theorem Judged.of_decided {preferences : Preferences} {occurrences : List (Occurrence World)} {delay : UInt64}
    {route : AudioRoute} (decided : decideSpeaker true (engine.after platform occurrences).session.snapshot
      preferences = .schedule delay route) :
    engine.Judged platform preferences activation occurrences := by
  obtain ⟨autoSpeaker, allowed⟩ := allowed_of_decideSpeaker_eq_schedule decided
  refine ⟨autoSpeaker, ?_⟩
  intro restricted outgoing
  simp [restricted, outgoing] at allowed

theorem poised_after (poised : engine.session.Poised) (occurrences : List (Occurrence World)) :
    (engine.after platform occurrences).session.Poised :=
  (invariant_along (·.session.Poised) occurrences poised (fun _ _ _ poised => poised)
    (fun moment _ poised => poised_step poised moment.event)).1

/-- The last event either leaves an activation as it was or calls for it afresh, so the run grows there. -/
theorem judged_after {preferences : Preferences} {occurrences : List (Occurrence World)}
    (idle : engine.session.pending = none) (poised : engine.session.Poised)
    (loaded : engine.session.preferences = preferences)
    (unchanged : ∀ moment ∈ engine.moments platform occurrences, ∀ loads ∈ moment.loaded? platform,
      loads = preferences) :
    (engine.after platform occurrences).session.preferences = preferences ∧
      ∀ activation, (engine.after platform occurrences).session.pending = some activation →
        engine.Judged platform preferences activation occurrences := by
  -- What is pending at the end was pending before the last event, or is decided by it.
  induction occurrences using List.reverseRecOn with
  | nil =>
    refine ⟨loaded, ?_⟩
    intro activation pending
    cases idle.symm.trans pending
  | append_singleton first last ih =>
    rw [moments_append] at unchanged
    obtain ⟨same, judged⟩ := ih fun moment member => unchanged moment (List.mem_append_left _ member)
    have found : ∀ found ∈ ((engine.after platform first).meet last).loaded? platform, found = preferences :=
      unchanged _ (List.mem_append_right _ (List.mem_singleton_self _))
    rw [after_concat]
    constructor
    · have stepped : (((engine.after platform first).meet last).after platform).session.preferences =
          (((engine.after platform first).meet last).loaded? platform).getD
            (engine.after platform first).session.preferences := preferences_step last.event
      rw [stepped]
      cases loads : ((engine.after platform first).meet last).loaded? platform with
      | none => exact same
      | some loaded => exact found loaded loads
    · intro activation pending
      rcases Moment.decided_of_after pending with waits | ⟨loaded, loads, decided⟩
      · have waits : (engine.after platform first).session.pending = some activation := waits
        exact (judged activation waits).concat ((poised_after poised first).awaits activation waits).running waits
      · rw [found loaded loads, ← after_concat] at decided
        exact .of_decided decided

end Engine

/-- An activation that fires under preferences that stayed as they are is still wanted, but for one
whose call went out under it: kept to calls under way, it turns on the speaker of an outgoing call. -/
theorem fired_activation_wanted_unless_went_out (platform : Platform World) (config : ClassifierConfig)
    (world : World) (earlier : List (Occurrence World)) (occurrence : Occurrence World)
    (unchanged : ∀ moment ∈ (Engine.start platform config world).moments platform earlier,
      ∀ loaded ∈ moment.loaded? platform, loaded = Preferences.load (platform.preferences world))
    (fires : .setRoute .speaker ∈
      (((Engine.start platform config world).after platform earlier).meet occurrence).requests platform) :
    let preferences := Preferences.load (platform.preferences world)
    let started := Engine.start platform config world
    let session := (started.after platform earlier).session
    ∃ activation, session.pending = some activation ∧ occurrence.event = .timer activation.generation ∧
      session.preferences = preferences ∧
      (¬(preferences.autoSpeakerIncallOnly = true ∧ started.WentOut platform activation earlier) →
        decideSpeaker true session.snapshot preferences = .schedule preferences.autoSpeakerDelay .speaker) ∧
      (preferences.autoSpeakerIncallOnly = true ∧ started.WentOut platform activation earlier →
        session.snapshot.isOutgoing = true ∧ decideSpeaker true session.snapshot preferences = .nothing) := by
  intro preferences started session
  have opened : started.session = .opening platform config preferences := Engine.session_start config world
  have poised : session.Poised := (Engine.poised_along platform config world earlier).1
  obtain ⟨steady, judged⟩ : session.preferences = preferences ∧ ∀ activation, session.pending = some activation →
      started.Judged platform preferences activation earlier := by
    apply Engine.judged_after _ (Engine.poised_start platform config world) _ unchanged
    · exact congrArg Session.pending opened
    · exact congrArg Session.preferences opened
  have fired : (((started.after platform earlier).meet occurrence)).FiresSpeaker := by
    rcases Moment.fires_or_returns poised fires with ⟨-, fired⟩ | ⟨absurdly, -⟩
    · exact fired
    · cases absurdly
  obtain ⟨activation, due, pending, awaits⟩ := fired
  have judged := judged activation pending
  have decision := decideSpeaker_of_earpiece awaits.offhook judged.autoSpeaker awaits.earpiece
  refine ⟨activation, pending, due, steady, ?_, ?_⟩
  · intro stayed
    refine decision.trans (if_neg ?_)
    intro outgoing
    rw [Bool.and_eq_true] at outgoing
    exact stayed ⟨outgoing.1, judged.wentOut outgoing.1 outgoing.2⟩
  · rintro ⟨restricted, wentOut⟩
    have outgoing : session.snapshot.isOutgoing = true := Engine.isOutgoing_of_wentOut awaits.running wentOut
    refine ⟨outgoing, decision.trans (if_pos ?_)⟩
    rw [restricted]
    exact outgoing

theorem fired_activation_wanted_unless_went_out_answered :
    let platform := ({} : Scenario).platform
    let world : SimulatedWorld := {
      store := (({} : PreferenceStore).setBool PreferenceKey.autoSpeaker true).setBool
        PreferenceKey.autoSpeakerIncallOnly true }
    let earlier : List (Occurrence SimulatedWorld) := [
      ⟨id, .callState .idle .inCall { hasLiveCall := true, activeCall := some { id := "a" } }⟩, ⟨id, .distance 5⟩]
    let preferences := Preferences.load (platform.preferences world)
    let started := Engine.start platform {} world
    let session := (started.after platform earlier).session
    ∃ activation, session.pending = some activation ∧ Event.timer 1 = .timer activation.generation ∧
      session.preferences = preferences ∧
      (¬(preferences.autoSpeakerIncallOnly = true ∧ started.WentOut platform activation earlier) →
        decideSpeaker true session.snapshot preferences = .schedule preferences.autoSpeakerDelay .speaker) ∧
      (preferences.autoSpeakerIncallOnly = true ∧ started.WentOut platform activation earlier →
        session.snapshot.isOutgoing = true ∧ decideSpeaker true session.snapshot preferences = .nothing) := by
  intro platform world earlier
  apply fired_activation_wanted_unless_went_out platform {} world earlier ⟨id, .timer 1⟩
  · decide
  · decide

/-- The number is dialed with the device at hand, and the call goes out before the delay is over. -/
theorem speaker_turned_on_for_outgoing_call :
    let platform := ({} : Scenario).platform
    let world : SimulatedWorld := {
      store := (({} : PreferenceStore).setBool PreferenceKey.autoSpeaker true).setBool
        PreferenceKey.autoSpeakerIncallOnly true }
    let reached := (Engine.start platform {} world).after platform [
      ⟨id, .callState .idle .pendingOutgoing {}⟩, ⟨id, .distance 5⟩, ⟨id, .callState .pendingOutgoing .outgoing {}⟩]
    (⟨reached, .timer 1⟩ : Moment SimulatedWorld).requests platform = [.setRoute .speaker] ∧
      reached.session.preferences.autoSpeakerIncallOnly = true ∧ reached.session.snapshot.isOutgoing = true ∧
      decideSpeaker true reached.session.snapshot reached.session.preferences = .nothing := by
  decide

namespace Moment

variable {moment : Moment World}

/-- The event finds no preferences that have audio routed by themselves. -/
def KeepsOff (platform : Platform World) (moment : Moment World) : Prop :=
  ∀ loaded ∈ moment.loaded? platform, loaded.autoSpeaker = false

theorem waited_of_keepsOff (off : moment.KeepsOff platform)
    (pending : (moment.after platform).session.pending = some activation) :
    moment.engine.session.pending = some activation := by
  rcases decided_of_after pending with waited | ⟨loaded, loads, decided⟩
  · exact waited
  · cases (off loaded loads).symm.trans (allowed_of_decideSpeaker_eq_schedule decided).1

theorem not_returnsToEar_of_keepsOff (off : moment.KeepsOff platform) : ¬moment.ReturnsToEar platform := by
  intro returns
  have mayAnswer : moment.event.mayAnswer = true := by
    have found := returns.found
    generalize moment.event = event at found
    cases event with
    | distance _ | callState _ _ _ => rfl
    | _ => exact found.elim
  have loads : moment.loaded? platform = some (platform.surroundings moment.engine.world).preferences :=
    loaded?_of_mayAnswer returns.running mayAnswer
  cases (off _ loads).symm.trans returns.autoSpeaker

theorem requests_of_firesSpeaker (fires : moment.FiresSpeaker) :
    moment.requests platform = [.setRoute .speaker] ∧ (moment.after platform).session.pending = none := by
  obtain ⟨engine, event⟩ := moment
  obtain ⟨activation, rfl, pending, awaits⟩ := fires
  have pending : engine.session.pending = some activation := pending
  have running : engine.session.tornDown = false := awaits.running
  constructor
  · rw [requests_of_makes (Engine.makes_onTimer activation.generation running)]
    simp [Session.fireRequests, pending, awaits.speaker]
  · refine (congrArg Session.pending (Engine.session_onTimer activation.generation running)).trans ?_
    simp [Session.fire, pending]

theorem setRoute_mem_requests_iff (poised : moment.engine.session.Poised) (off : moment.KeepsOff platform)
    {route : AudioRoute} :
    .setRoute route ∈ moment.requests platform ↔ route = .speaker ∧ moment.FiresSpeaker := by
  constructor
  · intro moved
    rcases fires_or_returns poised moved with fired | ⟨-, returns⟩
    · exact fired
    · exact absurd returns (not_returnsToEar_of_keepsOff off)
  · rintro ⟨rfl, fires⟩
    rw [(requests_of_firesSpeaker fires).1]
    exact List.mem_singleton_self _

end Moment

namespace Engine

theorem waited_along (poised : engine.session.Poised) (occurrences : List (Occurrence World))
    (off : ∀ moment ∈ engine.moments platform occurrences, moment.KeepsOff platform) :
    ∀ moment ∈ engine.moments platform occurrences, moment.engine.session.Poised ∧
      ∀ activation, moment.engine.session.pending = some activation → engine.session.pending = some activation := by
  refine (invariant_along (fun later => later.session.Poised ∧
    ∀ activation, later.session.pending = some activation → engine.session.pending = some activation)
    occurrences ⟨poised, fun _ pending => pending⟩ (fun _ _ _ kept => kept) ?_).2
  rintro moment member ⟨poised, waited⟩
  exact ⟨poised_step poised moment.event,
    fun activation pending => waited activation (Moment.waited_of_keepsOff (off moment member) pending)⟩

theorem countP_isRoute_eq_zero (poised : engine.session.Poised) (idle : engine.session.pending = none)
    (occurrences : List (Occurrence World))
    (off : ∀ moment ∈ engine.moments platform occurrences, moment.KeepsOff platform) :
    ((engine.moments platform occurrences).flatMap (Moment.requests platform)).countP Request.isRoute = 0 := by
  rw [List.countP_eq_zero]
  intro request asked moves
  obtain ⟨moment, member, asked⟩ := List.mem_flatMap.mp asked
  obtain ⟨poised, waited⟩ := waited_along poised occurrences off moment member
  cases request with
  | setRoute route =>
    obtain ⟨-, activation, -, pending, -⟩ := (Moment.setRoute_mem_requests_iff poised (off moment member)).mp asked
    cases idle.symm.trans (waited activation pending)
  | _ => cases moves

theorem countP_isRoute_le_one (poised : engine.session.Poised) (occurrences : List (Occurrence World))
    (off : ∀ moment ∈ engine.moments platform occurrences, moment.KeepsOff platform) :
    ((engine.moments platform occurrences).flatMap (Moment.requests platform)).countP Request.isRoute ≤ 1 := by
  induction occurrences generalizing engine with
  | nil => exact Nat.zero_le 1
  | cons occurrence rest ih =>
    have met : (engine.meet occurrence).engine.session.Poised := poised
    have first : (engine.meet occurrence).KeepsOff platform := off _ (List.mem_cons_self ..)
    have later : ∀ moment ∈ ((engine.meet occurrence).after platform).moments platform rest,
        moment.KeepsOff platform := fun moment member => off moment (List.mem_cons_of_mem _ member)
    have stepped : ((engine.meet occurrence).after platform).session.Poised := poised_step met occurrence.event
    rw [moments, List.flatMap_cons, List.countP_append]
    by_cases fires : (engine.meet occurrence).FiresSpeaker
    · obtain ⟨asked, idle⟩ : (engine.meet occurrence).requests platform = _ ∧ _ :=
        Moment.requests_of_firesSpeaker fires
      rw [asked, countP_isRoute_eq_zero stepped idle rest later]
      exact Nat.le_refl 1
    · have silent : ((engine.meet occurrence).requests platform).countP Request.isRoute = 0 := by
        rw [List.countP_eq_zero]
        intro request asked moves
        cases request with
        | setRoute route => exact fires ((Moment.setRoute_mem_requests_iff met first).mp asked).2
        | _ => cases moves
      rw [silent, Nat.zero_add]
      exact ih stepped later

end Engine

/-- Once events find automatic speaker off, audio moves only by an activation that waited before: its
timer still fires, once at most. -/
theorem off_moves_audio_only_by_earlier_activation (platform : Platform World) (config : ClassifierConfig)
    (world : World) (earlier later : List (Occurrence World))
    (off : ∀ moment ∈ ((Engine.start platform config world).after platform earlier).moments platform later,
      moment.KeepsOff platform) :
    let reached := (Engine.start platform config world).after platform earlier
    (∀ moment ∈ reached.moments platform later, ∀ route, .setRoute route ∈ moment.requests platform ↔
      route = .speaker ∧ ∃ activation, reached.session.pending = some activation ∧
        moment.engine.session.pending = some activation ∧ moment.event = .timer activation.generation) ∧
    ((reached.moments platform later).flatMap (Moment.requests platform)).countP Request.isRoute ≤ 1 := by
  intro reached
  have poised : reached.session.Poised := (Engine.poised_along platform config world earlier).1
  refine ⟨?_, Engine.countP_isRoute_le_one poised later off⟩
  intro moment member route
  obtain ⟨met, waited⟩ := Engine.waited_along poised later off moment member
  rw [Moment.setRoute_mem_requests_iff met (off moment member)]
  constructor
  · rintro ⟨speaker, activation, due, pending, -⟩
    exact ⟨speaker, activation, waited activation pending, pending, due⟩
  · rintro ⟨speaker, activation, -, pending, due⟩
    exact ⟨speaker, activation, due, pending, met.awaits activation pending⟩

theorem off_moves_audio_only_by_earlier_activation_shown :
    let platform := ({} : Scenario).platform
    let world : SimulatedWorld := { store := ({} : PreferenceStore).setBool PreferenceKey.autoSpeaker true }
    let turnOff (world : SimulatedWorld) : SimulatedWorld :=
      { world with store := world.store.setBool PreferenceKey.autoSpeaker false }
    let later : List (Occurrence SimulatedWorld) := [⟨turnOff, .uiShowing true⟩, ⟨id, .timer 1⟩]
    let reached := (Engine.start platform {} world).after platform [
      ⟨id, .callState .idle .outgoing {}⟩, ⟨id, .distance 5⟩]
    (∀ moment ∈ reached.moments platform later, ∀ route, .setRoute route ∈ moment.requests platform ↔
      route = .speaker ∧ ∃ activation, reached.session.pending = some activation ∧
        moment.engine.session.pending = some activation ∧ moment.event = .timer activation.generation) ∧
    ((reached.moments platform later).flatMap (Moment.requests platform)).countP Request.isRoute ≤ 1 := by
  intro platform world turnOff later
  apply off_moves_audio_only_by_earlier_activation platform {} world
  simp only [Moment.KeepsOff]
  decide

/-- Automatic speaker is turned off while an activation waits, and an event finds it off. -/
theorem speaker_turned_on_after_off :
    let platform := ({} : Scenario).platform
    let world : SimulatedWorld := { store := ({} : PreferenceStore).setBool PreferenceKey.autoSpeaker true }
    let turnOff (world : SimulatedWorld) : SimulatedWorld :=
      { world with store := world.store.setBool PreferenceKey.autoSpeaker false }
    let reached := (Engine.start platform {} world).after platform [
      ⟨id, .callState .idle .outgoing {}⟩, ⟨id, .distance 5⟩, ⟨turnOff, .uiShowing true⟩]
    reached.session.preferences.autoSpeaker = false ∧
      (⟨reached, .timer 1⟩ : Moment SimulatedWorld).requests platform = [.setRoute .speaker] := by
  decide

end CallProximity
