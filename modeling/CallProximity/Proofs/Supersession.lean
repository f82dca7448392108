import CallProximity.Proofs.SpeakerRoute
import CallProximity.Proofs.TearDown

/-! An activation is dead once anything took its place. The session keeps the last one alone,
and numbers them upwards, so a timer that fires late, or after it was cancelled, finds a
newer number or none, and does nothing. -/

namespace CallProximity

namespace Session

variable {session before after : Session} {activation : PendingActivation} {generation : Nat}

/-- The events that end an activation, apart from its timer and the tear-down: a reading, the
answer to an outgoing call, a resync without a call, and a move of audio off the ear. -/
def supersedes (session : Session) (event : Event) : Bool :=
  !session.tornDown &&
    match event with
    | .distance _ => session.classifier.isAvailable
    | .callState old new calls =>
        let change := session.calls.change old new calls
        change.outgoingAnswered || (change.resync && !change.status.isOffhook)
    | .audioRoute route => decide (route ≠ session.calls.audioRoute) && decide (route ≠ .earpiece)
    | _ => false

@[simp] theorem supersedes_refresh (preferences : Preferences) (event : Event) :
    (session.refresh preferences).supersedes event = session.supersedes event := rfl

structure Kept (before after : Session) : Prop where
  pending : after.pending = before.pending
  generation : after.generation = before.generation

/-- What was pending is dropped, and an activation in its place is numbered anew. -/
inductive Renewed (before after : Session) : Prop where
  | dropped (pending : after.pending = none) (generation : after.generation = before.generation)
  | replaced (activation : PendingActivation) (pending : after.pending = some activation)
      (numbered : activation.generation = before.generation + 1) (generation : after.generation = before.generation + 1)

theorem renewed_reroute (wantsSpeaker : Bool) : session.Renewed (session.reroute wantsSpeaker) := by
  cases judged : session.activation? wantsSpeaker with
  | none => exact .dropped judged (by simp [reroute, judged])
  | some activation =>
    have numbered : activation.generation = session.generation + 1 := by
      simp only [activation?] at judged
      split at judged
      · split at judged
        · cases judged
          rfl
        · cases judged
      · cases judged
    exact .replaced activation judged numbered (by simp [reroute, judged, numbered])

theorem kept_hear (hasSensor : Bool) (old new : CallState) (calls : CallList) :
    session.Kept (session.hear hasSensor old new calls) := by
  refine ⟨pending_hear hasSensor old new calls, ?_⟩
  simp only [hear, resubscribe]
  split <;> rfl

theorem Renewed.of_generation {middle : Session} (same : middle.generation = before.generation)
    (renewed : middle.Renewed after) : before.Renewed after := by
  cases renewed with
  | dropped pending generation => exact .dropped pending (generation.trans same)
  | replaced activation pending numbered generation =>
    rw [same] at numbered generation
    exact .replaced activation pending numbered generation

theorem work_of_unanswered {change : ChangeSet} (unanswered : change.outgoingAnswered = false) :
    session.work change = if change.resync then session.resync else session := by
  simp only [work, unanswered, Bool.false_eq_true, ↓reduceIte]

theorem renewed_work_of_answered {change : ChangeSet} (answered : change.outgoingAnswered = true) :
    session.Renewed (session.work change) := by
  rw [work_of_answered answered]
  have same : (if change.resync then session.resync else session).generation = session.generation := by
    split <;> rfl
  exact (renewed_reroute _).of_generation same

theorem kept_or_renewed_callState (hasSensor : Bool) (old new : CallState) (calls : CallList) :
    let change := session.calls.change old new calls
    if change.outgoingAnswered || (change.resync && !change.status.isOffhook) then
      session.Renewed ((session.hear hasSensor old new calls).work change)
    else session.Kept ((session.hear hasSensor old new calls).work change) := by
  intro change
  have heard : session.Kept (session.hear hasSensor old new calls) := kept_hear ..
  have offhook : (session.hear hasSensor old new calls).snapshot.isOffhook = change.status.isOffhook :=
    isOffhook_hear ..
  cases answered : change.outgoingAnswered with
  | true => exact (renewed_work_of_answered answered).of_generation heard.generation
  | false =>
    rw [work_of_unanswered answered]
    cases resyncs : change.resync with
    | false => exact heard
    | true =>
      cases ended : change.status.isOffhook with
      | true =>
        rw [ended] at offhook
        exact ⟨by simp [resync, offhook, heard.pending], heard.generation⟩
      | false =>
        rw [ended] at offhook
        exact .dropped (by simp [resync, offhook]) heard.generation

theorem kept_or_renewed_moveAudio (route : AudioRoute) :
    if decide (route ≠ session.calls.audioRoute) && decide (route ≠ .earpiece) then
      session.Renewed (session.moveAudio route)
    else session.Kept (session.moveAudio route) := by
  simp only [moveAudio]
  by_cases same : route = session.calls.audioRoute
  · rw [if_neg (by simp [same]), if_pos same]
    exact ⟨rfl, rfl⟩
  · rw [if_neg same]
    by_cases earpiece : route = .earpiece
    · rw [if_neg (by simp [earpiece])]
      exact ⟨by simp [earpiece], rfl⟩
    · rw [if_pos (by simp [same, earpiece])]
      exact .dropped (by simp [earpiece]) rfl

theorem kept_or_renewed_react (around : Surroundings) {event : Event} (running : session.tornDown = false) :
    if session.supersedes event then session.Renewed (session.react around event)
    else session.Kept (session.react around event) := by
  simp only [supersedes, running, Bool.not_false, Bool.true_and]
  cases event with
  | distance value =>
    have sensed : (session.sense value).generation = session.generation := rfl
    simp only [react]
    split
    · exact (renewed_reroute _).of_generation sensed
    · exact ⟨rfl, rfl⟩
  | callState old new calls => exact kept_or_renewed_callState around.hasSensor old new calls
  | audioRoute route => exact kept_or_renewed_moveAudio route
  | uiShowing showing =>
    have kept : session.Kept (session.react around (.uiShowing showing)) := by
      unfold react
      dsimp only
      split <;> exact ⟨rfl, rfl⟩
    exact kept
  | _ => exact ⟨rfl, rfl⟩

theorem kept_next (around : Surroundings) {event : Event} (calm : session.supersedes event = false)
    (going : event ≠ .tearDown)
    (undue : ∀ activation, session.pending = some activation → event ≠ .timer activation.generation) :
    session.Kept (session.next around event) := by
  simp only [next]
  cases running : session.tornDown with
  | true => exact ⟨rfl, rfl⟩
  | false =>
    have reacted : session.Kept ((session.refresh around.preferences).react around event) := by
      have decided : if (session.refresh around.preferences).supersedes event then _ else
          (session.refresh around.preferences).Kept _ := kept_or_renewed_react around running
      simp only [supersedes_refresh, calm, Bool.false_eq_true, ↓reduceIte] at decided
      exact ⟨decided.pending, decided.generation⟩
    cases event with
    | timer generation =>
      have waits : session.pending.any (·.generation = generation) = false := by
        cases pending : session.pending with
        | none => rfl
        | some activation =>
          have other := undue activation pending
          simp only [ne_eq, Event.timer.injEq] at other
          simpa using fun same => other same.symm
      exact ⟨by simp [fire, waits], by simp [fire, waits]⟩
    | tearDown => exact absurd rfl going
    | _ => exact reacted

theorem renewed_next (around : Surroundings) {event : Event} (superseded : session.supersedes event = true) :
    session.Renewed (session.next around event) := by
  have running : session.tornDown = false := by
    simp only [supersedes, Bool.and_eq_true, Bool.not_eq_true'] at superseded
    exact superseded.1
  have reacted : session.Renewed ((session.refresh around.preferences).react around event) := by
    have decided : if (session.refresh around.preferences).supersedes event then
        (session.refresh around.preferences).Renewed _ else _ := kept_or_renewed_react around running
    simp only [supersedes_refresh, superseded, ↓reduceIte] at decided
    have numbered : (session.refresh around.preferences).generation = session.generation := rfl
    exact decided.of_generation numbered
  simp only [next]
  rw [running]
  cases event with
  | timer _ | tearDown => simp [supersedes] at superseded
  | _ => exact reacted

/-- Whatever happens, the numbers only grow, and only a new number takes a free place. -/
theorem kept_or_renewed_next (around : Surroundings) (event : Event) :
    session.Kept (session.next around event) ∨ session.Renewed (session.next around event) := by
  cases superseded : session.supersedes event with
  | true => exact .inr (renewed_next around superseded)
  | false =>
    by_cases closing : event = .tearDown
    · subst event
      simp only [next]
      split
      · exact .inl ⟨rfl, rfl⟩
      · exact .inr (.dropped rfl rfl)
    · by_cases due : ∃ activation, session.pending = some activation ∧ event = .timer activation.generation
      · obtain ⟨activation, pending, rfl⟩ := due
        simp only [next]
        split
        · exact .inl ⟨rfl, rfl⟩
        · exact .inr (.dropped (by simp [fire, pending]) (by simp [fire, pending]))
      · refine .inl (kept_next around superseded closing ?_)
        exact fun activation pending same => due ⟨activation, pending, same⟩

/-- The activation waits for its timer, and is the last one. -/
structure Live (session : Session) (activation : PendingActivation) : Prop where
  running : session.tornDown = false
  pending : session.pending = some activation
  last : session.generation = activation.generation

/-- No activation of that number waits, and none will. -/
structure Dead (session : Session) (generation : Nat) : Prop where
  passed : generation ≤ session.generation
  gone : ∀ activation, session.pending = some activation → generation < activation.generation

theorem available_of_mem_routeRequests {wantsSpeaker : Bool} {request : Request}
    (asked : request ∈ session.routeRequests wantsSpeaker) : session.classifier.isAvailable = true := by
  simp only [routeRequests] at asked
  split at asked
  · next available => exact available
  · cases asked

theorem live_reroute {wantsSpeaker : Bool} {delay : UInt64} (running : session.tornDown = false)
    (asked : .schedule generation delay ∈ session.routeRequests wantsSpeaker) :
    ∃ target, (session.reroute wantsSpeaker).Live ⟨generation, target, delay⟩ := by
  simp only [routeRequests] at asked
  split at asked
  case isFalse => cases asked
  case isTrue available =>
    split at asked
    · cases asked
    · next held target decided =>
      obtain ⟨rfl, rfl⟩ : generation = session.generation + 1 ∧ delay = held := by simpa using asked
      have judged : session.activation? wantsSpeaker = some ⟨session.generation + 1, target, delay⟩ := by
        simp [activation?, available, decided]
      exact ⟨target, running, judged, by simp [reroute, judged]⟩
    · simp at asked

theorem live_of_mem_speakerRequests {around : Surroundings} {event : Event} {delay : UInt64}
    (asked : .schedule generation delay ∈ session.speakerRequests around event) :
    ∃ target, (session.next around event).Live ⟨generation, target, delay⟩ := by
  simp only [speakerRequests] at asked
  simp only [next]
  cases running : session.tornDown with
  | true => simp [running] at asked
  | false =>
    simp only [running, Bool.false_eq_true, ↓reduceIte] at asked ⊢
    cases event with
    | timer fired =>
      simp only [fireRequests] at asked
      grind
    | distance value =>
      have sensed : ((session.refresh around.preferences).sense value).tornDown = false := running
      have live := live_reroute sensed asked
      have available : (session.refresh around.preferences).classifier.isAvailable = true :=
        (isAvailable_sense value _).symm.trans (available_of_mem_routeRequests asked)
      simp only [react, available, ↓reduceIte]
      exact live
    | callState old new calls =>
      dsimp only at asked
      split at asked
      · next answered =>
        have heard : ((session.refresh around.preferences).hear around.hasSensor old new calls).tornDown = false :=
          (congrArg (·.2.1) (standing_hear around.hasSensor old new calls (session.refresh around.preferences))).trans
            running
        simp only [react, calls_refresh]
        rw [work_of_answered answered]
        split
        · exact live_reroute heard asked
        · exact live_reroute heard asked
      · cases asked
    | _ => cases asked

theorem Live.dead_of_renewed (live : before.Live activation) (renewed : before.Renewed after) :
    after.Dead activation.generation := by
  cases renewed with
  | dropped pending generation =>
    refine ⟨Nat.le_of_eq (live.last.symm.trans generation.symm), ?_⟩
    intro other waits
    cases pending.symm.trans waits
  | replaced fresh pending numbered generation =>
    refine ⟨by rw [generation, live.last]; omega, ?_⟩
    intro other waits
    cases pending.symm.trans waits
    rw [numbered, live.last]
    omega

theorem Dead.next (dead : session.Dead generation) (around : Surroundings) (event : Event) :
    (session.next around event).Dead generation := by
  rcases kept_or_renewed_next around event with kept | renewed
  · exact ⟨by rw [kept.generation]; exact dead.passed, by rw [kept.pending]; exact dead.gone⟩
  · have passed := dead.passed
    cases renewed with
    | dropped pending numbered =>
      refine ⟨by rw [numbered]; exact passed, ?_⟩
      intro other waits
      cases pending.symm.trans waits
    | replaced fresh pending numbered grown =>
      refine ⟨by omega, ?_⟩
      intro other waits
      cases pending.symm.trans waits
      omega

theorem Live.next (live : session.Live activation) (around : Surroundings) {event : Event}
    (calm : session.supersedes event = false) (going : event ≠ .tearDown)
    (undue : event ≠ .timer activation.generation) : (session.next around event).Live activation := by
  have kept : session.Kept (session.next around event) := by
    apply kept_next around calm going
    intro other waits
    cases live.pending.symm.trans waits
    exact undue
  exact ⟨(tornDown_next around session going).trans live.running, kept.pending.trans live.pending,
    kept.generation.trans live.last⟩

theorem Live.close (live : session.Live activation) (around : Surroundings) :
    (session.next around .tearDown).Dead activation.generation := by
  apply live.dead_of_renewed
  simp only [Session.next, live.running]
  exact .dropped rfl rfl

end Session

variable {World : Type} {platform : Platform World} {engine : Engine World} {activation : PendingActivation}
  {generation : Nat}

namespace Engine

theorem dead_step (dead : engine.session.Dead generation) (event : Event) :
    (engine.step platform event).session.Dead generation :=
  holds_step (·.Dead generation) (fun _ _ dead => { dead with }) (dead.next _ event)

theorem dead_after (dead : engine.session.Dead generation) (occurrences : List (Occurrence World)) :
    (engine.after platform occurrences).session.Dead generation :=
  (invariant_along (·.session.Dead generation) occurrences dead (fun _ _ _ dead => dead)
    (fun moment _ dead => dead_step dead moment.event)).1

theorem live_step {event : Event} (live : engine.session.Live activation)
    (calm : engine.session.supersedes event = false) (going : event ≠ .tearDown)
    (undue : event ≠ .timer activation.generation) : (engine.step platform event).session.Live activation :=
  holds_step (·.Live activation) (fun _ _ live => { live with }) (live.next _ calm going undue)

theorem dead_of_superseded {event : Event} (live : engine.session.Live activation)
    (superseded : engine.session.supersedes event = true) :
    (engine.step platform event).session.Dead activation.generation :=
  holds_step (·.Dead activation.generation) (fun _ _ dead => { dead with })
    (live.dead_of_renewed (Session.renewed_next _ superseded))

theorem dead_of_tearDown (live : engine.session.Live activation) :
    (engine.step platform .tearDown).session.Dead activation.generation ∧
      (engine.step platform .tearDown).session.tornDown = true := by
  have closed : (engine.step platform .tearDown).session = engine.session.close := session_tearDown live.running
  have dead := live.close (platform.surroundings engine.world)
  simp only [Session.next, live.running, Bool.false_eq_true, ↓reduceIte] at dead
  rw [closed]
  exact ⟨dead, rfl⟩

/-- Until its timer fires, an activation lives just as long as nothing supersedes it and the
session is not torn down. -/
theorem live_or_dead (occurrences : List (Occurrence World)) (live : engine.session.Live activation)
    (once : ∀ occurrence ∈ occurrences, occurrence.event ≠ .timer activation.generation) :
    ((engine.after platform occurrences).session.Live activation ∧
      ∀ moment ∈ engine.moments platform occurrences, moment.engine.session.supersedes moment.event = false) ∨
    ((engine.after platform occurrences).session.Dead activation.generation ∧
      ((engine.after platform occurrences).session.tornDown = true ∨
        ∃ moment ∈ engine.moments platform occurrences, moment.engine.session.supersedes moment.event = true)) := by
  induction occurrences generalizing engine with
  | nil => exact .inl ⟨live, fun _ absent => by cases absent⟩
  | cons occurrence rest ih =>
    have met : (engine.meet occurrence).engine.session.Live activation := live
    cases superseded : (engine.meet occurrence).engine.session.supersedes (engine.meet occurrence).event with
    | true =>
      -- The dead stay dead, so the rest of the run does not matter.
      have dead : ((engine.meet occurrence).after platform).session.Dead activation.generation :=
        dead_of_superseded met superseded
      exact .inr ⟨dead_after dead rest, .inr ⟨_, List.mem_cons_self .., superseded⟩⟩
    | false =>
      by_cases closing : occurrence.event = .tearDown
      · obtain ⟨dead, done⟩ : ((engine.meet occurrence).after platform).session.Dead activation.generation ∧
            ((engine.meet occurrence).after platform).session.tornDown = true := by
          have closes : (engine.meet occurrence).event = .tearDown := closing
          rw [Moment.after, closes]
          exact dead_of_tearDown met
        exact .inr ⟨dead_after dead rest, .inl (tornDown_along done rest).1⟩
      · have next : ((engine.meet occurrence).after platform).session.Live activation :=
          live_step met superseded closing (once occurrence (List.mem_cons_self ..))
        rcases ih next (fun other member => once other (List.mem_cons_of_mem _ member)) with
          ⟨last, calm⟩ | ⟨dead, done | ⟨moment, member, ended⟩⟩
        · refine .inl ⟨last, ?_⟩
          intro moment member
          rcases List.mem_cons.mp member with rfl | later
          · exact superseded
          · exact calm moment later
        · exact .inr ⟨dead, .inl done⟩
        · exact .inr ⟨dead, .inr ⟨moment, List.mem_cons_of_mem _ member, ended⟩⟩

theorem live_of_mem_requests {moment : Moment World} {delay : UInt64}
    (asked : .schedule generation delay ∈ moment.requests platform) :
    ∃ target, (moment.after platform).session.Live ⟨generation, target, delay⟩ := by
  have speaker : .schedule generation delay ∈ moment.engine.session.speakerRequests
      (platform.surroundings moment.engine.world) moment.event := by
    rw [← Moment.requests_of_asks (asks_step moment.event)]
    exact List.mem_filter.mpr ⟨asked, rfl⟩
  obtain ⟨target, live⟩ := Session.live_of_mem_speakerRequests speaker
  exact ⟨target, holds_step (·.Live ⟨generation, target, delay⟩) (fun _ _ live => { live with }) live⟩

theorem requests_timer_of_live (live : engine.session.Live activation) :
    (⟨engine, .timer activation.generation⟩ : Moment World).requests platform = [.setRoute activation.route] := by
  rw [Moment.requests_of_makes (makes_onTimer activation.generation live.running)]
  simp [Session.fireRequests, live.pending]

theorem silent_timer_of_dead (dead : engine.session.Dead generation) :
    (⟨engine, .timer generation⟩ : Moment World).requests platform = [] ∧
      (engine.onTimer platform generation).session = engine.session ∧
      (engine.onTimer platform generation).world = engine.world := by
  cases running : engine.session.tornDown with
  | true =>
    have still : engine.onTimer platform generation = engine := onTimer_of_tornDown generation running
    have makes : Makes platform [] engine (engine.onTimer platform generation) := by
      rw [still]
      exact .refl platform engine
    exact ⟨Moment.requests_of_makes makes, congrArg session still, congrArg world still⟩
  | false =>
    have spared : engine.session.pending.any (·.generation = generation) = false := by
      cases pending : engine.session.pending with
      | none => rfl
      | some other =>
        have later := dead.gone other pending
        simp only [Option.any_some, decide_eq_false_iff_not]
        omega
    have silent : engine.session.fireRequests generation = [] := by
      simp only [Session.fireRequests]
      cases pending : engine.session.pending with
      | none => rfl
      | some other => simpa [pending] using spared
    have makes : Makes platform _ engine (engine.onTimer platform generation) := makes_onTimer generation running
    rw [silent] at makes
    refine ⟨Moment.requests_of_makes makes, ?_, makes.world⟩
    rw [session_onTimer generation running]
    simp [Session.fire, spared]

end Engine

/-- A timer that fires puts audio where its activation meant to, once, if the session is not
torn down and nothing superseded the activation since. Otherwise it does nothing at all. -/
theorem timer_fires_iff_not_superseded (platform : Platform World) (config : ClassifierConfig) (world : World)
    (earlier : List (Occurrence World)) (scheduling : Occurrence World) (between : List (Occurrence World))
    (meanwhile : World → World) (generation : Nat) (delay : UInt64)
    (scheduled : .schedule generation delay ∈
      (((Engine.start platform config world).after platform earlier).meet scheduling).requests platform)
    (once : ∀ occurrence ∈ between, occurrence.event ≠ .timer generation) :
    let since := (((Engine.start platform config world).after platform earlier).meet scheduling).after platform
    let firing := (since.after platform between).meet ⟨meanwhile, .timer generation⟩
    let stands := firing.engine.session.tornDown = false ∧
      ∀ moment ∈ since.moments platform between, moment.engine.session.supersedes moment.event = false
    ∃ target, since.session.pending = some ⟨generation, target, delay⟩ ∧
      (firing.requests platform = [.setRoute target] ↔ stands) ∧
      (¬stands → firing.requests platform = [] ∧ (firing.after platform).session = firing.engine.session ∧
        (firing.after platform).world = firing.engine.world) := by
  intro since firing stands
  obtain ⟨target, live⟩ := Engine.live_of_mem_requests scheduled
  refine ⟨target, live.pending, ?_⟩
  rcases Engine.live_or_dead between live once with ⟨last, calm⟩ | ⟨dead, ended⟩
  · have standing : stands := ⟨last.running, calm⟩
    have met : firing.engine.session.Live ⟨generation, target, delay⟩ := last
    have fires : firing.requests platform = [.setRoute target] := Engine.requests_timer_of_live met
    exact ⟨iff_of_true fires standing, fun fallen => absurd standing fallen⟩
  · have met : firing.engine.session.Dead generation := dead
    obtain ⟨silent, sessionKept, worldKept⟩ : firing.requests platform = [] ∧
        (firing.after platform).session = firing.engine.session ∧
        (firing.after platform).world = firing.engine.world := Engine.silent_timer_of_dead met
    have fallen : ¬stands := by
      rintro ⟨running, calm⟩
      rcases ended with done | ⟨moment, member, superseded⟩
      · cases running.symm.trans done
      · cases (calm moment member).symm.trans superseded
    refine ⟨iff_of_false ?_ fallen, fun _ => ⟨silent, sessionKept, worldKept⟩⟩
    rw [silent]
    simp

theorem timer_fires_iff_not_superseded_answered :
    let platform := ({} : Scenario).platform
    let world : SimulatedWorld := { store := ({} : PreferenceStore).setBool PreferenceKey.autoSpeaker true }
    let dialing : List (Occurrence SimulatedWorld) := [⟨id, .callState .idle .outgoing {}⟩]
    let answered : Occurrence SimulatedWorld :=
      ⟨id, .callState .outgoing .inCall { hasLiveCall := true, activeCall := some { id := "a" } }⟩
    let between : List (Occurrence SimulatedWorld) := [⟨id, .timer 0⟩, ⟨id, .audioRoute .speaker⟩]
    let since := (((Engine.start platform {} world).after platform dialing).meet answered).after platform
    let firing := (since.after platform between).meet ⟨id, .timer 1⟩
    let stands := firing.engine.session.tornDown = false ∧
      ∀ moment ∈ since.moments platform between, moment.engine.session.supersedes moment.event = false
    ∃ target, since.session.pending = some ⟨1, target, 3000⟩ ∧
      (firing.requests platform = [.setRoute target] ↔ stands) ∧
      (¬stands → firing.requests platform = [] ∧ (firing.after platform).session = firing.engine.session ∧
        (firing.after platform).world = firing.engine.world) := by
  intro platform world dialing answered between
  have scheduled : .schedule 1 3000 ∈
      (((Engine.start platform {} world).after platform dialing).meet answered).requests platform := by
    decide
  have once : ∀ occurrence ∈ between, occurrence.event ≠ .timer 1 := by simp [between]
  exact timer_fires_iff_not_superseded platform {} world dialing answered between id 1 3000 scheduled once

end CallProximity
