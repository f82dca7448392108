import CallProximity.Proofs.PendingTimer
import CallProximity.Proofs.SimulatedRequests

/-! The pending activation and its timer on the clock of a simulation. While no time passes it stays, goes, or
gives way to one that was asked for meanwhile; a wait runs its timer just where it reaches the time at which
the timer is due. -/

namespace CallProximity

namespace Session

variable {session before middle after : Session} {generation : Nat} {delay held : UInt64}

theorem Renewed.grown (renewed : before.Renewed after) : before.generation ≤ after.generation := by
  cases renewed <;> omega

theorem Renewed.numbered {activation : PendingActivation} (renewed : before.Renewed after)
    (pending : after.pending = some activation) :
    before.generation < activation.generation ∧ activation.generation ≤ after.generation := by
  cases renewed with
  | dropped gone _ => cases gone.symm.trans pending
  | replaced fresh replaces numbered generation =>
    cases replaces.symm.trans pending
    omega

theorem schedule_mem_startRequests : .schedule generation delay ∈ before.cancelRequests ++ after.startRequests ↔
    ∃ activation, after.pending = some activation ∧ activation.generation = generation ∧ activation.delay = delay := by
  simp [cancelRequests, startRequests]

theorem delay_of_mem_routeRequests {wantsSpeaker : Bool}
    (asked : .schedule generation delay ∈ session.routeRequests wantsSpeaker) :
    delay = session.preferences.autoSpeakerDelay := by
  simp only [routeRequests, decideSpeaker] at asked
  grind

theorem delay_of_mem_speakerRequests {around : Surroundings} {event : Event}
    (asked : .schedule generation delay ∈ session.speakerRequests around event) :
    delay = around.preferences.autoSpeakerDelay := by
  simp only [speakerRequests] at asked
  split at asked
  · cases asked
  · cases event with
    | timer fired =>
      simp only [fireRequests] at asked
      grind
    | distance value => exact delay_of_mem_routeRequests asked
    | callState old new calls =>
      dsimp only at asked
      split at asked
      · have fresh : ((session.refresh around.preferences).hear around.hasSensor old new calls).preferences =
            around.preferences := congrArg (·.2.2.1) (standing_hear ..)
        rw [← fresh]
        exact delay_of_mem_routeRequests asked
      · cases asked
    | _ => cases asked

/-- While the clock stood at this time, with this delay in force, these requests were made. The pending
activation is the same and due as before, or one of a newer number that was asked for meanwhile. -/
structure Rearms (now : Nat) (delay : UInt64) (made : List Request) (before after : Session) (due next : Nat) : Prop where
  grown : before.generation ≤ after.generation
  started : ∀ generation held, .schedule generation held ∈ made →
    before.generation < generation ∧ generation ≤ after.generation ∧ held = delay
  pending : ∀ activation, after.pending = some activation → (before.pending = some activation ∧ next = due) ∨
    (.schedule activation.generation delay ∈ made ∧ before.generation < activation.generation ∧
      next = now + delay.toNat)

namespace Rearms

variable {now : Nat} {made more : List Request} {due between next : Nat}

theorem refl (session : Session) : Rearms now delay [] session session due due where
  grown := Nat.le_refl _
  started := fun _ _ asked => by cases asked
  pending := fun _ pending => .inl ⟨pending, rfl⟩

theorem trans (first : Rearms now delay made before middle due between)
    (last : Rearms now delay more middle after between next) : Rearms now delay (made ++ more) before after due next where
  grown := Nat.le_trans first.grown last.grown
  started := by
    intro generation held asked
    rcases List.mem_append.mp asked with early | late
    · obtain ⟨newer, passed, same⟩ := first.started generation held early
      exact ⟨newer, Nat.le_trans passed last.grown, same⟩
    · obtain ⟨newer, passed, same⟩ := last.started generation held late
      exact ⟨Nat.lt_of_le_of_lt first.grown newer, passed, same⟩
  pending := by
    intro activation pending
    rcases last.pending activation pending with ⟨stayed, rfl⟩ | ⟨asked, newer, later⟩
    · rcases first.pending activation stayed with kept | ⟨asked, newer, later⟩
      · exact .inl kept
      · exact .inr ⟨List.mem_append_left _ asked, newer, later⟩
    · exact .inr ⟨List.mem_append_right _ asked, Nat.lt_of_le_of_lt first.grown newer, later⟩

theorem of_unstarted {other : Nat} {wait : UInt64} (rearms : Rearms now delay made before after due next)
    (unstarted : ∀ request ∈ made, request.isForSpeaker = false) : Rearms other wait made before after due next where
  grown := rearms.grown
  started := fun generation held asked => by cases unstarted _ asked
  pending := by
    intro activation pending
    rcases rearms.pending activation pending with kept | ⟨asked, -⟩
    · exact .inl kept
    · cases unstarted _ asked

theorem pending_of_unstarted (rearms : Rearms now delay made before after due next)
    (unstarted : ∀ request ∈ made, request.isForSpeaker = false) (idle : before.pending = none) :
    after.pending = none := by
  apply Option.eq_none_iff_forall_ne_some.mpr
  intro activation pending
  rcases rearms.pending activation pending with ⟨waits, -⟩ | ⟨asked, -⟩
  · cases idle.symm.trans waits
  · cases unstarted _ asked

end Rearms

end Session

namespace Simulation

variable {scenario : Scenario} {simulation : Simulation} {due : Nat}

/-- The delay that an event would load. -/
def delay (simulation : Simulation) : UInt64 :=
  (Preferences.load simulation.world.store.source).autoSpeakerDelay

theorem delay_of_mem_requestsAt {event : Event} {generation : Nat} {held : UInt64}
    (platform : simulation.platform = scenario.platform)
    (asked : .schedule generation held ∈ simulation.requestsAt event) : held = simulation.delay := by
  have speaker : .schedule generation held ∈ (simulation.requestsAt event).filter Request.isForSpeaker :=
    List.mem_filter.mpr ⟨asked, rfl⟩
  rw [requestsAt, Moment.requests_of_asks (Engine.asks_step event), platform] at speaker
  exact Session.delay_of_mem_speakerRequests speaker

theorem timers_deliver (platform : simulation.platform = scenario.platform) (event : Event) :
    (simulation.deliver event).world.timers = (simulation.engine.session.timerRequests
      (simulation.platform.surroundings simulation.engine.world) event).foldl TimerTable.obey simulation.world.timers := by
  have asks : Engine.Asks simulation.platform Request.isForTimer _ simulation.engine (simulation.deliver event).engine :=
    Engine.asks_timer_step event
  rw [platform] at asks ⊢
  exact Scenario.timers_of_asks asks

theorem mem_requestsAt_of_isForTimer {event : Event} {request : Request} (timer : request.isForTimer = true) :
    request ∈ simulation.requestsAt event ↔ request ∈ simulation.engine.session.timerRequests
      (simulation.platform.surroundings simulation.engine.world) event := by
  have asked : (simulation.requestsAt event).filter Request.isForTimer = _ :=
    Moment.requests_of_asks (Engine.asks_timer_step event)
  rw [← asked, List.mem_filter]
  simp [timer]

theorem rearms_deliver (platform : simulation.platform = scenario.platform)
    (timed : simulation.engine.session.TimedBy simulation.world.timers due) (event : Event)
    (untimed : ∀ generation, event ≠ .timer generation) : ∃ next,
    (simulation.deliver event).engine.session.TimedBy (simulation.deliver event).world.timers next ∧
      simulation.engine.session.Rearms simulation.world.timers.now simulation.delay (simulation.requestsAt event)
        (simulation.deliver event).engine.session due next := by
  have moved := timers_deliver platform event
  have held {generation : Nat} {held : UInt64} (asked : .schedule generation held ∈ simulation.requestsAt event) :
      held = simulation.delay := delay_of_mem_requestsAt platform asked
  have timers {generation : Nat} {held : UInt64} : .schedule generation held ∈ simulation.requestsAt event ↔ _ :=
    mem_requestsAt_of_isForTimer rfl
  -- The last answered call is nothing to the timers.
  apply Engine.holds_step (fun session => ∃ next, session.TimedBy (simulation.deliver event).world.timers next ∧
    simulation.engine.session.Rearms simulation.world.timers.now simulation.delay (simulation.requestsAt event)
      session due next)
  · rintro call session ⟨next, timed, rearms⟩
    exact ⟨next, { timed with }, { rearms with }⟩
  rw [moved]
  rcases Session.kept_or_renewed_of_untimed (simulation.platform.surroundings simulation.engine.world) untimed with
    ⟨kept, silent⟩ | ⟨renewed, asked⟩
  · rw [silent] at timers ⊢
    refine ⟨due, timed.kept kept, Nat.le_of_eq kept.generation.symm, ?_, ?_⟩
    · intro generation held asked
      cases timers.mp asked
    · rw [kept.pending]
      exact fun activation pending => .inl ⟨pending, rfl⟩
  · rw [asked] at timers ⊢
    obtain ⟨next, timedAfter, later⟩ := timed.renewed renewed
    refine ⟨next, timedAfter, renewed.grown, ?_, ?_⟩
    · intro generation delay asked
      have same := held asked
      obtain ⟨activation, pending, rfl, -⟩ := Session.schedule_mem_startRequests.mp (timers.mp asked)
      exact ⟨(renewed.numbered pending).1, (renewed.numbered pending).2, same⟩
    · intro activation pending
      have asked : .schedule activation.generation activation.delay ∈ simulation.requestsAt event :=
        timers.mpr (Session.schedule_mem_startRequests.mpr ⟨activation, pending, rfl, rfl⟩)
      rw [← held asked]
      exact .inr ⟨asked, (renewed.numbered pending).1, later activation pending⟩

/-- Routes that are reported back start no timer, so that it may be any time with any delay in force. -/
theorem rearms_settle (platform : simulation.platform = scenario.platform)
    (timed : simulation.engine.session.TimedBy simulation.world.timers due) : ∃ made next,
    simulation.settle.engine.requests = simulation.engine.requests ++ made ∧
      (∀ request ∈ made, request.isForSpeaker = false) ∧
      simulation.settle.engine.session.TimedBy simulation.settle.world.timers next ∧
      ∀ now delay, simulation.engine.session.Rearms now delay made simulation.settle.engine.session due next := by
  cases requested : simulation.world.requestedRoute with
  | none =>
    rw [settle_of_unrequested requested]
    exact ⟨[], due, by simp, by simp, timed, fun _ _ => .refl _⟩
  | some route =>
    rw [settle_of_requested platform requested]
    have cleared : (simulation.changeWorld ({ · with requestedRoute := none })).platform = scenario.platform := platform
    obtain ⟨next, timedAfter, rearms⟩ := rearms_deliver cleared timed (.audioRoute route) (by simp)
    have unstarted : ∀ request ∈ (simulation.changeWorld ({ · with requestedRoute := none })).requestsAt
        (.audioRoute route), request.isForSpeaker = false := fun _ => Moment.isForSpeaker_of_mem_audioRoute
    exact ⟨_, next, (makes_deliver _).requests, unstarted, timedAfter, fun _ _ => rearms.of_unstarted unstarted⟩

/-- A session on the devices of a scenario, with no route left to report, that waits for one timer at most. It
is due at this time. -/
structure Waits (scenario : Scenario) (due : Nat) (simulation : Simulation) : Prop where
  platform : simulation.platform = scenario.platform
  idle : simulation.world.requestedRoute = none
  poised : simulation.engine.session.Poised
  timed : simulation.engine.session.TimedBy simulation.world.timers due

/-- A wait for this time goes past the one at which the timer of the pending activation is due. -/
structure Reaches (due : Nat) (time : UInt64) (activation : PendingActivation) (simulation : Simulation) : Prop where
  pending : simulation.engine.session.pending = some activation
  passes : 0 < time.toNat
  overdue : due < simulation.world.timers.now + time.toNat

theorem asked_of_requests {step : ScenarioStep} {made : List Request}
    (grown : (simulation.step step).engine.requests = simulation.engine.requests ++ made) :
    simulation.asked step = made := by
  rw [asked, grown, List.drop_left]

theorem poised_step (poised : simulation.engine.session.Poised) (step : ScenarioStep) :
    (simulation.step step).engine.session.Poised :=
  invariant_step (·.engine.session.Poised) (fun _ event poised => Engine.poised_step poised event)
    (fun _ _ poised => poised) poised step

theorem timers_prepare {step : ScenarioStep} (unwaited : ∀ time, step ≠ .wait time) :
    (simulation.prepare step).world.timers = simulation.world.timers := by
  cases step with
  | display id isOn =>
    simp only [prepare]
    split <;> rfl
  | wait time => exact absurd rfl (unwaited time)
  | _ => rfl

/-- But for waits, a step has the session told of one event at most, with the preferences that it finds. -/
theorem events_of_unwaited {step : ScenarioStep} (unwaited : ∀ time, step ≠ .wait time) :
    simulation.events step = [] ∨ ∃ event, simulation.events step = [event] ∧ (∀ generation, event ≠ .timer generation) ∧
      (simulation.prepare step).world.store = simulation.world.store := by
  cases step with
  | proximity distance =>
    simp only [events]
    split
    · exact .inr ⟨_, rfl, by simp, rfl⟩
    · exact .inl rfl
  | accelerometer x y z =>
    cases report : (simulation.sample x y z).1 with
    | none => exact .inl (by simp [events, report])
    | some value => exact .inr ⟨.orientation value, by simp [events, report], by simp, rfl⟩
  | display id isOn =>
    refine .inr ⟨_, rfl, by simp, ?_⟩
    simp only [prepare]
    split <;> rfl
  | preference key value => exact .inl rfl
  | wait time => exact absurd rfl (unwaited time)
  | _ => exact .inr ⟨_, rfl, by simp, rfl⟩

theorem speaker_not_mem_requestsAt {event : Event} (untimed : ∀ generation, event ≠ .timer generation) :
    .setRoute .speaker ∉ simulation.requestsAt event := by
  intro asked
  rcases Session.setRoute_of_mem_speakerRequests (Moment.setRoute_mem_requests asked) with ⟨_, timed, -⟩ | ⟨ear, -⟩
  · exact untimed _ timed
  · cases ear

theorem rearms_settled (platform : simulation.platform = scenario.platform)
    (timed : simulation.engine.session.TimedBy simulation.world.timers due) (event : Event)
    (untimed : ∀ generation, event ≠ .timer generation) : ∃ made next,
    (simulation.deliver event).settle.engine.requests = simulation.engine.requests ++ made ∧
      .setRoute .speaker ∉ made ∧
      (simulation.deliver event).settle.engine.session.TimedBy (simulation.deliver event).settle.world.timers next ∧
      simulation.engine.session.Rearms simulation.world.timers.now simulation.delay made
        (simulation.deliver event).settle.engine.session due next := by
  obtain ⟨between, told, first⟩ := rearms_deliver platform timed event untimed
  have delivered : (simulation.deliver event).platform = scenario.platform := platform
  obtain ⟨reported, next, grown, quiet, settled, last⟩ := rearms_settle delivered told
  refine ⟨simulation.requestsAt event ++ reported, next, ?_, ?_, settled, first.trans (last _ _)⟩
  · rw [grown, (makes_deliver event).requests, List.append_assoc]
  · intro asked
    rcases List.mem_append.mp asked with early | late
    · exact speaker_not_mem_requestsAt untimed early
    · cases quiet _ late

theorem deliver_timer {activation : PendingActivation} (platform : simulation.platform = scenario.platform)
    (running : simulation.engine.session.tornDown = false)
    (pending : simulation.engine.session.pending = some activation) :
    (simulation.deliver (.timer activation.generation)).engine.session =
        { simulation.engine.session with pending := none } ∧
      (simulation.deliver (.timer activation.generation)).engine.requests =
        simulation.engine.requests ++ [.setRoute activation.route] ∧
      (simulation.deliver (.timer activation.generation)).world.timers = simulation.world.timers := by
  refine ⟨?_, ?_, ?_⟩
  · have fired : (simulation.deliver (.timer activation.generation)).engine.session = _ :=
      Engine.session_onTimer activation.generation running
    rw [fired]
    simp [Session.fire, pending]
  · have makes : Engine.Makes simulation.platform _ simulation.engine
        (simulation.deliver (.timer activation.generation)).engine :=
      Engine.makes_onTimer activation.generation running
    rw [makes.requests]
    simp [Session.fireRequests, pending]
  · rw [timers_deliver platform]
    simp [Session.timerRequests, Session.supersedes]

namespace Waits

variable (waits : simulation.Waits scenario due)

include waits

theorem unwaited {step : ScenarioStep} (unwaited : ∀ time, step ≠ .wait time) : ∃ made next,
    (simulation.step step).engine.requests = simulation.engine.requests ++ made ∧ .setRoute .speaker ∉ made ∧
      (simulation.step step).engine.session.TimedBy (simulation.step step).world.timers next ∧
      simulation.engine.session.Rearms simulation.world.timers.now simulation.delay made
        (simulation.step step).engine.session due next := by
  cases skips : simulation.skipsSettling step with
  | true =>
    rw [step_of_skipsSettling skips]
    exact ⟨[], due, by simp, by simp, waits.timed, .refl _⟩
  | false =>
    have platform : (simulation.prepare step).platform = scenario.platform :=
      (platform_prepare step).trans waits.platform
    have session : (simulation.prepare step).engine.session = simulation.engine.session := session_prepare step
    have requests : (simulation.prepare step).engine.requests = simulation.engine.requests := requests_prepare step
    have timers : (simulation.prepare step).world.timers = simulation.world.timers := timers_prepare unwaited
    have timed : (simulation.prepare step).engine.session.TimedBy (simulation.prepare step).world.timers due := by
      rw [session, timers]
      exact waits.timed
    rw [step_of_settled skips]
    rcases simulation.events_of_unwaited unwaited with none | ⟨event, told, untimed, store⟩
    · rw [none, List.foldl_nil, settle_of_unrequested ((requestedRoute_prepare step).trans waits.idle), requests]
      refine ⟨[], due, by simp, by simp, timed, ?_⟩
      rw [session]
      exact .refl _
    · have settled := rearms_settled platform timed event untimed
      rw [session, requests, timers, delay, store] at settled
      rw [told]
      exact settled

theorem after {next : Nat} (step : ScenarioStep)
    (timed : (simulation.step step).engine.session.TimedBy (simulation.step step).world.timers next) :
    (simulation.step step).Waits scenario next where
  platform := (platform_step step).trans waits.platform
  idle := requestedRoute_step waits.platform waits.idle step
  poised := poised_step waits.poised step
  timed := timed

theorem step_of_unreached {time : UInt64} (unreached : ∀ activation, ¬simulation.Reaches due time activation) :
    simulation.step (.wait time) = simulation.prepare (.wait time) ∧ (simulation.step (.wait time)).Waits scenario due := by
  obtain ⟨silent, timed⟩ := waits.timed.wait_of_unreached fun activation pending ⟨passes, overdue⟩ =>
    unreached activation ⟨pending, passes, overdue⟩
  have still : simulation.step (.wait time) = simulation.prepare (.wait time) := by
    have told : simulation.events (.wait time) = [] := by simp only [events, silent, List.map_nil]
    rw [step_of_settled rfl, told, List.foldl_nil, settle_of_unrequested ((requestedRoute_prepare _).trans waits.idle)]
  refine ⟨still, waits.after _ ?_⟩
  rw [still]
  exact timed

theorem asked_of_unreached {time : UInt64} (unreached : ∀ activation, ¬simulation.Reaches due time activation) :
    simulation.asked (.wait time) = [] := by
  apply asked_of_requests
  rw [(waits.step_of_unreached unreached).1, requests_prepare, List.append_nil]

theorem step_of_reached {time : UInt64} {activation : PendingActivation}
    (reaches : simulation.Reaches due time activation) : simulation.step (.wait time) =
      ((simulation.prepare (.wait time)).deliver (.timer activation.generation)).settle := by
  obtain ⟨runs, -⟩ := waits.timed.wait_of_reached reaches.passes reaches.overdue
  have counted := waits.timed.counted activation reaches.pending
  have told : simulation.events (.wait time) = [.timer activation.generation] := by
    simp only [events, runs, reaches.pending, Option.toList_some, List.map_cons, List.map_nil]
    rw [Nat.sub_add_cancel counted]
  rw [step_of_settled rfl, told]
  rfl

theorem fires {time : UInt64} {activation : PendingActivation}
    (reaches : simulation.Reaches due time activation) : ∃ made next,
    (simulation.step (.wait time)).engine.requests = simulation.engine.requests ++ .setRoute .speaker :: made ∧
      (∀ request ∈ made, request.isForSpeaker = false) ∧
      (simulation.step (.wait time)).engine.session.pending = none ∧
      (simulation.step (.wait time)).engine.session.TimedBy (simulation.step (.wait time)).world.timers next ∧
      simulation.engine.session.Rearms simulation.world.timers.now simulation.delay (.setRoute .speaker :: made)
        (simulation.step (.wait time)).engine.session due next := by
  rw [waits.step_of_reached reaches]
  have prepared : (simulation.prepare (.wait time)).platform = scenario.platform := waits.platform
  have awaits := waits.poised.awaits activation reaches.pending
  obtain ⟨session, requests, timers⟩ := deliver_timer prepared awaits.running reaches.pending
  have idle : ((simulation.prepare (.wait time)).world.timers).awaiting = [] :=
    (waits.timed.wait_of_reached reaches.passes reaches.overdue).2
  have numbered : (simulation.prepare (.wait time)).world.timers.timers.length = simulation.engine.session.generation :=
    (TimerTable.length_wait _).trans waits.timed.numbered
  have fired : ((simulation.prepare (.wait time)).deliver (.timer activation.generation)).platform = scenario.platform :=
    prepared
  generalize (simulation.prepare (.wait time)).deliver (.timer activation.generation) = after at *
  have timed : after.engine.session.TimedBy after.world.timers 0 := by
    rw [session, timers]
    exact ⟨numbered, fun _ pending => (by cases pending), idle⟩
  obtain ⟨made, next, grown, quiet, settled, last⟩ := rearms_settle fired timed
  have gone : after.engine.session.pending = none := by rw [session]
  refine ⟨made, next, ?_, quiet, (last 0 0).pending_of_unstarted quiet gone, settled, ?_⟩
  · rw [grown, requests, awaits.speaker, List.append_assoc]
    rfl
  · have first : simulation.engine.session.Rearms simulation.world.timers.now simulation.delay [.setRoute .speaker]
        after.engine.session due 0 := by
      rw [session]
      exact ⟨Nat.le_refl _, fun _ _ asked => (by simp at asked), fun _ pending => (by cases pending)⟩
    exact first.trans (last _ _)

theorem step (step : ScenarioStep) : ∃ next, (simulation.step step).Waits scenario next ∧
    simulation.engine.session.Rearms simulation.world.timers.now simulation.delay (simulation.asked step)
      (simulation.step step).engine.session due next := by
  by_cases waited : ∃ time, step = .wait time
  · obtain ⟨time, rfl⟩ := waited
    by_cases reached : ∃ activation, simulation.Reaches due time activation
    · obtain ⟨activation, reaches⟩ := reached
      obtain ⟨made, next, grown, -, -, timed, rearms⟩ := waits.fires reaches
      rw [asked_of_requests grown]
      exact ⟨next, waits.after _ timed, rearms⟩
    · rw [not_exists] at reached
      obtain ⟨still, after⟩ := waits.step_of_unreached reached
      rw [waits.asked_of_unreached reached, still, session_prepare]
      rw [still] at after
      exact ⟨due, after, .refl _⟩
  · obtain ⟨made, next, grown, -, timed, rearms⟩ := waits.unwaited fun time same => waited ⟨time, same⟩
    rw [asked_of_requests grown]
    exact ⟨next, waits.after step timed, rearms⟩

end Waits

theorem waits_start (scenario : Scenario) : (start scenario).Waits scenario 0 where
  platform := rfl
  idle := congrArg SimulatedWorld.requestedRoute (world_start scenario)
  poised := Engine.poised_start scenario.platform {} _
  timed := by
    rw [world_start]
    simp only [start, Engine.session_start]
    exact ⟨rfl, fun _ pending => (by cases pending), rfl⟩

theorem waits_run (scenario : Scenario) (steps : List ScenarioStep) :
    ∃ due, ((start scenario).run steps).Waits scenario due := by
  induction steps using List.reverseRecOn with
  | nil => exact ⟨0, waits_start scenario⟩
  | append_singleton first last ih =>
    obtain ⟨due, waits⟩ := ih
    obtain ⟨next, after, -⟩ := waits.step last
    rw [run_concat]
    exact ⟨next, after⟩

end Simulation

end CallProximity
