import CallProximity.Proofs.SimulatedRequests
import CallProximity.Proofs.SpeakerRoute

/-! A route that the session asks for is reported back to it once the step is over. A report asks for no
route, so that the loop of reports ends after one round, and the session knows audio to be where it was told
or asked to be last. -/

namespace CallProximity

def Event.route? : Event → Option AudioRoute
  | .audioRoute route => some route
  | _ => none

def ScenarioStep.route? (step : ScenarioStep) : Option AudioRoute :=
  step.event?.bind Event.route?

namespace Session

variable {session : Session}

theorem audioRoute_hear (hasSensor : Bool) (old new : CallState) (calls : CallList) :
    (session.hear hasSensor old new calls).snapshot.audioRoute = session.snapshot.audioRoute := by
  simp only [hear, resubscribe]
  split <;> rfl

theorem audioRoute_moveAudio (coherent : session.Coherent) (route : AudioRoute) :
    (session.moveAudio route).snapshot.audioRoute = route := by
  simp only [moveAudio]
  split
  · next same => exact coherent.route.trans same.symm
  · rfl

theorem audioRoute_next (coherent : session.Coherent) (running : session.tornDown = false) (around : Surroundings)
    (event : Event) : (session.next around event).snapshot.audioRoute = event.route?.getD session.snapshot.audioRoute := by
  simp only [next, running, Bool.false_eq_true, ↓reduceIte]
  cases event with
  | distance value =>
    simp only [react]
    split <;> rfl
  | callState old new calls =>
    simp only [react]
    have worked (change : ChangeSet) (session : Session) :
        (session.work change).snapshot.audioRoute = session.snapshot.audioRoute :=
      @kept_work _ (fun session => session.snapshot.audioRoute) (fun _ => rfl) (fun _ _ => rfl) change session
    exact (worked ..).trans (audioRoute_hear ..)
  | audioRoute route => exact audioRoute_moveAudio (coherent.refresh around.preferences) route
  | uiShowing showing =>
    simp only [react]
    split <;> rfl
  | timer generation =>
    simp only [fire]
    split <;> rfl
  | _ => rfl

end Session

namespace Simulation

variable {scenario : Scenario} {simulation before middle after : Simulation}

/-- Routes are reported back for as long as one is left, and for so many rounds. -/
inductive Settles : Simulation → Nat → Simulation → Prop where
  | done {simulation : Simulation} (idle : simulation.world.requestedRoute = none) : Settles simulation 0 simulation
  | round {simulation last : Simulation} {route : AudioRoute} {rounds : Nat}
      (requested : simulation.world.requestedRoute = some route) (rest : Settles (simulation.report route) rounds last) :
      Settles simulation (rounds + 1) last

theorem settles_settle (platform : simulation.platform = scenario.platform) :
    ∃ rounds ≤ 1, simulation.Settles rounds simulation.settle := by
  cases requested : simulation.world.requestedRoute with
  | none =>
    rw [settle_of_unrequested requested]
    exact ⟨0, by omega, .done requested⟩
  | some route =>
    rw [settle_of_requested platform requested]
    exact ⟨1, by omega, .round requested (.done (requestedRoute_report platform route))⟩

theorem Settles.unique {first second : Nat} {last other : Simulation} (settles : simulation.Settles first last)
    (again : simulation.Settles second other) : first = second ∧ last = other := by
  induction settles generalizing second other with
  | done idle =>
    cases again with
    | done _ => exact ⟨rfl, rfl⟩
    | round requested _ => cases idle.symm.trans requested
  | round requested _ ih =>
    cases again with
    | done idle => cases idle.symm.trans requested
    | round same rest =>
      cases requested.symm.trans same
      obtain ⟨rfl, rfl⟩ := ih rest
      exact ⟨rfl, rfl⟩

/-- Where a step says that audio is, and where it adds to the transcript that audio is asked to. -/
def routesAt (simulation : Simulation) (step : ScenarioStep) : List AudioRoute :=
  step.route?.toList ++ (simulation.entries step).filterMap AudioRoute.ofEntry?

/-- Where steps say that audio is and the transcript that it is asked to, in order. -/
def routes (simulation : Simulation) : List ScenarioStep → List AudioRoute
  | [] => []
  | step :: rest => simulation.routesAt step ++ (simulation.step step).routes rest

theorem routes_concat (first : List ScenarioStep) (last : ScenarioStep) :
    simulation.routes (first ++ [last]) = simulation.routes first ++ (simulation.run first).routesAt last := by
  induction first generalizing simulation with
  | nil => simp [routes, run]
  | cons step first ih =>
    simp only [List.cons_append, routes, ih, List.append_assoc]
    rfl

/-- Where audio is, or is about to be. -/
def heading (simulation : Simulation) : AudioRoute :=
  simulation.world.requestedRoute.getD simulation.engine.session.snapshot.audioRoute

/-- A part of a step asks for these routes, and audio heads for the last of them. -/
structure Heads (routes : List AudioRoute) (before after : Simulation) : Prop where
  asked : ∃ made, after.engine.requests = before.engine.requests ++ made ∧ made.filterMap Request.route? = routes
  heading : after.heading = routes.getLast?.getD before.heading

structure Attends (scenario : Scenario) (simulation : Simulation) : Prop where
  platform : simulation.platform = scenario.platform
  running : simulation.engine.session.tornDown = false
  coherent : simulation.engine.session.Coherent

namespace Heads

variable {routes more : List AudioRoute}

theorem refl (simulation : Simulation) : simulation.Heads [] simulation where
  asked := ⟨[], by simp, rfl⟩
  heading := rfl

theorem trans (first : before.Heads routes middle) (last : middle.Heads more after) :
    before.Heads (routes ++ more) after where
  asked := by
    obtain ⟨made, requests, rfl⟩ := first.asked
    obtain ⟨later, grown, rfl⟩ := last.asked
    exact ⟨made ++ later, by rw [grown, requests, List.append_assoc], List.filterMap_append⟩
  heading := by
    rw [last.heading, first.heading, List.getLast?_append]
    cases more.getLast? <;> rfl

end Heads

namespace Attends

variable (attends : simulation.Attends scenario)

include attends

theorem changeWorld (change : SimulatedWorld → SimulatedWorld) : (simulation.changeWorld change).Attends scenario :=
  ⟨attends.platform, attends.running, attends.coherent⟩

theorem deliver {event : Event} (going : event ≠ .tearDown) : (simulation.deliver event).Attends scenario where
  platform := attends.platform
  running := (Engine.tornDown_step going).trans attends.running
  coherent := Engine.coherent_step attends.coherent event

theorem audioRoute_deliver (event : Event) : (simulation.deliver event).engine.session.snapshot.audioRoute =
    event.route?.getD simulation.engine.session.snapshot.audioRoute := by
  simp only [Simulation.deliver]
  rw [Engine.snapshot_step, Session.audioRoute_next attends.coherent attends.running]

theorem heads_deliver {event : Event} (untold : event.route? = none) :
    simulation.Heads ((simulation.requestsAt event).filterMap Request.route?) (simulation.deliver event) where
  asked := ⟨_, (makes_deliver event).requests, rfl⟩
  heading := by
    rw [heading, requestedRoute_deliver attends.platform, attends.audioRoute_deliver, untold, heading]
    cases ((simulation.requestsAt event).filterMap Request.route?).getLast? <;> rfl

theorem heading_of_audioRoute (idle : simulation.world.requestedRoute = none) (route : AudioRoute) :
    (simulation.deliver (.audioRoute route)).world.requestedRoute = none ∧
      (simulation.deliver (.audioRoute route)).heading = route := by
  have still : (simulation.deliver (.audioRoute route)).world.requestedRoute = none := by
    rw [requestedRoute_deliver attends.platform, filterMap_requestsAt_audioRoute, idle]
    rfl
  refine ⟨still, ?_⟩
  rw [heading, still, attends.audioRoute_deliver]
  rfl

theorem heads_settle : simulation.Heads [] simulation.settle := by
  cases requested : simulation.world.requestedRoute with
  | none =>
    rw [settle_of_unrequested requested]
    exact .refl simulation
  | some route =>
    rw [settle_of_requested attends.platform requested]
    obtain ⟨made, grown, spared⟩ := simulation.requests_report route
    refine ⟨⟨made, grown, Request.filterMap_route?_eq_nil spared⟩, ?_⟩
    have cleared := attends.changeWorld ({ · with requestedRoute := none })
    rw [report, (cleared.heading_of_audioRoute rfl route).2, heading, requested]
    rfl

theorem tell {events : List Event} (calm : ∀ event ∈ events, event ≠ .tearDown ∧ event.route? = none) :
    (events.foldl Simulation.deliver simulation).Attends scenario ∧
      ∃ routes, simulation.Heads routes (events.foldl Simulation.deliver simulation) := by
  induction events generalizing simulation with
  | nil => exact ⟨attends, [], .refl simulation⟩
  | cons event rest ih =>
    obtain ⟨going, untold⟩ := calm event (List.mem_cons_self ..)
    obtain ⟨attended, routes, heads⟩ :=
      ih (attends.deliver going) fun other member => calm other (List.mem_cons_of_mem _ member)
    exact ⟨attended, _, (attends.heads_deliver untold).trans heads⟩

theorem settle : simulation.settle.Attends scenario := by
  apply invariant_settle _ attends
  intro simulation route attends
  exact (attends.changeWorld ({ · with requestedRoute := none })).deliver (by simp)

end Attends

theorem calm_of_mem_events {step : ScenarioStep} (untold : step.route? = none) (going : step ≠ .teardown) {event : Event}
    (told : event ∈ simulation.events step) : event ≠ .tearDown ∧ event.route? = none := by
  cases step with
  | proximity distance =>
    simp only [events] at told
    split at told
    · cases List.mem_singleton.mp told
      exact ⟨by simp, rfl⟩
    · cases told
  | accelerometer x y z =>
    obtain ⟨value, -, rfl⟩ := List.mem_map.mp told
    exact ⟨by simp, rfl⟩
  | wait time =>
    obtain ⟨index, -, rfl⟩ := List.mem_map.mp told
    exact ⟨by simp, rfl⟩
  | audioRoute route => cases untold
  | teardown => exact absurd rfl going
  | preference key value => cases told
  | _ =>
    cases List.mem_singleton.mp told
    exact ⟨by simp, rfl⟩

theorem eq_audioRoute_of_route? {step : ScenarioStep} {route : AudioRoute} (told : step.route? = some route) :
    step = .audioRoute route := by
  cases step with
  | audioRoute told => simpa [ScenarioStep.route?, ScenarioStep.event?, Event.route?] using told
  | _ => cases told

theorem Heads.routesAt_eq {routes : List AudioRoute} {step : ScenarioStep}
    (heads : simulation.Heads routes (simulation.step step)) :
    simulation.routesAt step = step.route?.toList ++ routes := by
  obtain ⟨made, grown, rfl⟩ := heads.asked
  rw [routesAt, filterMap_entries, Simulation.asked, grown, List.drop_left]

namespace Attends

variable (attends : simulation.Attends scenario)

include attends

theorem prepare (step : ScenarioStep) :
    (simulation.prepare step).Attends scenario ∧ simulation.Heads [] (simulation.prepare step) := by
  refine ⟨?_, ⟨[], ?_, rfl⟩, ?_⟩
  · rw [prepare_eq]
    exact attends.changeWorld _
  · rw [requests_prepare, List.append_nil]
  · rw [heading, requestedRoute_prepare, session_prepare]
    rfl

theorem step {step : ScenarioStep} (going : step ≠ .teardown) (idle : simulation.world.requestedRoute = none) :
    (simulation.step step).Attends scenario ∧
      (simulation.step step).heading = (simulation.routesAt step).getLast?.getD simulation.heading := by
  cases skips : simulation.skipsSettling step with
  | true =>
    have still : simulation.step step = simulation := step_of_skipsSettling skips
    have silent : step.route? = none := by
      cases step with
      | accelerometer x y z => rfl
      | _ => cases skips
    rw [routesAt, filterMap_entries, asked, still, silent]
    simpa using! attends
  | false =>
    cases told : step.route? with
    | none =>
      obtain ⟨prepared, ready⟩ := attends.prepare step
      obtain ⟨attended, routes, heads⟩ := prepared.tell fun event => calm_of_mem_events told going
      have whole := (ready.trans heads).trans attended.heads_settle
      rw [← step_of_settled skips] at whole
      refine ⟨?_, ?_⟩
      · rw [step_of_settled skips]
        exact attended.settle
      · rw [whole.routesAt_eq, told, whole.heading]
        rfl
    | some route =>
      obtain rfl := eq_audioRoute_of_route? told
      obtain ⟨still, heads⟩ := attends.heading_of_audioRoute idle route
      have whole : simulation.step (.audioRoute route) = simulation.deliver (.audioRoute route) :=
        settle_of_unrequested still
      have silent : (simulation.entries (.audioRoute route)).filterMap AudioRoute.ofEntry? = [] := by
        rw [filterMap_entries, asked, whole, (makes_deliver _).requests, List.drop_left]
        exact filterMap_requestsAt_audioRoute route
      rw [whole]
      refine ⟨attends.deliver (by simp), ?_⟩
      rw [heads, routesAt, silent, told]
      rfl

end Attends

theorem attends_run (scenario : Scenario) {steps : List ScenarioStep} (going : .teardown ∉ steps) :
    ((start scenario).run steps).Attends scenario ∧
      ((start scenario).run steps).heading = ((start scenario).routes steps).getLast?.getD .earpiece := by
  induction steps using List.reverseRecOn with
  | nil =>
    refine ⟨⟨rfl, ?_, Engine.coherent_start scenario.platform {} _⟩, ?_⟩
    · exact congrArg Session.tornDown (Engine.session_start {} _)
    · rw [heading]
      simp only [run, List.foldl_nil, world_start]
      exact congrArg (·.snapshot.audioRoute) (Engine.session_start {} _)
  | append_singleton first last ih =>
    obtain ⟨attends, heading⟩ := ih fun member => going (List.mem_append_left _ member)
    have running : last ≠ .teardown := fun same => going (same ▸ List.mem_append_right _ (List.mem_singleton_self last))
    obtain ⟨attended, headed⟩ := attends.step running (settled_run scenario first).2
    rw [run_concat]
    refine ⟨attended, ?_⟩
    rw [headed, heading, routes_concat, List.getLast?_append]
    cases ((start scenario).run first).routesAt last |>.getLast? <;> rfl

theorem unrouted_start (scenario : Scenario) : (start scenario).transcript.filterMap AudioRoute.ofEntry? = [] := by
  rw [transcript, List.filterMap_filterMap]
  apply List.filterMap_eq_nil_iff.mpr
  intro request member
  rw [Request.bind_describe?, Engine.eq_releaseLock_of_mem_requests_start member]
  rfl

end Simulation

/-- At each step of each scenario: the loop of reports goes round once at most and ends, for a report asks for no
route; no route is left to report before or after the step; and until the tear-down audio is where the
steps said and the entries of the transcript asked it to be last. Each route has an entry of its own there, that
no request but the one for it is shown by. -/
theorem routes_settle_in_one_round (scenario : Scenario) (steps : List ScenarioStep) (step : ScenarioStep) :
    let started := Simulation.start scenario
    let reached := started.run steps
    let acted := (reached.act step).2
    (∃ rounds ≤ 1, acted.Settles rounds acted.settle) ∧
      (∀ rounds last, acted.Settles rounds last → rounds ≤ 1 ∧ last = acted.settle) ∧
      (∀ told asked, .setRoute asked ∉ (acted.report told).engine.requests.drop acted.engine.requests.length) ∧
      reached.world.requestedRoute = none ∧ (reached.step step).world.requestedRoute = none ∧
      started.transcript.filterMap AudioRoute.ofEntry? = [] ∧
      (reached.step step).transcript = reached.transcript ++ reached.entries step ∧
      reached.entries step = (reached.asked step).filterMap Request.describe? ∧
      (∀ (request : Request) (route : AudioRoute),
        request.describe? = some ("audio.set_route(" ++ label route ++ ")") ↔ request = .setRoute route) ∧
      (∀ (entry : String) (route : AudioRoute),
        AudioRoute.ofEntry? entry = some route ↔ entry = "audio.set_route(" ++ label route ++ ")") ∧
      (.teardown ∉ steps →
        reached.engine.session.snapshot.audioRoute = (started.routes steps).getLast?.getD .earpiece) := by
  intro started reached acted
  obtain ⟨platform, idle⟩ := Simulation.settled_run scenario steps
  have ends : ∃ rounds ≤ 1, acted.Settles rounds acted.settle :=
    Simulation.settles_settle ((Simulation.platform_act step).trans platform)
  refine ⟨ends, ?_, ?_, idle, ?_, Simulation.unrouted_start scenario, Simulation.transcript_step step,
    Simulation.entries_eq step, fun _ _ => Request.describe?_eq_entry_iff,
    fun _ _ => AudioRoute.ofEntry?_eq_some_iff, ?_⟩
  · intro rounds last settles
    obtain ⟨bound, small, settled⟩ := ends
    obtain ⟨rfl, rfl⟩ := settles.unique settled
    exact ⟨small, rfl⟩
  · intro told asked
    obtain ⟨made, grown, spared⟩ := acted.requests_report told
    rw [grown, List.drop_left]
    intro member
    cases spared _ member
  · have settled := (Simulation.settled_run scenario (steps ++ [step])).2
    rwa [Simulation.run_concat] at settled
  · intro going
    obtain ⟨-, headed⟩ := Simulation.attends_run scenario going
    rw [Simulation.heading, idle] at headed
    exact headed

end CallProximity
