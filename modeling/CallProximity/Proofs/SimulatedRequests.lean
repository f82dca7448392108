import CallProximity.Proofs.SimulatedRun
import CallProximity.Proofs.Step
import Mathlib.Data.List.Induction

/-! What a simulation asks of its devices, and how its transcript shows it. A route that the session asks for is
reported back to it once the step is over. A report does not have audio moved, so that one round settles whatever was
asked for. -/

namespace CallProximity

namespace AudioRoute

/-- How the transcript shows that audio is to move to a route. -/
def entry (route : AudioRoute) : String :=
  "audio.set_route(" ++ label route ++ ")"

/-- The route that an entry of the transcript names. -/
def ofEntry? (entry : String) : Option AudioRoute :=
  Labelled.values.find? (·.entry = entry)

theorem ofEntry?_eq_some_iff {entry : String} {route : AudioRoute} :
    ofEntry? entry = some route ↔ entry = route.entry := by
  constructor
  · intro found
    have named : route.entry = entry := by simpa using List.find?_some found
    exact named.symm
  · rintro rfl
    cases route <;> rfl

end AudioRoute

namespace Request

def route? : Request → Option AudioRoute
  | .setRoute route => some route
  | _ => none

theorem filterMap_route?_eq_nil {requests : List Request}
    (spared : ∀ request ∈ requests, request.isForSpeaker = false) : requests.filterMap Request.route? = [] := by
  apply List.filterMap_eq_nil_iff.mpr
  intro request member
  cases request with
  | setRoute route => cases spared _ member
  | _ => rfl

/-- The transcript tells to which route audio was asked, if to any. -/
theorem bind_describe? (request : Request) : request.describe?.bind AudioRoute.ofEntry? = request.route? := by
  cases request with
  | setRoute route => cases route <;> rfl
  | releaseLock restoreImmediately => cases restoreImmediately <;> rfl
  | enableOrientation enabled => cases enabled <;> rfl
  | _ => rfl

theorem describe?_eq_entry_iff {request : Request} {route : AudioRoute} :
    request.describe? = some route.entry ↔ request = .setRoute route := by
  constructor
  · intro shown
    have moved : request.route? = some route := by
      rw [← bind_describe?, shown]
      exact AudioRoute.ofEntry?_eq_some_iff.mpr rfl
    cases request with
    | setRoute asked => exact congrArg setRoute (Option.some.inj moved)
    | _ => cases moved
  · rintro rfl
    rfl

end Request

theorem Moment.isForSpeaker_of_mem_audioRoute {World : Type} {platform : Platform World} {engine : Engine World}
    {route : AudioRoute} {request : Request}
    (member : request ∈ (⟨engine, .audioRoute route⟩ : Moment World).requests platform) :
    request.isForSpeaker = false := by
  have silent : ((⟨engine, .audioRoute route⟩ : Moment World).requests platform).filter Request.isForSpeaker = [] := by
    rw [requests_of_asks (Engine.asks_step _)]
    simp [Session.speakerRequests]
  simpa using List.filter_eq_nil_iff.mp silent request member

namespace Scenario

variable {scenario : Scenario}

theorem requestedRoute_perform (world : SimulatedWorld) (request : Request) :
    (scenario.platform.perform world request).requestedRoute = request.route?.or world.requestedRoute := by
  cases request with
  | acceptCall | subscribe | unsubscribe =>
    simp only [Platform.perform, platform]
    split <;> rfl
  | _ => rfl

theorem requestedRoute_foldl (requests : List Request) (world : SimulatedWorld) :
    (requests.foldl scenario.platform.perform world).requestedRoute =
      (requests.filterMap Request.route?).getLast?.or world.requestedRoute := by
  induction requests generalizing world with
  | nil => rfl
  | cons request rest ih =>
    rw [List.foldl_cons, ih, requestedRoute_perform, List.filterMap_cons]
    cases request.route? with
    | none => rfl
    | some route => cases (rest.filterMap Request.route?) <;> simp [List.getLast?_cons]

end Scenario

namespace Simulation

variable {scenario : Scenario} {simulation : Simulation}

def requestsAt (simulation : Simulation) (event : Event) : List Request :=
  (⟨simulation.engine, event⟩ : Moment SimulatedWorld).requests simulation.platform

theorem makes_deliver (event : Event) : Engine.Makes simulation.platform (simulation.requestsAt event)
    simulation.engine (simulation.deliver event).engine := by
  obtain ⟨made, makes, -⟩ : Engine.Asks simulation.platform Request.isForSpeaker _ simulation.engine
    (simulation.deliver event).engine := Engine.asks_step event
  rw [requestsAt, Moment.requests_of_makes makes]
  exact makes

theorem requestedRoute_deliver (platform : simulation.platform = scenario.platform) (event : Event) :
    (simulation.deliver event).world.requestedRoute =
      ((simulation.requestsAt event).filterMap Request.route?).getLast?.or simulation.world.requestedRoute := by
  have makes := simulation.makes_deliver event
  rw [platform] at makes
  rw [world, makes.world, Scenario.requestedRoute_foldl]
  rfl

theorem filterMap_requestsAt_audioRoute (route : AudioRoute) :
    (simulation.requestsAt (.audioRoute route)).filterMap Request.route? = [] :=
  Request.filterMap_route?_eq_nil fun _ => Moment.isForSpeaker_of_mem_audioRoute

def report (simulation : Simulation) (route : AudioRoute) : Simulation :=
  (simulation.changeWorld ({ · with requestedRoute := none })).deliver (.audioRoute route)

theorem requests_report (route : AudioRoute) : ∃ made,
    (simulation.report route).engine.requests = simulation.engine.requests ++ made ∧
      ∀ request ∈ made, request.isForSpeaker = false :=
  ⟨_, (makes_deliver _).requests, fun _ => Moment.isForSpeaker_of_mem_audioRoute⟩

theorem requestedRoute_report (platform : simulation.platform = scenario.platform) (route : AudioRoute) :
    (simulation.report route).world.requestedRoute = none := by
  have cleared : (simulation.changeWorld ({ · with requestedRoute := none })).platform = scenario.platform := platform
  rw [report, requestedRoute_deliver cleared, filterMap_requestsAt_audioRoute]
  rfl

theorem settle_of_unrequested (idle : simulation.world.requestedRoute = none) : simulation.settle = simulation := by
  simp [settle, settleRoute, idle]

theorem settle_of_requested {route : AudioRoute} (platform : simulation.platform = scenario.platform)
    (requested : simulation.world.requestedRoute = some route) : simulation.settle = simulation.report route := by
  have idle : (simulation.report route).world.requestedRoute = none := requestedRoute_report platform route
  simp only [settle, settleRoute, requested]
  rw [← report, idle]

theorem requestedRoute_settle (platform : simulation.platform = scenario.platform) :
    simulation.settle.world.requestedRoute = none := by
  cases requested : simulation.world.requestedRoute with
  | none =>
    rw [settle_of_unrequested requested]
    exact requested
  | some route =>
    rw [settle_of_requested platform requested]
    exact requestedRoute_report platform route

def asked (simulation : Simulation) (step : ScenarioStep) : List Request :=
  (simulation.step step).engine.requests.drop simulation.engine.requests.length

theorem requests_step (step : ScenarioStep) :
    (simulation.step step).engine.requests = simulation.engine.requests ++ simulation.asked step := by
  have grown : simulation.engine.requests <+: (simulation.step step).engine.requests := by
    apply invariant_step (fun after => simulation.engine.requests <+: after.engine.requests) _
      (fun _ _ grown => grown) List.prefix_rfl
    intro middle event grown
    rw [(makes_deliver event).requests]
    exact grown.trans (List.prefix_append ..)
  obtain ⟨made, same⟩ := grown
  rw [asked, ← same, List.drop_left]

/-- What a step adds to the transcript. -/
def entries (simulation : Simulation) (step : ScenarioStep) : List String :=
  (simulation.step step).transcript.drop simulation.transcript.length

theorem entries_eq (step : ScenarioStep) :
    simulation.entries step = (simulation.asked step).filterMap Request.describe? := by
  rw [entries, transcript, transcript, requests_step, List.filterMap_append, List.drop_left]

theorem transcript_step (step : ScenarioStep) :
    (simulation.step step).transcript = simulation.transcript ++ simulation.entries step := by
  rw [entries_eq, transcript, transcript, requests_step, List.filterMap_append]

theorem filterMap_entries (step : ScenarioStep) : (simulation.entries step).filterMap AudioRoute.ofEntry? =
    (simulation.asked step).filterMap Request.route? := by
  rw [entries_eq, List.filterMap_filterMap]
  exact congrArg (List.filterMap · _) (funext Request.bind_describe?)

theorem entry_mem_entries_iff {step : ScenarioStep} {route : AudioRoute} :
    route.entry ∈ simulation.entries step ↔ .setRoute route ∈ simulation.asked step := by
  rw [entries_eq, List.mem_filterMap]
  constructor
  · rintro ⟨request, asked, shown⟩
    exact Request.describe?_eq_entry_iff.mp shown ▸ asked
  · intro asked
    exact ⟨_, asked, rfl⟩

theorem count_entry_entries (step : ScenarioStep) (route : AudioRoute) :
    (simulation.entries step).count route.entry = (simulation.asked step).count (.setRoute route) := by
  rw [entries_eq, List.count_filterMap]
  exact List.countP_congr fun request _ => by simp [Request.describe?_eq_entry_iff]

theorem requestedRoute_prepare (step : ScenarioStep) :
    (simulation.prepare step).world.requestedRoute = simulation.world.requestedRoute := by
  cases step with
  | display id isOn =>
    simp only [prepare]
    split <;> rfl
  | _ => rfl

theorem requestedRoute_step (platform : simulation.platform = scenario.platform)
    (idle : simulation.world.requestedRoute = none) (step : ScenarioStep) :
    (simulation.step step).world.requestedRoute = none := by
  cases skips : simulation.skipsSettling step with
  | true =>
    rw [step_of_skipsSettling skips]
    exact idle
  | false =>
    rw [Simulation.step, skips]
    exact requestedRoute_settle ((platform_act step).trans platform)

/-- Between two steps no route is left to report. -/
theorem settled_run (scenario : Scenario) (steps : List ScenarioStep) :
    ((start scenario).run steps).platform = scenario.platform ∧
      ((start scenario).run steps).world.requestedRoute = none := by
  induction steps using List.reverseRecOn with
  | nil => exact ⟨rfl, congrArg SimulatedWorld.requestedRoute (world_start scenario)⟩
  | append_singleton first last ih =>
    obtain ⟨platform, idle⟩ := ih
    rw [run_concat]
    exact ⟨(platform_step last).trans platform, requestedRoute_step platform idle last⟩

end Simulation

end CallProximity
