import CallProximity.Preferences.Store
import CallProximity.Scenario.Encoding
import CallProximity.Session.Step
import CallProximity.Timer

/-! A scenario played on simulated devices. The devices do what they are asked, their
timers run on a virtual clock, and a route that was asked for is reported back to the
session after the step, as a platform would. -/

namespace CallProximity

structure SimulatedWorld where
  lockHeld : Bool := false
  /-- Asked for and not yet reported back. -/
  requestedRoute : Option AudioRoute := none
  screenOn : Bool := true
  subscribed : Bool := false
  accelerometer : OrientationTracker := {}
  store : PreferenceStore := {}
  timers : TimerTable := {}

namespace SimulatedWorld

def acquire : Attempt SimulatedWorld := fun world =>
  (.ok (), { world with lockHeld := true })

def release : Attempt SimulatedWorld := fun world =>
  (.ok (), { world with lockHeld := false })

def setRoute (route : AudioRoute) : Attempt SimulatedWorld := fun world =>
  (.ok (), { world with requestedRoute := some route })

def accept : Attempt SimulatedWorld := fun world =>
  (.ok (), world)

end SimulatedWorld

/-- The devices that a scenario asks for. Generations count from one, timers from zero. -/
def Scenario.platform (scenario : Scenario) : Platform SimulatedWorld where
  wakeLock := some {
    isHeld := SimulatedWorld.lockHeld
    acquire := SimulatedWorld.acquire
    release := fun _ => SimulatedWorld.release }
  setRoute := SimulatedWorld.setRoute
  telephony := if scenario.hasTelephony then some SimulatedWorld.accept else none
  isScreenOn := SimulatedWorld.screenOn
  sensor :=
    if scenario.hasProximitySensor then
      some {
        maxRange := scenario.proximityMaxRange
        subscribe := ({ · with subscribed := true })
        unsubscribe := ({ · with subscribed := false }) }
    else none
  enableOrientation enabled world :=
    { world with accelerometer := world.accelerometer.enable enabled }
  preferences world := world.store.source
  schedule _ delay world := { world with timers := world.timers.schedule delay.toNat }
  cancel generation world := { world with timers := world.timers.cancel (generation - 1) }

/-- How a device shows a request; timers show nothing. -/
def Request.describe? : Request → Option String
  | .acquireLock => some "wake_lock.acquire()"
  | .releaseLock restoreImmediately =>
      some ("wake_lock.release(restore_immediately=" ++ toString restoreImmediately ++ ")")
  | .setRoute route => some ("audio.set_route(" ++ label route ++ ")")
  | .acceptCall => some "telephony.accept_ringing_call()"
  | .subscribe => some "proximity.subscribe()"
  | .unsubscribe => some "proximity.unsubscribe()"
  | .enableOrientation enabled => some ("orientation.enable(" ++ toString enabled ++ ")")
  | .schedule _ _ | .cancel _ => none

structure Simulation where
  platform : Platform SimulatedWorld
  engine : Engine SimulatedWorld

namespace Simulation

/-- The scenario's preferences are stored before the session starts. -/
def start (scenario : Scenario) : Simulation :=
  let store := ({} : PreferenceStore).apply scenario.preferences
  ⟨scenario.platform, .start scenario.platform {} { store }⟩

def world (simulation : Simulation) : SimulatedWorld :=
  simulation.engine.world

def changeWorld (simulation : Simulation) (change : SimulatedWorld → SimulatedWorld) : Simulation :=
  { simulation with
    engine := { simulation.engine with world := change simulation.engine.world } }

def deliver (simulation : Simulation) (event : Event) : Simulation :=
  { simulation with engine := simulation.engine.step simulation.platform event }

/-- The device requests so far, as shown. -/
def transcript (simulation : Simulation) : List String :=
  simulation.engine.requests.filterMap Request.describe?

/-- Reports requested routes back until none is left, for so many rounds at most. -/
def settleRoute : (rounds : Nat) → Simulation → Simulation
  | 0, simulation => simulation
  | rounds + 1, simulation =>
      match simulation.world.requestedRoute with
      | none => simulation
      | some route =>
          settleRoute rounds
            ((simulation.changeWorld ({ · with requestedRoute := none })).deliver (.audioRoute route))

/-- A report makes no new request, so one round does; the second finds nothing left. -/
def settle (simulation : Simulation) : Simulation :=
  settleRoute 2 simulation

def setPreference (simulation : Simulation) (key : String) (value : Json) : Simulation :=
  simulation.changeWorld fun world => { world with store := world.store.setValue key value }

def wait (simulation : Simulation) (time : Nat) : Simulation :=
  let (run, timers) := simulation.world.timers.wait time
  run.foldl (fun simulation index => simulation.deliver (.timer (index + 1)))
    (simulation.changeWorld ({ · with timers }))

/-- A sample of the enabled accelerometer, and the orientation it settles. -/
def sample (simulation : Simulation) (x y z : Float) : Option Orientation × Simulation :=
  let (report, accelerometer) :=
    simulation.world.accelerometer.sample x y z simulation.world.timers.now
  (report, simulation.changeWorld ({ · with accelerometer }))

/-- What a step prints of itself, and the simulation after it but for routes to report. -/
def act (simulation : Simulation) : ScenarioStep → List String × Simulation
  | .proximity distance =>
      if simulation.world.subscribed then ([], simulation.deliver (.distance distance))
      else (["    (sensor not subscribed, reading dropped)"], simulation)
  | .callState old new calls => ([], simulation.deliver (.callState old new calls))
  | .audioRoute route => ([], simulation.deliver (.audioRoute route))
  | .uiShowing showing => ([], simulation.deliver (.uiShowing showing))
  | .dialpad visible => ([], simulation.deliver (.dialpad visible))
  | .attemptingVideo attempting => ([], simulation.deliver (.attemptingVideo attempting))
  | .orientation value => ([], simulation.deliver (.orientation value))
  | .accelerometer x y z =>
      if simulation.world.accelerometer.enabled then
        match simulation.sample x y z with
        | (some orientation, simulation) =>
            (["    orientation is now " ++ label orientation],
              simulation.deliver (.orientation orientation))
        | (none, simulation) => ([], simulation)
      else (["    (accelerometer disabled, sample dropped)"], simulation)
  | .display id isOn =>
      let simulation :=
        if id = defaultDisplay then simulation.changeWorld ({ · with screenOn := isOn })
        else simulation
      ([], simulation.deliver (.display id isOn))
  | .preference key value => ([], simulation.setPreference key value)
  | .wait milliseconds => ([], simulation.wait milliseconds.toNat)
  | .teardown => ([], simulation.deliver .tearDown)

/-- A sample that is dropped ends the step at once. -/
def skipsSettling (simulation : Simulation) : ScenarioStep → Bool
  | .accelerometer _ _ _ => !simulation.world.accelerometer.enabled
  | _ => false

def step (simulation : Simulation) (step : ScenarioStep) : Simulation :=
  let after := (simulation.act step).2
  if simulation.skipsSettling step then after else after.settle

def run (simulation : Simulation) (steps : List ScenarioStep) : Simulation :=
  steps.foldl Simulation.step simulation

/-- The requests made since an earlier state, one line each. -/
def requestLines (before after : Simulation) : List String :=
  (after.transcript.drop before.transcript.length).map ("    -> " ++ ·)

/-- A step and the lines it prints. -/
def perform (simulation : Simulation) (step : ScenarioStep) : List String × Simulation :=
  let after := simulation.step step
  ((simulation.act step).1 ++ simulation.requestLines after, after)

/-- Ending the simulation tears the session down. -/
def finish (simulation : Simulation) : List String × Simulation :=
  let after := simulation.deliver .tearDown
  (simulation.requestLines after, after)

end Simulation

end CallProximity
