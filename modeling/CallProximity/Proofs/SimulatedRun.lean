import CallProximity.Proofs.Run
import CallProximity.Simulation

/-! Runs of a simulation. Most steps tell the session of one event; a wait tells it of the timers that
run. After that the routes that were asked for are reported back. What neither a timer nor a reported
route can change is therefore left by a step as its own event leaves it. -/

namespace CallProximity

theorem TimerTable.wait_of_no_timers {table : TimerTable} (idle : table.timers = []) (time : Nat) :
    table.wait time = ([], { now := table.now + time }) := by
  obtain ⟨now, timers⟩ := table
  cases idle
  cases time with
  | zero => rfl
  | succ time => simp [wait, runnable]

/-- The event that the session is told of at a step, where that hangs on nothing else. -/
def ScenarioStep.event? : ScenarioStep → Option Event
  | .callState old new calls => some (.callState old new calls)
  | .audioRoute route => some (.audioRoute route)
  | .uiShowing showing => some (.uiShowing showing)
  | .dialpad visible => some (.dialpad visible)
  | .attemptingVideo attempting => some (.attemptingVideo attempting)
  | .orientation value => some (.orientation value)
  | .display id isOn => some (.display id isOn)
  | .teardown => some .tearDown
  | .proximity _ | .accelerometer _ _ _ | .preference _ _ | .wait _ => none

namespace Simulation

variable {simulation : Simulation}

theorem run_append (first rest : List ScenarioStep) :
    simulation.run (first ++ rest) = (simulation.run first).run rest :=
  List.foldl_append

@[simp] theorem run_concat (first : List ScenarioStep) (last : ScenarioStep) :
    simulation.run (first ++ [last]) = (simulation.run first).step last :=
  run_append first [last]

/-- The lock is free at first, so that even a session that leaves it alone asks for nothing. -/
theorem world_start (scenario : Scenario) :
    (start scenario).world = { store := ({} : PreferenceStore).apply scenario.preferences } := by
  have spared (managed : Bool) {engine : Engine SimulatedWorld} (free : engine.world.lockHeld = false) :
      (if managed then engine else engine.releaseLock scenario.platform true).world = engine.world := by
    cases managed <;> simp [Engine.releaseLock, Scenario.platform, free]
  exact spared _ rfl

/-- What a step does to the devices before the session is told of anything. -/
def prepare (simulation : Simulation) : ScenarioStep → Simulation
  | .accelerometer x y z => (simulation.sample x y z).2
  | .display id isOn =>
      if id = defaultDisplay then simulation.changeWorld ({ · with screenOn := isOn }) else simulation
  | .preference key value => simulation.setPreference key value
  | .wait time => simulation.changeWorld ({ · with timers := (simulation.world.timers.wait time.toNat).2 })
  | _ => simulation

/-- The events that the session is told of at a step, in order. -/
def events (simulation : Simulation) : ScenarioStep → List Event
  | .proximity distance => if simulation.world.subscribed then [.distance distance] else []
  | .accelerometer x y z => (simulation.sample x y z).1.toList.map .orientation
  | .wait time => (simulation.world.timers.wait time.toNat).1.map fun index => .timer (index + 1)
  | step => step.event?.toList

theorem prepare_eq (step : ScenarioStep) :
    simulation.prepare step = simulation.changeWorld fun _ => (simulation.prepare step).world := by
  cases step with
  | display id isOn =>
    simp only [prepare]
    split <;> rfl
  | _ => rfl

theorem platform_prepare (step : ScenarioStep) : (simulation.prepare step).platform = simulation.platform := by
  rw [prepare_eq]
  rfl

theorem session_prepare (step : ScenarioStep) :
    (simulation.prepare step).engine.session = simulation.engine.session := by
  rw [prepare_eq]
  rfl

theorem requests_prepare (step : ScenarioStep) :
    (simulation.prepare step).engine.requests = simulation.engine.requests := by
  rw [prepare_eq]
  rfl

theorem sample_of_disabled (disabled : simulation.world.accelerometer.enabled = false) (x y z : Float) :
    simulation.sample x y z = (none, simulation) := by
  have dropped : simulation.world.accelerometer.sample x y z simulation.world.timers.now =
      (none, simulation.world.accelerometer) := by
    simp [OrientationTracker.sample, disabled]
  simp only [sample, dropped]
  rfl

theorem act_eq (step : ScenarioStep) :
    (simulation.act step).2 = (simulation.events step).foldl deliver (simulation.prepare step) := by
  cases step with
  | proximity distance =>
    simp only [act, events, prepare]
    split <;> rfl
  | accelerometer x y z =>
    simp only [act, events, prepare]
    cases enabled : simulation.world.accelerometer.enabled with
    | true =>
      simp only [↓reduceIte]
      cases simulation.sample x y z with
      | mk report after => cases report <;> rfl
    | false =>
      rw [sample_of_disabled enabled]
      rfl
  | wait time =>
    simp only [act, events, prepare, wait, List.foldl_map]
  | _ => rfl

theorem act_of_skipsSettling {step : ScenarioStep} (skips : simulation.skipsSettling step = true) :
    (simulation.act step).2 = simulation := by
  cases step with
  | accelerometer x y z =>
    simp only [skipsSettling, Bool.not_eq_eq_eq_not, Bool.not_true] at skips
    simp [act, skips]
  | _ => cases skips

theorem step_of_skipsSettling {step : ScenarioStep} (skips : simulation.skipsSettling step = true) :
    simulation.step step = simulation := by
  simp only [Simulation.step, skips, ↓reduceIte, act_of_skipsSettling]

theorem step_of_settled {step : ScenarioStep} (settled : simulation.skipsSettling step = false) :
    simulation.step step = ((simulation.events step).foldl deliver (simulation.prepare step)).settle := by
  simp only [Simulation.step, settled, Bool.false_eq_true, ↓reduceIte, act_eq]

variable {invariant : Simulation → Prop}

theorem invariant_settle
    (reported : ∀ simulation route, invariant simulation →
      invariant ((simulation.changeWorld ({ · with requestedRoute := none })).deliver (.audioRoute route)))
    (initial : invariant simulation) : invariant simulation.settle := by
  have rounds (count : Nat) : invariant (settleRoute count simulation) := by
    induction count generalizing simulation with
    | zero => exact initial
    | succ count ih =>
      simp only [settleRoute]
      split
      · exact initial
      · next route _ => exact ih (reported simulation route initial)
  exact rounds 2

theorem invariant_wait
    (passed : ∀ simulation timers, invariant simulation → invariant (simulation.changeWorld ({ · with timers })))
    (fired : ∀ simulation generation, invariant simulation → invariant (simulation.deliver (.timer generation)))
    (initial : invariant simulation) (time : Nat) : invariant (simulation.wait time) := by
  simp only [wait]
  generalize simulation.world.timers.wait time = waited
  obtain ⟨indices, timers⟩ := waited
  have moved : invariant (simulation.changeWorld ({ · with timers })) := passed simulation timers initial
  dsimp only
  generalize simulation.changeWorld ({ · with timers }) = simulation at moved
  induction indices generalizing simulation with
  | nil => exact moved
  | cons index rest ih => exact ih _ (fired simulation (index + 1) moved)

section Step

variable (invariant : Simulation → Prop)
  (told : ∀ simulation event, invariant simulation → invariant (simulation.deliver event))
  (changed : ∀ simulation change, invariant simulation → invariant (simulation.changeWorld change))

include told changed

/-- What every event and every change of the devices leaves standing stands before routes are settled. -/
theorem invariant_act (initial : invariant simulation) (step : ScenarioStep) : invariant (simulation.act step).2 := by
  have prepared : invariant (simulation.prepare step) := by
    rw [prepare_eq]
    exact changed simulation _ initial
  rw [act_eq]
  generalize simulation.events step = events
  generalize simulation.prepare step = simulation at prepared
  induction events generalizing simulation with
  | nil => exact prepared
  | cons event rest ih => exact ih _ (told simulation event prepared)

theorem invariant_step (initial : invariant simulation) (step : ScenarioStep) : invariant (simulation.step step) := by
  have acted : invariant (simulation.act step).2 := invariant_act invariant told changed initial step
  simp only [Simulation.step]
  split
  · exact acted
  · exact invariant_settle (fun simulation route initial => told _ _ (changed simulation _ initial)) acted

end Step

theorem platform_act (step : ScenarioStep) : (simulation.act step).2.platform = simulation.platform :=
  invariant_act (·.platform = simulation.platform) (fun _ _ same => same) (fun _ _ same => same) rfl step

theorem platform_step (step : ScenarioStep) : (simulation.step step).platform = simulation.platform :=
  invariant_step (·.platform = simulation.platform) (fun _ _ same => same) (fun _ _ same => same) rfl step

theorem platform_run (steps : List ScenarioStep) : (simulation.run steps).platform = simulation.platform := by
  induction steps generalizing simulation with
  | nil => rfl
  | cons step rest ih => exact ih.trans (platform_step step)

def observe (candidate : Orientation) (simulation : Simulation) : Simulation :=
  let (report, accelerometer) := simulation.world.accelerometer.observe candidate simulation.world.timers.now
  let simulation := simulation.changeWorld ({ · with accelerometer })
  match report with
  | some orientation => (simulation.deliver (.orientation orientation)).settle
  | none => simulation.settle

/-- What a wait does where no timer was ever scheduled. -/
def pause (time : UInt64) (simulation : Simulation) : Simulation :=
  (simulation.changeWorld fun world =>
    { world with timers := { now := world.timers.now + time.toNat } }).settle

theorem step_accelerometer {x y z : Float} {candidate : Orientation}
    (enabled : simulation.world.accelerometer.enabled = true)
    (speaks : simulation.world.accelerometer.config.candidate? x y z = some candidate) :
    simulation.step (.accelerometer x y z) = simulation.observe candidate := by
  simp only [step, skipsSettling, act, sample, OrientationTracker.sample, enabled, speaks, observe, Bool.not_true,
    Bool.false_eq_true, ↓reduceIte]
  cases simulation.world.accelerometer.observe candidate simulation.world.timers.now with
  | mk report tracker => cases report <;> rfl

theorem step_wait (idle : simulation.world.timers.timers = []) (time : UInt64) :
    simulation.step (.wait time) = simulation.pause time := by
  simp only [step, skipsSettling, act, wait, TimerTable.wait_of_no_timers idle]
  rfl

end Simulation

end CallProximity
