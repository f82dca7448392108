import CallProximity.Proofs.Orientation
import CallProximity.Proofs.SimulatedRun

/-! The simulated accelerometer and the session each keep the orientation. The accelerometer reports an
orientation once, when it settles. A session that forgets it meanwhile is not told again, for being
switched on while it is on is nothing to the accelerometer. -/

namespace CallProximity

theorem OrientationConfig.candidate?_of_direction (config : OrientationConfig) {x y z : Float}
    (direction : (x == 0 && y == 0 && z == 0) = false) :
    ∃ candidate, candidate ≠ .unknown ∧ config.candidate? x y z = some candidate := by
  simp only [candidate?, tilt?, direction, Bool.false_eq_true, ↓reduceIte, Option.map_some]
  split
  · exact ⟨.other, by decide, rfl⟩
  · exact ⟨.horizontal, by decide, rfl⟩

namespace OrientationTracker

variable (tracker : OrientationTracker) (x y z : Float) (now : Nat)

theorem current_sample :
    (tracker.sample x y z now).2.current = (tracker.sample x y z now).1.getD tracker.current := by
  simp only [sample, observe]
  grind

theorem enabled_sample : (tracker.sample x y z now).2.enabled = tracker.enabled := by
  simp only [sample, observe]
  grind

theorem enabled_of_sample {tracker : OrientationTracker} {x y z : Float} {now : Nat} {reported : Orientation}
    (reports : (tracker.sample x y z now).1 = some reported) : tracker.enabled = true := by
  cases enabled : tracker.enabled with
  | true => rfl
  | false => simp [sample, enabled] at reports

end OrientationTracker

def OrientationTracker.obey (tracker : OrientationTracker) : Request → OrientationTracker
  | .enableOrientation enabled => tracker.enable enabled
  | _ => tracker

namespace Scenario

variable {scenario : Scenario}

theorem accelerometer_perform (world : SimulatedWorld) (request : Request) :
    (scenario.platform.perform world request).accelerometer = world.accelerometer.obey request := by
  cases request with
  | acceptCall | subscribe | unsubscribe =>
    simp only [Platform.perform, platform]
    split <;> rfl
  | _ => rfl

theorem accelerometer_of_asks {switch : Option Bool} {before after : Engine SimulatedWorld}
    (asks : Engine.Asks scenario.platform Request.isForOrientation (switch.toList.map .enableOrientation) before after) :
    after.world.accelerometer = switch.elim before.world.accelerometer before.world.accelerometer.enable := by
  have spared (tracker : OrientationTracker) (request : Request) (other : request.isForOrientation = false) :
      tracker.obey request = tracker := by
    cases request with
    | enableOrientation => cases other
    | _ => rfl
  rw [asks.part accelerometer_perform spared]
  cases switch <;> rfl

end Scenario

namespace Simulation

def report? (simulation : Simulation) : ScenarioStep → Option Orientation
  | .accelerometer x y z => (simulation.sample x y z).1
  | _ => none

/-- What a step leaves the session to know of the orientation, if it touches that. -/
def told? (simulation : Simulation) (step : ScenarioStep) : Option Orientation :=
  (simulation.report? step).or (step.event?.bind simulation.engine.session.told?)

/-- The accelerometer after a step: it has taken a sample, or was switched. -/
def accelerometerAfter (simulation : Simulation) : ScenarioStep → OrientationTracker
  | .accelerometer x y z => (simulation.sample x y z).2.world.accelerometer
  | step =>
      (step.event?.bind simulation.engine.session.switch?).elim simulation.world.accelerometer
        simulation.world.accelerometer.enable

/-- What the accelerometer and the session hold, on the devices of a scenario and before the tear-down. -/
structure Holds (scenario : Scenario) (tracker : OrientationTracker) (orientation : Orientation)
    (simulation : Simulation) : Prop where
  platform : simulation.platform = scenario.platform
  running : simulation.engine.session.tornDown = false
  tracker : simulation.world.accelerometer = tracker
  orientation : simulation.engine.session.snapshot.orientation = orientation

variable {scenario : Scenario} {tracker : OrientationTracker} {orientation : Orientation} {simulation : Simulation}

theorem Holds.start (scenario : Scenario) : (start scenario).Holds scenario {} .unknown where
  platform := rfl
  running := congrArg Session.tornDown (Engine.session_start {} _)
  tracker := congrArg SimulatedWorld.accelerometer (world_start scenario)
  orientation := congrArg (·.snapshot.orientation) (Engine.session_start {} _)

namespace Holds

variable (holds : simulation.Holds scenario tracker orientation)

include holds

theorem changeWorld {change : SimulatedWorld → SimulatedWorld}
    (kept : ∀ world, (change world).accelerometer = world.accelerometer) :
    (simulation.changeWorld change).Holds scenario tracker orientation where
  platform := holds.platform
  running := holds.running
  tracker := (kept _).trans holds.tracker
  orientation := holds.orientation

theorem deliver (event : Event) (going : event ≠ .tearDown) : (simulation.deliver event).Holds scenario
    ((simulation.engine.session.switch? event).elim tracker tracker.enable)
    ((simulation.engine.session.told? event).getD orientation) where
  platform := holds.platform
  running := (Engine.tornDown_step going).trans holds.running
  tracker := by
    have asked : Engine.Asks simulation.platform Request.isForOrientation _ simulation.engine _ :=
      Engine.asks_orientation_step event
    rw [holds.platform] at asked
    rw [← holds.tracker]
    simp only [Simulation.deliver, holds.platform]
    exact Scenario.accelerometer_of_asks asked
  orientation := by
    rw [← holds.orientation]
    exact Engine.orientation_step event

theorem deliver_aside {event : Event} (going : event ≠ .tearDown)
    (unswitched : simulation.engine.session.switch? event = none)
    (untold : simulation.engine.session.told? event = none) :
    (simulation.deliver event).Holds scenario tracker orientation := by
  have delivered := holds.deliver event going
  rw [unswitched, untold] at delivered
  exact delivered

theorem settle : simulation.settle.Holds scenario tracker orientation := by
  apply invariant_settle _ holds
  intro simulation route holds
  have cleared : (simulation.changeWorld ({ · with requestedRoute := none })).Holds scenario tracker orientation :=
    holds.changeWorld fun _ => rfl
  apply cleared.deliver_aside <;> simp [Session.switch?, Session.told?]

theorem wait (time : Nat) : (simulation.wait time).Holds scenario tracker orientation := by
  apply invariant_wait _ _ holds
  · intro simulation timers holds
    exact holds.changeWorld fun _ => rfl
  · intro simulation generation holds
    apply holds.deliver_aside <;> simp [Session.switch?, Session.told?]

theorem accelerometer (x y z : Float) : (simulation.act (.accelerometer x y z)).2.Holds scenario
    (simulation.accelerometerAfter (.accelerometer x y z))
    ((simulation.told? (.accelerometer x y z)).getD orientation) := by
  have sampled : (simulation.sample x y z).2.Holds scenario
      (simulation.accelerometerAfter (.accelerometer x y z)) orientation :=
    ⟨holds.platform, holds.running, rfl, holds.orientation⟩
  simp only [Simulation.act, told?, report?, ScenarioStep.event?, Option.bind_none, Option.or_none]
  cases enabled : simulation.world.accelerometer.enabled with
  | true =>
    simp only [↓reduceIte]
    cases report : simulation.sample x y z with
    | mk reported after =>
      rw [report] at sampled
      cases reported with
      | none => exact sampled
      | some value =>
        have running : after.engine.session.tornDown = false := sampled.running
        have told := sampled.deliver (.orientation value) (by simp)
        simpa [Session.switch?, Session.told?, running] using told
  | false =>
    have dropped := sample_of_disabled enabled x y z
    have same : simulation.accelerometerAfter (.accelerometer x y z) = tracker := by
      rw [accelerometerAfter, dropped]
      exact holds.tracker
    rw [same, dropped]
    exact holds

theorem act {step : ScenarioStep} (going : step ≠ .teardown) : (simulation.act step).2.Holds scenario
    (simulation.accelerometerAfter step) ((simulation.told? step).getD orientation) := by
  obtain rfl := holds.tracker
  cases step with
  | accelerometer x y z => exact holds.accelerometer x y z
  | proximity distance =>
    simp only [Simulation.act]
    split
    · apply holds.deliver_aside <;> simp [Session.switch?, Session.told?]
    · exact holds
  | display id isOn =>
    have met : (if id = defaultDisplay then simulation.changeWorld ({ · with screenOn := isOn }) else simulation).Holds
        scenario simulation.world.accelerometer orientation := by
      split
      · exact holds.changeWorld fun _ => rfl
      · exact holds
    have same : (if id = defaultDisplay then simulation.changeWorld ({ · with screenOn := isOn })
        else simulation).engine.session = simulation.engine.session := by
      split <;> rfl
    have delivered := met.deliver (.display id isOn) (by simp)
    rw [same] at delivered
    exact delivered
  | preference key value =>
    simp only [Simulation.act, setPreference]
    exact holds.changeWorld fun _ => rfl
  | wait time => exact holds.wait time.toNat
  | teardown => exact absurd rfl going
  | callState old new calls => exact holds.deliver (.callState old new calls) (by simp)
  | audioRoute route => exact holds.deliver (.audioRoute route) (by simp)
  | uiShowing showing => exact holds.deliver (.uiShowing showing) (by simp)
  | dialpad visible => exact holds.deliver (.dialpad visible) (by simp)
  | attemptingVideo attempting => exact holds.deliver (.attemptingVideo attempting) (by simp)
  | orientation value => exact holds.deliver (.orientation value) (by simp)

theorem step {step : ScenarioStep} (going : step ≠ .teardown) : (simulation.step step).Holds scenario
    (simulation.accelerometerAfter step) ((simulation.told? step).getD orientation) := by
  simp only [Simulation.step]
  split
  · exact holds.act going
  · exact (holds.act going).settle

end Holds

/-- What follows the accelerometer and the orientation through each step that neither tells one outright nor tears
the session down follows them through a script of such steps. -/
theorem holds_run (scenario : Scenario) {steps : List ScenarioStep} (measured : ∀ value, .orientation value ∉ steps)
    (going : .teardown ∉ steps) {follows : List ScenarioStep → OrientationTracker → Orientation → Prop}
    (initial : follows [] {} .unknown)
    (next : ∀ first last tracker orientation, ((start scenario).run first).Holds scenario tracker orientation →
      (∀ value, last ≠ .orientation value) → last ≠ .teardown → follows first tracker orientation →
      follows (first ++ [last]) (((start scenario).run first).accelerometerAfter last)
        ((((start scenario).run first).told? last).getD orientation)) :
    ∃ tracker orientation, ((start scenario).run steps).Holds scenario tracker orientation ∧
      follows steps tracker orientation := by
  -- What follows may hang on all the steps so far, so the script grows at its end.
  induction steps using List.reverseRecOn with
  | nil => exact ⟨{}, .unknown, .start scenario, initial⟩
  | append_singleton first last ih =>
    have earlier : ∀ step ∈ first, step ∈ first ++ [last] := fun step member => List.mem_append_left _ member
    have final : last ∈ first ++ [last] := List.mem_append_right _ (List.mem_singleton_self last)
    have running : last ≠ .teardown := fun same => going (same ▸ final)
    obtain ⟨tracker, orientation, holds, followed⟩ :=
      ih (fun value member => measured value (earlier _ member)) (fun member => going (earlier _ member))
    rw [run_concat]
    refine ⟨_, _, holds.step running, ?_⟩
    exact next first last tracker orientation holds (fun value same => measured value (same ▸ final)) running followed

def resyncs (simulation : Simulation) : ScenarioStep → Bool
  | .callState old new calls => (simulation.engine.session.calls.change old new calls).resync
  | _ => false

def reports (simulation : Simulation) : List ScenarioStep → List Orientation
  | [] => []
  | step :: rest => (simulation.report? step).toList ++ (simulation.step step).reports rest

/-- A call notification had the session forget the orientation, and nothing was reported since. -/
def Forgot (simulation : Simulation) (steps : List ScenarioStep) : Prop :=
  ∃ earlier notice later, steps = earlier ++ notice :: later ∧ (simulation.run earlier).resyncs notice = true ∧
    (simulation.run (earlier ++ [notice])).reports later = []

theorem reports_concat (first : List ScenarioStep) (last : ScenarioStep) :
    simulation.reports (first ++ [last]) = simulation.reports first ++ ((simulation.run first).report? last).toList := by
  induction first generalizing simulation with
  | nil => simp [reports, run]
  | cons step first ih =>
    simp only [List.cons_append, reports, ih, List.append_assoc]
    rfl

theorem not_forgot_nil : ¬simulation.Forgot [] := by
  rintro ⟨earlier, notice, later, split, -⟩
  simp at split

theorem forgot_concat {steps : List ScenarioStep} {last : ScenarioStep} : simulation.Forgot (steps ++ [last]) ↔
    (simulation.run steps).resyncs last = true ∨
      (simulation.Forgot steps ∧ (simulation.run steps).report? last = none) := by
  have quiet {later : List ScenarioStep} (earlier : List ScenarioStep) (notice : ScenarioStep)
      (split : steps = earlier ++ notice :: later) :
      (simulation.run (earlier ++ [notice])).reports (later ++ [last]) = [] ↔
        (simulation.run (earlier ++ [notice])).reports later = [] ∧ (simulation.run steps).report? last = none := by
    rw [reports_concat, List.append_eq_nil_iff, ← run_append, split]
    simp
  simp only [Forgot, exists_split_concat]
  constructor
  · rintro (⟨resyncs, -⟩ | ⟨earlier, notice, later, split, resyncs, silent⟩)
    · exact .inl resyncs
    · obtain ⟨silent, last⟩ := (quiet earlier notice split).mp silent
      exact .inr ⟨⟨earlier, notice, later, split, resyncs, silent⟩, last⟩
  · rintro (resyncs | ⟨⟨earlier, notice, later, split, resyncs, silent⟩, last⟩)
    · exact .inl ⟨resyncs, rfl⟩
    · exact .inr ⟨earlier, notice, later, split, resyncs, (quiet earlier notice split).mpr ⟨silent, last⟩⟩

end Simulation

/-- The session knows the orientation that the accelerometer has, unless it forgot. -/
structure OrientationTracker.Followed (tracker : OrientationTracker) (forgot : Prop) (orientation : Orientation) :
    Prop where
  enabled : tracker.current ≠ .unknown → tracker.enabled = true
  known : ¬forgot → tracker.current ≠ .unknown → orientation = tracker.current
  forgotten : forgot → orientation = .unknown

namespace OrientationTracker.Followed

variable {tracker : OrientationTracker} {forgot : Prop} {orientation : Orientation}

theorem enable (followed : tracker.Followed forgot orientation) (enabled : Bool) :
    (tracker.enable enabled).Followed forgot orientation where
  enabled := by
    intro settled
    cases enabled with
    | true => rfl
    | false => exact absurd rfl settled
  known := by
    intro known settled
    cases enabled with
    | true => exact followed.known known settled
    | false => exact absurd rfl settled
  forgotten := followed.forgotten

theorem forget (followed : tracker.Followed forgot orientation) : tracker.Followed True .unknown where
  enabled := followed.enabled
  known := fun known => absurd trivial known
  forgotten := fun _ => rfl

theorem sample (followed : tracker.Followed forgot orientation) (x y z : Float) (now : Nat) :
    (tracker.sample x y z now).2.Followed (forgot ∧ (tracker.sample x y z now).1 = none)
      ((tracker.sample x y z now).1.getD orientation) := by
  have current : (tracker.sample x y z now).2.current = _ := tracker.current_sample x y z now
  have enabled : (tracker.sample x y z now).2.enabled = tracker.enabled := tracker.enabled_sample x y z now
  cases report : (tracker.sample x y z now).1 with
  | none =>
    rw [report] at current
    constructor
    · rw [current, enabled]
      exact followed.enabled
    · rw [current]
      exact fun known => followed.known fun forgot => known ⟨forgot, rfl⟩
    · exact fun forgot => followed.forgotten forgot.1
  | some value =>
    rw [report] at current
    constructor
    · exact fun _ => enabled.trans (enabled_of_sample report)
    · exact fun _ _ => current.symm
    · rintro ⟨-, silent⟩
      cases silent

end OrientationTracker.Followed

namespace Simulation

variable {simulation : Simulation} {orientation : Orientation} {forgot : Prop} {step : ScenarioStep}

theorem told?_of_unreported (running : simulation.engine.session.tornDown = false)
    (measured : ∀ value, step ≠ .orientation value) (unsampled : ∀ x y z, step ≠ .accelerometer x y z) :
    simulation.told? step = if simulation.resyncs step then some .unknown else none := by
  cases step with
  | accelerometer x y z => exact absurd rfl (unsampled x y z)
  | orientation value => exact absurd rfl (measured value)
  | callState old new calls =>
    simp only [told?, report?, ScenarioStep.event?, Option.bind_some, Session.told?, running]
    rfl
  | _ => simp [told?, report?, resyncs, ScenarioStep.event?, Session.told?, running]

theorem report?_of_unsampled (unsampled : ∀ x y z, step ≠ .accelerometer x y z) : simulation.report? step = none := by
  cases step with
  | accelerometer x y z => exact absurd rfl (unsampled x y z)
  | _ => rfl

theorem accelerometerAfter_of_unsampled (unsampled : ∀ x y z, step ≠ .accelerometer x y z) :
    simulation.accelerometerAfter step = (step.event?.bind simulation.engine.session.switch?).elim
      simulation.world.accelerometer simulation.world.accelerometer.enable := by
  cases step with
  | accelerometer x y z => exact absurd rfl (unsampled x y z)
  | _ => rfl

theorem followed_step (followed : simulation.world.accelerometer.Followed forgot orientation)
    (running : simulation.engine.session.tornDown = false) (measured : ∀ value, step ≠ .orientation value) :
    (simulation.accelerometerAfter step).Followed
      (simulation.resyncs step = true ∨ (forgot ∧ simulation.report? step = none))
      ((simulation.told? step).getD orientation) := by
  by_cases sampled : ∃ x y z, step = .accelerometer x y z
  · obtain ⟨x, y, z, rfl⟩ := sampled
    have settled := followed.sample x y z simulation.world.timers.now
    simpa [resyncs, told?, report?, ScenarioStep.event?] using! settled
  · have unsampled : ∀ x y z, step ≠ .accelerometer x y z := fun x y z same => sampled ⟨x, y, z, same⟩
    rw [told?_of_unreported running measured unsampled, report?_of_unsampled unsampled,
      accelerometerAfter_of_unsampled unsampled]
    have switched : ((step.event?.bind simulation.engine.session.switch?).elim simulation.world.accelerometer
        simulation.world.accelerometer.enable).Followed forgot orientation := by
      cases step.event?.bind simulation.engine.session.switch? with
      | none => exact followed
      | some enabled => exact followed.enable enabled
    cases simulation.resyncs step with
    | true => simpa using switched.forget
    | false => simpa using switched

theorem followed_run (scenario : Scenario) {steps : List ScenarioStep} (measured : ∀ value, .orientation value ∉ steps)
    (going : .teardown ∉ steps) : ∃ tracker orientation, ((start scenario).run steps).Holds scenario tracker orientation ∧
      tracker.Followed ((start scenario).Forgot steps) orientation := by
  apply holds_run scenario measured going
  · constructor
    · exact fun settled => absurd rfl settled
    · exact fun _ settled => absurd rfl settled
    · exact fun forgot => absurd forgot not_forgot_nil
  · intro first last tracker orientation holds measured going followed
    rw [← holds.tracker] at followed
    rw [propext forgot_concat]
    exact followed_step followed holds.running measured

end Simulation

/-- In a script that tells no orientation outright, a session knows the orientation of its accelerometer,
unless it forgot it over a call notification: the accelerometer does not report it a second time. -/
theorem orientation_agrees_unless_forgot (scenario : Scenario) (steps : List ScenarioStep)
    (measured : ∀ value, .orientation value ∉ steps) (going : .teardown ∉ steps) :
    let started := Simulation.start scenario
    let reached := started.run steps
    let tracker := reached.world.accelerometer
    tracker.current ≠ .unknown → tracker.enabled = true ∧
      (¬started.Forgot steps → reached.engine.session.snapshot.orientation = tracker.current) ∧
      (started.Forgot steps → reached.engine.session.snapshot.orientation = .unknown) := by
  intro started reached tracker settled
  obtain ⟨_, orientation, holds, followed⟩ := Simulation.followed_run scenario measured going
  rw [← holds.tracker, ← holds.orientation] at followed
  exact ⟨followed.enabled settled, fun known => followed.known known settled, followed.forgotten⟩

namespace Simulation

/-- A call is made, and the device lies still until it is known how. -/
def stillCall : List ScenarioStep :=
  [.callState .idle .outgoing {}, .accelerometer 0 0 9.8, .wait 600, .accelerometer 0 0 9.8]

theorem run_stillCall : ∃ candidate, candidate ≠ .unknown ∧ (start {}).run stillCall =
    ((((start {}).step (.callState .idle .outgoing {})).observe candidate).pause 600).observe candidate := by
  have direction : ((0 : Float) == 0 && (0 : Float) == 0 && (9.8 : Float) == 0) = false := by decide
  obtain ⟨candidate, settles, speaks⟩ := ({} : OrientationConfig).candidate?_of_direction direction
  refine ⟨candidate, settles, ?_⟩
  have first : ((start {}).step (.callState .idle .outgoing {})).step (.accelerometer 0 0 9.8) =
      ((start {}).step (.callState .idle .outgoing {})).observe candidate :=
    step_accelerometer (by decide) speaks
  generalize called : (start {}).step (.callState .idle .outgoing {}) = dialing at first
  have waited : (dialing.observe candidate).step (.wait 600) = (dialing.observe candidate).pause 600 := by
    apply step_wait
    subst called
    cases candidate <;> decide
  have last : ((dialing.observe candidate).pause 600).step (.accelerometer 0 0 9.8) =
      ((dialing.observe candidate).pause 600).observe candidate := by
    subst called
    apply step_accelerometer
    · cases candidate <;> decide
    · cases candidate <;> exact speaks
  simp only [run, stillCall, List.foldl_cons, List.foldl_nil]
  rw [called, first, waited, last]

end Simulation

theorem orientation_agrees_unless_forgot_flat :
    let started := Simulation.start {}
    let reached := started.run Simulation.stillCall
    let tracker := reached.world.accelerometer
    tracker.current ≠ .unknown ∧ tracker.enabled = true ∧
      (¬started.Forgot Simulation.stillCall → reached.engine.session.snapshot.orientation = tracker.current) ∧
      (started.Forgot Simulation.stillCall → reached.engine.session.snapshot.orientation = .unknown) := by
  intro started reached tracker
  have settled : tracker.current ≠ .unknown := by
    obtain ⟨candidate, settles, same⟩ := Simulation.run_stillCall
    simp only [tracker, reached, started, same]
    cases candidate with
    | unknown => exact absurd rfl settles
    | horizontal | other => decide
  refine ⟨settled, ?_⟩
  apply orientation_agrees_unless_forgot {} Simulation.stillCall _ _ settled
  · simp [Simulation.stillCall]
  · simp [Simulation.stillCall]

/-- The call is answered with the camera on, and the session no longer knows how the device lies. -/
theorem orientation_unknown_after_answer :
    let reached := (Simulation.start {}).run (Simulation.stillCall ++
      [.callState .outgoing .inCall { hasLiveCall := true, activeCall := some { id := "a", isVideo := true } }])
    reached.world.accelerometer.enabled = true ∧ reached.world.accelerometer.current ≠ .unknown ∧
      reached.engine.session.snapshot.orientation = .unknown := by
  obtain ⟨candidate, settles, same⟩ := Simulation.run_stillCall
  rw [Simulation.run_concat, same]
  cases candidate with
  | unknown => exact absurd rfl settles
  | horizontal | other => decide

end CallProximity
