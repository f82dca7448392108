import CallProximity.Proofs.OrientationAgreement

/-! While the accelerometer is switched off, the session is not to know how the device lies. A call
notification that switches it has the session forget the orientation. The built-in display switches it off as well,
and then the session keeps what it knew. -/

namespace CallProximity

theorem OrientationConfig.ne_unknown_of_candidate? {config : OrientationConfig} {x y z : Float} {candidate : Orientation}
    (speaks : config.candidate? x y z = some candidate) : candidate ≠ .unknown := by
  obtain ⟨tilt, -, rfl⟩ := Option.map_eq_some_iff.mp speaks
  split <;> decide

namespace OrientationTracker

variable {tracker : OrientationTracker} {reported : Orientation} {now : Nat}

theorem eq_of_observe {candidate : Orientation} (reports : (tracker.observe candidate now).1 = some reported) :
    reported = candidate := by
  simp only [observe] at reports
  grind

theorem ne_unknown_of_sample {x y z : Float} (reports : (tracker.sample x y z now).1 = some reported) :
    reported ≠ .unknown := by
  simp only [sample] at reports
  split at reports
  · split at reports
    · next candidate speaks =>
      rw [eq_of_observe reports]
      exact OrientationConfig.ne_unknown_of_candidate? speaks
    · cases reports
  · cases reports

end OrientationTracker

namespace Simulation

variable {simulation : Simulation} {orientation : Orientation} {retained : Prop} {step : ScenarioStep}

def switchesOff (simulation : Simulation) : ScenarioStep → Bool
  | .display id isOn => (simulation.engine.session.display.notify id isOn).1 = some false
  | _ => false

def forgets (simulation : Simulation) : List ScenarioStep → Bool
  | [] => false
  | step :: rest => simulation.resyncs step || (simulation.step step).forgets rest

/-- The display went off while the session knew an orientation, and the session did not forget it since. -/
def Retains (simulation : Simulation) (steps : List ScenarioStep) : Prop :=
  ∃ earlier off later, steps = earlier ++ off :: later ∧
    (simulation.run earlier).engine.session.snapshot.orientation ≠ .unknown ∧
    (simulation.run earlier).switchesOff off = true ∧ (simulation.run (earlier ++ [off])).forgets later = false

theorem forgets_concat (first : List ScenarioStep) (last : ScenarioStep) :
    simulation.forgets (first ++ [last]) = (simulation.forgets first || (simulation.run first).resyncs last) := by
  induction first generalizing simulation with
  | nil => simp [forgets, run]
  | cons step first ih =>
    simp only [List.cons_append, forgets, ih, Bool.or_assoc]
    rfl

theorem not_retains_nil : ¬simulation.Retains [] := by
  rintro ⟨earlier, off, later, split, -⟩
  simp at split

theorem retains_concat {steps : List ScenarioStep} {last : ScenarioStep} : simulation.Retains (steps ++ [last]) ↔
    ((simulation.run steps).engine.session.snapshot.orientation ≠ .unknown ∧
      (simulation.run steps).switchesOff last = true) ∨
    (simulation.Retains steps ∧ (simulation.run steps).resyncs last = false) := by
  have remembers {later : List ScenarioStep} (earlier : List ScenarioStep) (off : ScenarioStep)
      (split : steps = earlier ++ off :: later) :
      (simulation.run (earlier ++ [off])).forgets (later ++ [last]) = false ↔
        (simulation.run (earlier ++ [off])).forgets later = false ∧ (simulation.run steps).resyncs last = false := by
    rw [forgets_concat, Bool.or_eq_false_iff, ← run_append, split]
    simp
  simp only [Retains, exists_split_concat]
  constructor
  · rintro (⟨known, off, -⟩ | ⟨earlier, off, later, split, known, switches, kept⟩)
    · exact .inl ⟨known, off⟩
    · obtain ⟨kept, last⟩ := (remembers earlier off split).mp kept
      exact .inr ⟨⟨earlier, off, later, split, known, switches, kept⟩, last⟩
  · rintro (⟨known, off⟩ | ⟨⟨earlier, off, later, split, known, switches, kept⟩, last⟩)
    · exact .inl ⟨known, off, rfl⟩
    · exact .inr ⟨earlier, off, later, split, known, switches, (remembers earlier off split).mpr ⟨kept, last⟩⟩

end Simulation

/-- With the accelerometer off the session knows no orientation, unless it retained one. -/
structure OrientationTracker.Guards (tracker : OrientationTracker) (retained : Prop) (orientation : Orientation) :
    Prop where
  unknown : tracker.enabled = false → ¬retained → orientation = .unknown
  retained : retained → orientation ≠ .unknown

namespace OrientationTracker.Guards

variable {tracker : OrientationTracker} {retained : Prop} {orientation : Orientation}

theorem sample (guards : tracker.Guards retained orientation) (x y z : Float) (now : Nat) :
    (tracker.sample x y z now).2.Guards retained ((tracker.sample x y z now).1.getD orientation) := by
  have enabled : (tracker.sample x y z now).2.enabled = tracker.enabled := tracker.enabled_sample x y z now
  cases report : (tracker.sample x y z now).1 with
  | none =>
    constructor
    · rw [enabled]
      exact guards.unknown
    · exact guards.retained
  | some value =>
    constructor
    · rw [enabled, enabled_of_sample report]
      exact fun off => by cases off
    · exact fun _ => ne_unknown_of_sample report

theorem switch (guards : tracker.Guards retained orientation) (switch : Option Bool) :
    (switch.elim tracker tracker.enable).Guards ((orientation ≠ .unknown ∧ switch = some false) ∨ retained) orientation where
  unknown := by
    intro disabled forgotten
    simp only [not_or, not_and] at forgotten
    cases switch with
    | none => exact guards.unknown disabled forgotten.2
    | some enabled =>
      cases enabled with
      | true => cases disabled
      | false => exact Decidable.of_not_not fun known => forgotten.1 known rfl
  retained := by
    rintro (⟨known, -⟩ | retained)
    · exact known
    · exact guards.retained retained

end OrientationTracker.Guards

namespace Simulation

variable {simulation : Simulation} {orientation : Orientation} {retained : Prop} {step : ScenarioStep}

theorem guards_step (guards : simulation.world.accelerometer.Guards retained orientation)
    (running : simulation.engine.session.tornDown = false) (measured : ∀ value, step ≠ .orientation value)
    (going : step ≠ .teardown) : (simulation.accelerometerAfter step).Guards
      ((orientation ≠ .unknown ∧ simulation.switchesOff step = true) ∨ (retained ∧ simulation.resyncs step = false))
      ((simulation.told? step).getD orientation) := by
  by_cases sampled : ∃ x y z, step = .accelerometer x y z
  · obtain ⟨x, y, z, rfl⟩ := sampled
    simpa [switchesOff, resyncs, told?, report?, ScenarioStep.event?] using! guards.sample x y z _
  · have unsampled : ∀ x y z, step ≠ .accelerometer x y z := fun x y z same => sampled ⟨x, y, z, same⟩
    rw [told?_of_unreported running measured unsampled, accelerometerAfter_of_unsampled unsampled]
    cases step with
    | callState old new calls =>
      cases resynced : (simulation.engine.session.calls.change old new calls).resync with
      | true =>
        simp only [resyncs, switchesOff, resynced, ↓reduceIte, Option.getD_some]
        exact ⟨fun _ _ => rfl, by simp⟩
      | false =>
        simpa [resyncs, switchesOff, resynced, ScenarioStep.event?, Session.switch?] using! guards
    | display id isOn =>
      have switched := guards.switch (simulation.engine.session.display.notify id isOn).1
      simpa [resyncs, switchesOff, ScenarioStep.event?, Session.switch?, running] using! switched
    | accelerometer x y z => exact absurd rfl (unsampled x y z)
    | orientation value => exact absurd rfl (measured value)
    | teardown => exact absurd rfl going
    | _ => simpa [switchesOff, resyncs, ScenarioStep.event?, Session.switch?] using! guards

theorem guards_run (scenario : Scenario) {steps : List ScenarioStep} (measured : ∀ value, .orientation value ∉ steps)
    (going : .teardown ∉ steps) : ∃ tracker orientation, ((start scenario).run steps).Holds scenario tracker orientation ∧
      tracker.Guards ((start scenario).Retains steps) orientation := by
  apply holds_run scenario measured going
  · exact ⟨fun _ _ => rfl, fun retained => absurd retained not_retains_nil⟩
  · intro first last tracker orientation holds measured going guards
    rw [← holds.tracker] at guards
    rw [propext retains_concat, holds.orientation]
    exact guards_step guards holds.running measured going

end Simulation

/-- In a script that tells no orientation outright, a session whose accelerometer is off knows no orientation, unless
the display was what switched it off: then it keeps the one that it knew, until a call notification has it forget. -/
theorem orientation_unknown_unless_retained (scenario : Scenario) (steps : List ScenarioStep)
    (measured : ∀ value, .orientation value ∉ steps) (going : .teardown ∉ steps) :
    let started := Simulation.start scenario
    let reached := started.run steps
    reached.world.accelerometer.enabled = false →
      (¬started.Retains steps → reached.engine.session.snapshot.orientation = .unknown) ∧
      (started.Retains steps → reached.engine.session.snapshot.orientation ≠ .unknown) := by
  intro started reached disabled
  obtain ⟨tracker, orientation, holds, guards⟩ := Simulation.guards_run scenario measured going
  rw [← holds.tracker, ← holds.orientation] at guards
  exact ⟨guards.unknown disabled, guards.retained⟩

theorem orientation_unknown_unless_retained_hungUp :
    let started := Simulation.start {}
    let steps := Simulation.stillCall ++ [.display 0 false, .callState .outgoing .idle {}]
    let reached := started.run steps
    reached.world.accelerometer.enabled = false ∧
      (¬started.Retains steps → reached.engine.session.snapshot.orientation = .unknown) ∧
      (started.Retains steps → reached.engine.session.snapshot.orientation ≠ .unknown) := by
  intro started steps reached
  have disabled : reached.world.accelerometer.enabled = false := by
    obtain ⟨candidate, settles, same⟩ := Simulation.run_stillCall
    simp only [reached, started, steps, Simulation.run_append, same]
    cases candidate with
    | unknown => exact absurd rfl settles
    | horizontal | other => decide
  refine ⟨disabled, ?_⟩
  apply orientation_unknown_unless_retained {} steps _ _ disabled
  · simp [steps, Simulation.stillCall]
  · simp [steps, Simulation.stillCall]

/-- A call is on, and the display goes off while the device lies still. -/
theorem orientation_known_with_display_off :
    let reached := (Simulation.start {}).run (Simulation.stillCall ++ [.uiShowing true, .display 0 false])
    reached.world.accelerometer.enabled = false ∧ reached.engine.session.snapshot.orientation ≠ .unknown := by
  obtain ⟨candidate, settles, same⟩ := Simulation.run_stillCall
  rw [Simulation.run_append, same]
  cases candidate with
  | unknown => exact absurd rfl settles
  | horizontal | other => decide

end CallProximity
