import CallProximity.Proofs.SimulatedTimers

/-! Where one wait is split in two, nothing changes. A timer that runs in the first of them has its route reported
before the second, but neither the timer nor the report minds what time it is. -/

namespace CallProximity

/-- The devices with other timers, and at another time. -/
def SimulatedWorld.retime (timers : TimerTable) (world : SimulatedWorld) : SimulatedWorld :=
  { world with timers }

namespace Scenario

variable {scenario : Scenario} {timers : TimerTable} (engine : Engine SimulatedWorld)

theorem session_retime : (engine.disturb (.retime timers)).session = engine.session := rfl

theorem onTimer_retime (generation : Nat) : (engine.disturb (.retime timers)).onTimer scenario.platform generation =
    (engine.onTimer scenario.platform generation).disturb (.retime timers) := by
  simp only [Engine.onTimer, session_retime]
  by_cases done : engine.session.tornDown = true
  · simp only [done, ↓reduceIte]
  · simp only [done]
    cases pending : engine.session.pending with
    | none => rfl
    | some activation =>
      by_cases same : activation.generation = generation
      · simp only [same, ↓reduceIte]
        rfl
      · simp only [same, ↓reduceIte]
        rfl

theorem refreshPreferences_retime : (engine.disturb (.retime timers)).refreshPreferences scenario.platform =
    (engine.refreshPreferences scenario.platform).disturb (.retime timers) := by
  have kept (notes : List LogRecord) (engine : Engine SimulatedWorld) :
    (engine.addNotes notes).session = engine.session := rfl
  have same : scenario.platform.preferences (engine.disturb (.retime timers)).world =
    scenario.platform.preferences engine.world := rfl
  simp only [Engine.refreshPreferences, kept, same, session_retime]
  by_cases fresh : Preferences.load (scenario.platform.preferences engine.world) = engine.session.preferences
  · simp only [fresh, ↓reduceIte]
    rfl
  · simp only [fresh, ↓reduceIte]
    rfl

theorem engageLock_retime : (engine.disturb (.retime timers)).engageLock scenario.platform =
    (engine.engageLock scenario.platform).disturb (.retime timers) := by
  have same : (engine.disturb (.retime timers)).world.lockHeld = engine.world.lockHeld := rfl
  simp only [Engine.engageLock, platform, same]
  cases held : engine.world.lockHeld <;> rfl

theorem releaseLock_retime (restoreImmediately : Bool) :
    (engine.disturb (.retime timers)).releaseLock scenario.platform restoreImmediately =
      (engine.releaseLock scenario.platform restoreImmediately).disturb (.retime timers) := by
  have same : (engine.disturb (.retime timers)).world.lockHeld = engine.world.lockHeld := rfl
  simp only [Engine.releaseLock, platform, same]
  cases held : engine.world.lockHeld <;> rfl

theorem recomputeLock_retime : (engine.disturb (.retime timers)).recomputeLock scenario.platform =
    (engine.recomputeLock scenario.platform).disturb (.retime timers) := by
  have noted (action : LockAction) (engine : Engine SimulatedWorld) : (engine.noteLockDecision action).session = engine.session := rfl
  simp only [Engine.recomputeLock, session_retime, noted]
  cases available : engine.session.classifier.isAvailable with
  | false => rfl
  | true =>
    simp only [↓reduceIte]
    cases engine.session.managesLock with
    | false => rfl
    | true =>
      cases decideLock engine.session.snapshot engine.session.preferences with
      | engage => exact engageLock_retime (engine.noteLockDecision .engage)
      | release restoreImmediately => exact releaseLock_retime (engine.noteLockDecision (.release restoreImmediately)) restoreImmediately
      | _ => rfl

theorem onAudioRoute_retime (idle : engine.session.pending = none) (route : AudioRoute) :
    (engine.disturb (.retime timers)).onAudioRoute scenario.platform route =
      (engine.onAudioRoute scenario.platform route).disturb (.retime timers) := by
  simp only [Engine.onAudioRoute, session_retime, CallAggregator.setRoute]
  by_cases same : route = engine.session.calls.audioRoute
  · simp only [same, ↓reduceIte]
  · simp only [same, ↓reduceIte]
    have spared (engine : Engine SimulatedWorld) (idle : engine.session.pending = none) :
        (if route = .earpiece then engine else engine.cancelPending scenario.platform) = engine := by
      split
      · rfl
      · simp only [Engine.cancelPending, idle]
    rw [spared, spared]
    · refine Eq.trans ?_ (recomputeLock_retime _)
      rfl
    · exact idle
    · exact idle

theorem process_retime (work : Engine SimulatedWorld → Engine SimulatedWorld)
    (spared : work ((engine.refreshPreferences scenario.platform).disturb (.retime timers)) =
      (work (engine.refreshPreferences scenario.platform)).disturb (.retime timers)) :
    (engine.disturb (.retime timers)).process scenario.platform work =
      (engine.process scenario.platform work).disturb (.retime timers) := by
  simp only [Engine.process, session_retime]
  by_cases done : engine.session.tornDown = true
  · simp only [done, ↓reduceIte]
    rfl
  · simp only [done]
    rw [refreshPreferences_retime, spared]
    rfl

end Scenario

namespace Simulation

variable {scenario : Scenario} {simulation : Simulation} {due : Nat} {timers : TimerTable}

theorem prepare_wait (time : UInt64) : simulation.prepare (.wait time) =
    simulation.changeWorld (.retime (simulation.world.timers.wait time.toNat).2) := rfl

theorem toNat_add_of_fits {first second : UInt64} (fits : first.toNat + second.toNat < UInt64.size) :
    (first + second).toNat = first.toNat + second.toNat := by
  rw [UInt64.toNat_add]
  exact Nat.mod_eq_of_lt fits

theorem prepare_wait_add (first second : UInt64) (fits : first.toNat + second.toNat < UInt64.size) :
    (simulation.prepare (.wait first)).prepare (.wait second) = simulation.prepare (.wait (first + second)) := by
  have whole : (first + second).toNat = first.toNat + second.toNat := toNat_add_of_fits fits
  have waited : ((simulation.world.timers.wait first.toNat).2.wait second.toNat).2 = _ := TimerTable.wait_add ..
  simp only [prepare_wait, whole, ← waited]
  rfl

theorem deliver_timer_retime (platform : simulation.platform = scenario.platform) (generation : Nat) :
    (simulation.changeWorld (.retime timers)).deliver (.timer generation) =
      (simulation.deliver (.timer generation)).changeWorld (.retime timers) := by
  obtain ⟨_, engine⟩ := simulation
  subst platform
  exact congrArg (mk scenario.platform) (Scenario.onTimer_retime engine generation)

theorem report_retime (platform : simulation.platform = scenario.platform)
    (idle : simulation.engine.session.pending = none) (route : AudioRoute) :
    (simulation.changeWorld (.retime timers)).report route = (simulation.report route).changeWorld (.retime timers) := by
  obtain ⟨_, engine⟩ := simulation
  subst platform
  have fresh : ((engine.disturb ({ · with requestedRoute := none })).refreshPreferences scenario.platform).session.pending =
      none := by
    rw [Engine.session_refreshPreferences]
    exact idle
  exact congrArg (mk scenario.platform)
    (Scenario.process_retime _ _ (Scenario.onAudioRoute_retime _ fresh route))

theorem settle_retime (platform : simulation.platform = scenario.platform)
    (idle : simulation.engine.session.pending = none) :
    (simulation.changeWorld (.retime timers)).settle = simulation.settle.changeWorld (.retime timers) := by
  have retimed : (simulation.changeWorld (.retime timers)).platform = scenario.platform := platform
  cases requested : simulation.world.requestedRoute with
  | none =>
    have still : (simulation.changeWorld (.retime timers)).world.requestedRoute = none := requested
    rw [settle_of_unrequested requested, settle_of_unrequested still]
  | some route =>
    have still : (simulation.changeWorld (.retime timers)).world.requestedRoute = some route := requested
    rw [settle_of_requested platform requested, settle_of_requested retimed still, report_retime platform idle]

theorem timers_settle (platform : simulation.platform = scenario.platform)
    (idle : simulation.engine.session.pending = none) : simulation.settle.world.timers = simulation.world.timers := by
  have same : simulation.changeWorld (.retime simulation.world.timers) = simulation := rfl
  have settled : (simulation.changeWorld (.retime simulation.world.timers)).settle = _ := settle_retime platform idle
  rw [same] at settled
  exact congrArg (·.world.timers) settled

namespace Waits

variable (waits : simulation.Waits scenario due)

include waits

theorem step_step_of_reached {first second : UInt64} {activation : PendingActivation}
    (fits : first.toNat + second.toNat < UInt64.size) (reaches : simulation.Reaches due first activation) :
    (simulation.step (.wait first)).step (.wait second) = simulation.step (.wait (first + second)) := by
  obtain ⟨next, after, -⟩ := waits.step (.wait first)
  obtain ⟨_, _, _, _, gone, -⟩ := waits.fires reaches
  have idle (activation : PendingActivation) : ¬(simulation.step (.wait first)).Reaches next second activation :=
    fun reaches => by cases gone.symm.trans reaches.pending
  have whole : simulation.Reaches due (first + second) activation := by
    have sum : (first + second).toNat = first.toNat + second.toNat := toNat_add_of_fits fits
    obtain ⟨pending, passes, overdue⟩ := reaches
    exact ⟨pending, by omega, by omega⟩
  rw [(after.step_of_unreached idle).1, waits.step_of_reached reaches, waits.step_of_reached whole,
    ← prepare_wait_add first second fits]
  have platform : (simulation.prepare (.wait first)).platform = scenario.platform := waits.platform
  have running := (waits.poised.awaits activation reaches.pending).running
  obtain ⟨session, -, timers⟩ := deliver_timer platform running reaches.pending
  have dropped : ((simulation.prepare (.wait first)).deliver (.timer activation.generation)).engine.session.pending =
      none := by
    rw [session]
  have delivered : ((simulation.prepare (.wait first)).deliver (.timer activation.generation)).platform =
    scenario.platform := platform
  rw [prepare_wait second, timers_settle delivered dropped, timers, ← settle_retime delivered dropped,
    ← deliver_timer_retime platform, ← prepare_wait]

/-- A timer that does not run in the first of two waits runs in the second just where it runs in the whole. -/
theorem step_step_of_unreached {first second : UInt64} (fits : first.toNat + second.toNat < UInt64.size)
    (unreached : ∀ activation, ¬simulation.Reaches due first activation) :
    (simulation.step (.wait first)).step (.wait second) = simulation.step (.wait (first + second)) := by
  obtain ⟨still, after⟩ := waits.step_of_unreached unreached
  have sum : (first + second).toNat = first.toNat + second.toNat := toNat_add_of_fits fits
  have now : (simulation.prepare (.wait first)).world.timers.now = simulation.world.timers.now + first.toNat :=
    TimerTable.now_wait _
  rw [still] at after ⊢
  have later (activation : PendingActivation) : (simulation.prepare (.wait first)).Reaches due second activation ↔
      simulation.Reaches due (first + second) activation := by
    constructor
    · rintro ⟨pending, passes, overdue⟩
      exact ⟨pending, by omega, by omega⟩
    · rintro ⟨pending, passes, overdue⟩
      have early : ¬(0 < first.toNat ∧ due < simulation.world.timers.now + first.toNat) :=
        fun ⟨passes, overdue⟩ => unreached activation ⟨pending, passes, overdue⟩
      exact ⟨pending, by omega, by omega⟩
  by_cases late : ∃ activation, simulation.Reaches due (first + second) activation
  · obtain ⟨activation, reaches⟩ := late
    rw [after.step_of_reached ((later activation).mpr reaches), waits.step_of_reached reaches,
      prepare_wait_add first second fits]
  · rw [not_exists] at late
    have calm (activation : PendingActivation) : ¬(simulation.prepare (.wait first)).Reaches due second activation :=
      fun reaches => late activation ((later activation).mp reaches)
    rw [(after.step_of_unreached calm).1, (waits.step_of_unreached late).1, prepare_wait_add first second fits]

end Waits

end Simulation

/-- Two waits on end leave the simulation, with all that it asked for and logged, as one wait for both times does. -/
theorem wait_wait (scenario : Scenario) (steps : List ScenarioStep) (first second : UInt64)
    (fits : first.toNat + second.toNat < UInt64.size) :
    let reached := (Simulation.start scenario).run steps
    (reached.step (.wait first)).step (.wait second) = reached.step (.wait (first + second)) := by
  intro reached
  obtain ⟨due, waits⟩ := Simulation.waits_run scenario steps
  by_cases early : ∃ activation, reached.Reaches due first activation
  · obtain ⟨activation, reaches⟩ := early
    exact waits.step_step_of_reached fits reaches
  · exact waits.step_step_of_unreached fits (not_exists.mp early)

/-- A timer that is due at the very end of the first wait runs in the second. -/
theorem wait_wait_boundary :
    let scenario : Scenario := { preferences := { ({} : Preferences) with autoSpeaker := true } }
    let steps : List ScenarioStep := [.callState .idle .outgoing {},
      .callState .outgoing .inCall { hasLiveCall := true, activeCall := some { id := "a" } }]
    let reached := (Simulation.start scenario).run steps
    (3000 : UInt64).toNat + (1 : UInt64).toNat < UInt64.size ∧ .setRoute .speaker ∉ reached.asked (.wait 3000) ∧
      .setRoute .speaker ∈ (reached.step (.wait 3000)).asked (.wait 1) ∧
      (reached.step (.wait 3000)).step (.wait 1) = reached.step (.wait (3000 + 1)) := by
  intro scenario steps reached
  have fits : (3000 : UInt64).toNat + (1 : UInt64).toNat < UInt64.size := by decide
  refine ⟨fits, ?_, ?_, wait_wait scenario steps 3000 1 fits⟩
  · decide +kernel
  · decide +kernel

end CallProximity
