import CallProximity.Proofs.SimulatedTimers

/-! On the clock of a simulation the deferred switch to the speaker happens exactly when it is due: in the wait
that goes past the time of its scheduling by more than the delay that was in force then. -/

namespace CallProximity

namespace Simulation

variable {scenario : Scenario} {simulation : Simulation} {generation since due : Nat} {delay : UInt64}

/-- At a step of the script, at this time, an activation of this number was scheduled, with the delay that its
event loaded. -/
def Scheduled (simulation : Simulation) (steps : List ScenarioStep) (generation since : Nat) (delay : UInt64) : Prop :=
  ∃ earlier scheduling later, steps = earlier ++ scheduling :: later ∧
    .schedule generation delay ∈ (simulation.run earlier).asked scheduling ∧
    since = (simulation.run earlier).world.timers.now ∧ delay = (simulation.run earlier).delay

theorem not_scheduled_nil : ¬simulation.Scheduled [] generation since delay := by
  rintro ⟨earlier, scheduling, later, split, -⟩
  simp at split

theorem scheduled_concat {steps : List ScenarioStep} {last : ScenarioStep} :
    simulation.Scheduled (steps ++ [last]) generation since delay ↔
      (.schedule generation delay ∈ (simulation.run steps).asked last ∧
        since = (simulation.run steps).world.timers.now ∧ delay = (simulation.run steps).delay) ∨
      simulation.Scheduled steps generation since delay := by
  simp only [Scheduled]
  exact exists_split_concat

/-- The script knows of the pending activation, and of none that is numbered higher. -/
structure Accounts (simulation : Simulation) (steps : List ScenarioStep) (session : Session) (due : Nat) : Prop where
  bounded : ∀ generation since delay, simulation.Scheduled steps generation since delay →
    generation ≤ session.generation
  scheduled : ∀ activation, session.pending = some activation →
    ∃ since delay, simulation.Scheduled steps activation.generation since delay
  due : ∀ activation, session.pending = some activation →
    ∀ since delay, simulation.Scheduled steps activation.generation since delay → due = since + delay.toNat

theorem Accounts.step {steps : List ScenarioStep} {last : ScenarioStep} {before after : Session} {next : Nat}
    (accounts : simulation.Accounts steps before due)
    (rearms : before.Rearms (simulation.run steps).world.timers.now (simulation.run steps).delay
      ((simulation.run steps).asked last) after due next) :
    simulation.Accounts (steps ++ [last]) after next where
  bounded := by
    intro generation since delay scheduled
    rcases scheduled_concat.mp scheduled with ⟨asked, -, -⟩ | earlier
    · exact (rearms.started generation delay asked).2.1
    · exact Nat.le_trans (accounts.bounded generation since delay earlier) rearms.grown
  scheduled := by
    intro activation pending
    rcases rearms.pending activation pending with ⟨kept, -⟩ | ⟨asked, -, -⟩
    · obtain ⟨since, delay, earlier⟩ := accounts.scheduled activation kept
      exact ⟨since, delay, scheduled_concat.mpr (.inr earlier)⟩
    · exact ⟨_, _, scheduled_concat.mpr (.inl ⟨asked, rfl, rfl⟩)⟩
  due := by
    intro activation pending since delay scheduled
    -- A number is given once, so what was scheduled under it tells which activation is pending.
    rcases rearms.pending activation pending with ⟨kept, rfl⟩ | ⟨-, newer, later⟩
    · rcases scheduled_concat.mp scheduled with ⟨asked, -, -⟩ | earlier
      · obtain ⟨_, _, earlier⟩ := accounts.scheduled activation kept
        have passed := accounts.bounded _ _ _ earlier
        have fresh := (rearms.started _ _ asked).1
        omega
      · exact accounts.due activation kept since delay earlier
    · rcases scheduled_concat.mp scheduled with ⟨-, rfl, rfl⟩ | earlier
      · exact later
      · have passed := accounts.bounded _ _ _ earlier
        omega

theorem accounts_run (scenario : Scenario) (steps : List ScenarioStep) : ∃ due,
    ((start scenario).run steps).Waits scenario due ∧
      (start scenario).Accounts steps ((start scenario).run steps).engine.session due := by
  induction steps using List.reverseRecOn with
  | nil =>
    have waits := waits_start scenario
    refine ⟨0, waits, ?_, ?_, ?_⟩
    · exact fun _ _ _ scheduled => absurd scheduled not_scheduled_nil
    · intro activation pending
      have none : (start scenario).engine.session.pending = none := congrArg Session.pending (Engine.session_start {} _)
      cases none.symm.trans pending
    · exact fun _ _ _ _ scheduled => absurd scheduled not_scheduled_nil
  | append_singleton first last ih =>
    obtain ⟨due, waits, accounts⟩ := ih
    obtain ⟨next, after, rearms⟩ := waits.step last
    rw [run_concat]
    exact ⟨next, after, accounts.step rearms⟩

namespace Waits

variable (waits : simulation.Waits scenario due)

include waits

theorem wait (time : UInt64) :
    (∃ activation, simulation.Reaches due time activation ∧
        (simulation.asked (.wait time)).count (.setRoute .speaker) = 1 ∧
        (simulation.step (.wait time)).engine.session.pending = none) ∨
      ((∀ activation, ¬simulation.Reaches due time activation) ∧ simulation.asked (.wait time) = [] ∧
        (simulation.step (.wait time)).engine.session.pending = simulation.engine.session.pending) := by
  by_cases reached : ∃ activation, simulation.Reaches due time activation
  · left
    obtain ⟨activation, reaches⟩ := reached
    obtain ⟨made, next, grown, quiet, gone, -⟩ := waits.fires reaches
    refine ⟨activation, reaches, ?_, gone⟩
    have others : made.count (.setRoute .speaker) = 0 := by
      apply List.count_eq_zero.mpr
      intro asked
      cases quiet _ asked
    rw [asked_of_requests grown, List.count_cons_self, others]
  · right
    rw [not_exists] at reached
    refine ⟨reached, waits.asked_of_unreached reached, ?_⟩
    rw [(waits.step_of_unreached reached).1, session_prepare]

theorem speaker_mem_asked_wait_iff (time : UInt64) :
    .setRoute .speaker ∈ simulation.asked (.wait time) ↔ ∃ activation, simulation.Reaches due time activation := by
  rcases waits.wait time with ⟨activation, reaches, once, -⟩ | ⟨unreached, silent, -⟩
  · have asked : 0 < (simulation.asked (.wait time)).count (.setRoute .speaker) := by omega
    exact iff_of_true (List.count_pos_iff.mp asked) ⟨activation, reaches⟩
  · rw [silent]
    exact iff_of_false (by simp) fun ⟨activation, reaches⟩ => unreached activation reaches

theorem count_speaker_le_one (step : ScenarioStep) :
    (simulation.entries step).count AudioRoute.speaker.entry ≤ 1 ∧
      (AudioRoute.speaker.entry ∈ simulation.entries step → ∃ time, step = .wait time) := by
  rw [count_entry_entries, entry_mem_entries_iff]
  by_cases waited : ∃ time, step = .wait time
  · obtain ⟨time, rfl⟩ := waited
    refine ⟨?_, fun _ => ⟨time, rfl⟩⟩
    rcases waits.wait time with ⟨_, -, once, -⟩ | ⟨-, silent, -⟩
    · exact Nat.le_of_eq once
    · simp [silent]
  · obtain ⟨made, next, grown, spared, -⟩ := waits.unwaited fun time same => waited ⟨time, same⟩
    rw [asked_of_requests grown, List.count_eq_zero.mpr spared]
    exact ⟨Nat.zero_le 1, fun asked => absurd asked spared⟩

theorem pending_wait (time : UInt64) : (simulation.step (.wait time)).engine.session.pending =
    if AudioRoute.speaker.entry ∈ simulation.entries (.wait time) then none
    else simulation.engine.session.pending := by
  simp only [entry_mem_entries_iff]
  rcases waits.wait time with ⟨activation, reaches, -, gone⟩ | ⟨-, silent, kept⟩
  · rw [if_pos ((waits.speaker_mem_asked_wait_iff time).mpr ⟨activation, reaches⟩)]
    exact gone
  · rw [silent, if_neg (by simp)]
    exact kept

end Waits

end Simulation

/-- The transcript shows one text for a request that audio go to the speaker, and shows it for no other request. Only
waits add it, once at most each. A wait adds it just where it reaches the time at which the pending activation is
due, counted from its scheduling. Then nothing is pending any more, and otherwise a wait leaves alone what is. -/
theorem speaker_asked_iff_due (scenario : Scenario) (steps : List ScenarioStep) :
    let started := Simulation.start scenario
    let reached := started.run steps
    let entry := "audio.set_route(speaker)"
    (∀ request : Request, request.describe? = some entry ↔ request = .setRoute .speaker) ∧
    (∀ step, (reached.step step).transcript = reached.transcript ++ reached.entries step ∧
      reached.entries step = (reached.asked step).filterMap Request.describe? ∧
      (reached.entries step).count entry ≤ 1 ∧
      (entry ∈ reached.entries step → ∃ time, step = .wait time)) ∧
    (∀ time, (reached.step (.wait time)).engine.session.pending =
      if entry ∈ reached.entries (.wait time) then none else reached.engine.session.pending) ∧
    (reached.engine.session.pending = none → ∀ time, entry ∉ reached.entries (.wait time)) ∧
    ∀ activation, reached.engine.session.pending = some activation →
      (∃ since delay, started.Scheduled steps activation.generation since delay) ∧
      ∀ since delay, started.Scheduled steps activation.generation since delay → ∀ time : UInt64,
        (entry ∈ reached.entries (.wait time) ↔
          0 < time ∧ since + delay.toNat < reached.world.timers.now + time.toNat) := by
  intro started reached entry
  obtain ⟨due, waits, accounts⟩ := Simulation.accounts_run scenario steps
  have named : entry = AudioRoute.speaker.entry := rfl
  have waited (time : UInt64) : entry ∈ reached.entries (.wait time) ↔
      ∃ activation, reached.Reaches due time activation := by
    rw [named, Simulation.entry_mem_entries_iff, waits.speaker_mem_asked_wait_iff]
  refine ⟨?_, ?_, waits.pending_wait, ?_, ?_⟩
  · intro request
    rw [named]
    exact Request.describe?_eq_entry_iff
  · intro step
    exact ⟨Simulation.transcript_step step, Simulation.entries_eq step, waits.count_speaker_le_one step⟩
  · intro idle time added
    obtain ⟨activation, reaches⟩ := (waited time).mp added
    cases idle.symm.trans reaches.pending
  · intro activation pending
    refine ⟨accounts.scheduled activation pending, ?_⟩
    intro since delay scheduled time
    rw [waited, ← accounts.due activation pending since delay scheduled, UInt64.lt_iff_toNat_lt]
    constructor
    · rintro ⟨_, reaches⟩
      exact ⟨reaches.passes, reaches.overdue⟩
    · rintro ⟨passes, overdue⟩
      exact ⟨activation, pending, passes, overdue⟩

/-- A wait for just the delay does not reach the time at which the activation is due. -/
example :
    let scenario : Scenario := { preferences := { ({} : Preferences) with autoSpeaker := true } }
    let reached := (Simulation.start scenario).run [.callState .idle .outgoing {},
      .callState .outgoing .inCall { hasLiveCall := true, activeCall := some { id := "a" } }]
    "audio.set_route(speaker)" ∉ reached.entries (.wait 3000) ∧
      "audio.set_route(speaker)" ∈ reached.entries (.wait 3001) := by
  decide +kernel

end CallProximity
