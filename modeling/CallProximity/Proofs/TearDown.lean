import CallProximity.Proofs.Step
import CallProximity.Simulation
import Mathlib.Data.List.Induction

/-! The tear-down lets go of all that the session holds, and nothing happens after it. Whatever
comes then is noted at most; the platform is neither asked for anything nor looked at. Dropping
a session tears it down. -/

namespace CallProximity

variable {World : Type} {platform : Platform World} {engine : Engine World}

namespace Engine

/-- All that an event does to a torn-down session. No platform takes part in it. -/
def ignore (engine : Engine World) (occurrence : Occurrence World) : Engine World :=
  match occurrence.event with
  | .timer _ | .tearDown => engine.disturb occurrence.meanwhile
  | _ => (engine.disturb occurrence.meanwhile).note .trace "event after teardown ignored" []

section Ignore

variable (engine) (occurrence : Occurrence World)

@[simp] theorem session_ignore : (engine.ignore occurrence).session = engine.session := by
  simp only [ignore]
  split <;> rfl

@[simp] theorem exchanges_ignore : (engine.ignore occurrence).exchanges = engine.exchanges := by
  simp only [ignore]
  split <;> rfl

@[simp] theorem world_ignore : (engine.ignore occurrence).world = occurrence.meanwhile engine.world := by
  simp only [ignore]
  split <;> rfl

end Ignore

theorem after_meet_of_tornDown (done : engine.session.tornDown = true) (occurrence : Occurrence World) :
    (engine.meet occurrence).after platform = engine.ignore occurrence := by
  obtain ⟨meanwhile, event⟩ := occurrence
  have met : (engine.disturb meanwhile).session.tornDown = true := done
  simp only [Moment.after, meet, ignore]
  cases event with
  | timer generation => exact onTimer_of_tornDown generation met
  | tearDown => simp only [step, tearDown, met, ↓reduceIte]
  | _ => simp only [step, process, met, ↓reduceIte]

theorem after_of_tornDown (done : engine.session.tornDown = true) (occurrences : List (Occurrence World)) :
    engine.after platform occurrences = occurrences.foldl ignore engine := by
  induction occurrences generalizing engine with
  | nil => rfl
  | cons occurrence rest ih =>
    have kept : (engine.ignore occurrence).session.tornDown = true := by
      rw [session_ignore]
      exact done
    rw [after_cons, after_meet_of_tornDown done, ih kept]
    rfl

theorem foldl_ignore (engine : Engine World) (occurrences : List (Occurrence World)) :
    (occurrences.foldl ignore engine).session = engine.session ∧
      (occurrences.foldl ignore engine).exchanges = engine.exchanges ∧
      (occurrences.foldl ignore engine).world =
        occurrences.foldl (fun world occurrence => occurrence.meanwhile world) engine.world := by
  induction occurrences generalizing engine with
  | nil => exact ⟨rfl, rfl, rfl⟩
  | cons occurrence rest ih => simpa using ih (engine.ignore occurrence)

theorem tornDown_along (done : engine.session.tornDown = true) (occurrences : List (Occurrence World)) :
    (engine.after platform occurrences).session.tornDown = true ∧
      ∀ moment ∈ engine.moments platform occurrences, moment.engine.session.tornDown = true :=
  invariant_along (·.session.tornDown = true) occurrences done (fun _ _ _ done => done)
    (fun moment _ done => (congrArg Session.tornDown (session_step_of_tornDown moment.event done)).trans done)

theorem loaded?_of_tornDown {moment : Moment World} (done : moment.engine.session.tornDown = true) :
    moment.loaded? platform = none := by
  simp only [Moment.loaded?, done]
  split <;> rfl

end Engine

namespace Moment

variable {moment : Moment World}

theorem running_of_after (running : (moment.after platform).session.tornDown = false) :
    moment.engine.session.tornDown = false := by
  cases done : moment.engine.session.tornDown with
  | false => rfl
  | true =>
    have same : (moment.after platform).session = moment.engine.session :=
      Engine.session_step_of_tornDown moment.event done
    rw [same, done] at running
    cases running

theorem going_of_after (running : (moment.after platform).session.tornDown = false) : moment.event ≠ .tearDown := by
  obtain ⟨engine, event⟩ := moment
  rintro rfl
  have closed : (engine.step platform .tearDown).session = engine.session.close :=
    Engine.session_tearDown (running_of_after running)
  exact Bool.false_ne_true (running.symm.trans (congrArg Session.tornDown closed))

end Moment

theorem Engine.going_of_after {occurrences : List (Occurrence World)}
    (running : (engine.after platform occurrences).session.tornDown = false) :
    engine.session.tornDown = false ∧ ∀ occurrence ∈ occurrences, occurrence.event ≠ .tearDown := by
  induction occurrences using List.reverseRecOn with
  | nil => exact ⟨running, fun _ absent => by cases absent⟩
  | append_singleton first last ih =>
    rw [after_concat] at running
    obtain ⟨opened, going⟩ := ih (Moment.running_of_after running)
    exact ⟨opened, List.forall_mem_append.mpr ⟨going, List.forall_mem_singleton.mpr (Moment.going_of_after running)⟩⟩

/-- A tear-down calls off the timer of what is pending, has the orientation watched no more,
unsubscribes the sensor if there is one, and lets the lock go if the session manages it and it is
held even then. Whatever comes after it, the session stays as it is, nothing more is asked for and
no preferences are read: the course of things is the same on any other platform. -/
theorem tearDown_lets_go_for_good (platform : Platform World) (config : ClassifierConfig) (world : World)
    (earlier : List (Occurrence World)) (meanwhile : World → World) (later : List (Occurrence World))
    (running : ((Engine.start platform config world).after platform earlier).session.tornDown = false) :
    let closing := ((Engine.start platform config world).after platform earlier).meet ⟨meanwhile, .tearDown⟩
    let session := closing.engine.session
    let dismantling := session.pending.toList.map (fun activation => .cancel activation.generation) ++
      .enableOrientation false :: if platform.sensor.isSome then [.unsubscribe] else []
    let stillHeld := session.managesLock &&
      platform.wakeLock.any (·.isHeld (dismantling.foldl platform.perform closing.engine.world))
    let closed := closing.after platform
    let final := closed.after platform later
    closing.requests platform = dismantling ++ (if stillHeld then [.releaseLock true] else []) ∧
      closed.session = { session with tornDown := true, pending := none, subscriptions := {} } ∧
      final.session = closed.session ∧ final.exchanges = closed.exchanges ∧
      final.world = later.foldl (fun world occurrence => occurrence.meanwhile world) closed.world ∧
      (∀ moment ∈ closed.moments platform later, moment.loaded? platform = none) ∧
      ∀ other : Platform World, closed.after other later = final := by
  intro closing session dismantling stillHeld closed final
  have makes : Engine.Makes platform _ closing.engine (closing.after platform) := Engine.makes_tearDown running
  have shut : closed.session = session.close := Engine.session_tearDown running
  have done : closed.session.tornDown = true := by
    rw [shut]
    rfl
  have still : final = later.foldl Engine.ignore closed := Engine.after_of_tornDown done later
  obtain ⟨sessionKept, exchangesKept, worldLeft⟩ := closed.foldl_ignore later
  refine ⟨Moment.requests_of_makes makes, shut, ?_, ?_, ?_, ?_, ?_⟩
  · rw [still, sessionKept]
  · rw [still, exchangesKept]
  · rw [still, worldLeft]
  · intro moment member
    exact Engine.loaded?_of_tornDown ((Engine.tornDown_along done later).2 moment member)
  · intro other
    rw [still]
    exact Engine.after_of_tornDown done later

/-- With an activation pending and the lock held: its timer fires late, to no effect. -/
theorem tearDown_lets_go_for_good_pending :
    let platform := ({} : Scenario).platform
    let world : SimulatedWorld := { store := ({} : PreferenceStore).setBool PreferenceKey.autoSpeaker true }
    let earlier : List (Occurrence SimulatedWorld) := [
      ⟨id, .callState .idle .outgoing {}⟩,
      ⟨id, .callState .outgoing .inCall { hasLiveCall := true, activeCall := some { id := "a" } }⟩]
    let later : List (Occurrence SimulatedWorld) := [
      ⟨id, .timer 1⟩, ⟨id, .distance 0⟩, ⟨id, .callState .inCall .idle {}⟩, ⟨id, .tearDown⟩]
    let closing := ((Engine.start platform {} world).after platform earlier).meet ⟨id, .tearDown⟩
    let closed := closing.after platform
    let final := closed.after platform later
    ((Engine.start platform {} world).after platform earlier).session.tornDown = false ∧
      closing.requests platform = [.cancel 1, .enableOrientation false, .unsubscribe, .releaseLock true] ∧
      final.session = closed.session ∧ final.exchanges = closed.exchanges := by
  intro platform world earlier later closing closed final
  have running : ((Engine.start platform {} world).after platform earlier).session.tornDown = false := by decide
  obtain ⟨asked, -, sessionKept, exchangesKept, -⟩ :=
    tearDown_lets_go_for_good platform {} world earlier id later running
  exact ⟨running, asked.trans (by decide), sessionKept, exchangesKept⟩

end CallProximity
