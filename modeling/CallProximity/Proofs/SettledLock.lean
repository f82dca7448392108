import CallProximity.Proofs.OncePerEvent

/-! A lock that does as it is told holds just what was decided last. Nothing that was asked for on the way
shows, and bringing the lock in line once more asks for nothing. -/

namespace CallProximity

variable {World : Type} {platform : Platform World} {engine : Engine World} {lock : WakeLock World}

namespace LockAction

/-- Whether the lock is held once the decision is carried out, where it decides that. -/
def outcome? : LockAction → Option Bool
  | .skip => none
  | .engage => some true
  | .release _ => some false

theorem outcome?_eq_none_iff {action : LockAction} : action.outcome? = none ↔ action = .skip := by
  cases action <;> simp [outcome?]

theorem done_skip (held : Option Bool) : Done .skip held := by
  intro request kind
  cases request with
  | acquireLock | releaseLock _ => simp [Permits]
  | _ => cases kind

theorem done_of_no_lock (action : LockAction) : action.Done none := by
  intro request kind
  cases request with
  | acquireLock | releaseLock _ => simp [Permits]
  | _ => cases kind

end LockAction

theorem Platform.Heeds.eq_nil {action : LockAction} {world : World} {made : List Request}
    (heeds : platform.Heeds action world made) (done : action.Done (platform.lockHeld? world))
    (locks : ∀ request ∈ made, request.isForLock = true) : made = [] := by
  cases made with
  | nil => rfl
  | cons request rest => exact absurd heeds.1 (done request (locks request (List.mem_cons_self ..)))

theorem Session.lockAction_eq_skip_iff {session : Session} : session.lockAction = .skip ↔
    session.equipment ≠ (true, true) ∨ session.snapshot.sensorDisabledByPreference = true := by
  simp only [lockAction, equipment, decideLock]
  cases session.managesLock <;> cases session.classifier.isAvailable <;>
    cases session.snapshot.sensorDisabledByPreference <;> simp
  split <;> simp

theorem Session.going_of_settles {session : Session} {event : Event} (settles : session.settles event = true) :
    event ≠ .tearDown := by
  intro ends
  rw [ends] at settles
  cases settles

namespace Engine

theorem isHeld_recomputeLock (present : platform.wakeLock = some lock) (engages : lock.Engages)
    (releases : lock.Releases) : lock.isHeld (engine.recomputeLock platform).world =
      engine.session.lockAction.outcome?.getD (lock.isHeld engine.world) := by
  rw [makes_recomputeLock.world, lockRequests_eq]
  simp only [Platform.lockHeld?, present, Option.map_some]
  cases engine.session.lockAction with
  | skip => rfl
  | engage =>
    cases held : lock.isHeld engine.world with
    | true => simpa [LockAction.outcome?] using held
    | false => simpa [LockAction.outcome?, Platform.perform, present] using engages engine.world
  | release restoreImmediately =>
    cases held : lock.isHeld engine.world with
    | true => simpa [LockAction.outcome?, Platform.perform, present] using releases restoreImmediately engine.world
    | false => simpa [LockAction.outcome?] using held

theorem Settled.done (works : ∀ lock, platform.wakeLock = some lock → lock.Engages ∧ lock.Releases)
    (settled : Settled platform engine) : engine.session.lockAction.Done (platform.lockHeld? engine.world) := by
  obtain ⟨before, rfl⟩ := settled
  simp only [Platform.lockHeld?]
  cases present : platform.wakeLock with
  | none => exact LockAction.done_of_no_lock _
  | some lock =>
    obtain ⟨engages, releases⟩ := works lock present
    rw [session_recomputeLock, Option.map_some, isHeld_recomputeLock present engages releases]
    cases before.session.lockAction with
    | skip => exact LockAction.done_skip _
    | engage => exact LockAction.done_engage
    | release restoreImmediately => exact LockAction.done_release restoreImmediately

/-- An event that has the lock brought in line leaves it as the session then decides. -/
theorem isHeld_step_of_settles {event : Event} (present : platform.wakeLock = some lock) (obeys : lock.Obeys platform)
    (running : engine.session.tornDown = false) (settles : engine.session.settles event = true) :
    lock.isHeld (engine.step platform event).world =
      (engine.step platform event).session.lockAction.outcome?.getD (lock.isHeld engine.world) := by
  have going := Session.going_of_settles settles
  cases acts : (engine.step platform event).session.lockAction with
  | skip =>
    obtain ⟨made, makes, heeds⟩ : Heeds platform _ engine (engine.step platform event) := heeds_step going
    rw [acts] at heeds
    exact isHeld_of_asks obeys.apart ⟨made, makes, Platform.spared_of_heeds_skip heeds⟩
  | engage | release _ =>
    obtain ⟨before, same⟩ : Settled platform (engine.step platform event) := settled_step running settles
    rw [same, session_recomputeLock] at acts
    rw [same, isHeld_recomputeLock present obeys.engages obeys.releases, acts]
    rfl

end Engine

end CallProximity
