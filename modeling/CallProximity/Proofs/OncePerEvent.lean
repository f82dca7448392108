import CallProximity.Proofs.AutoAnswer
import CallProximity.Proofs.LockRequests
import CallProximity.Proofs.Orientation

/-! No device flickers within an event. An event may raise several triggers, and each of them may have the
lock brought in line, the route judged or a call answered; still each device is asked at most once. -/

namespace CallProximity

variable {World : Type} {platform : Platform World}

structure WakeLock.Obeys (lock : WakeLock World) (platform : Platform World) : Prop where
  engages : lock.Engages
  releases : lock.Releases
  apart : lock.Apart platform

/-- The decision is carried out: with the lock in this state it permits no further request. -/
def LockAction.Done (action : LockAction) (held : Option Bool) : Prop :=
  ∀ request, request.isForLock = true → ¬action.Permits held request

namespace LockAction

theorem done_engage : Done .engage (some true) := by
  intro request kind
  cases request with
  | acquireLock | releaseLock _ => simp [Permits]
  | _ => cases kind

theorem done_release (restoreImmediately : Bool) : Done (.release restoreImmediately) (some false) := by
  intro request kind
  cases request with
  | acquireLock | releaseLock _ => simp [Permits]
  | _ => cases kind

end LockAction

namespace Platform

variable {action : LockAction} {world : World} {request : Request} {made : List Request}
  (obeys : ∀ lock, platform.wakeLock = some lock → lock.Obeys platform)

include obeys

theorem lockHeld?_perform (other : request.isForLock = false) :
    platform.lockHeld? (platform.perform world request) = platform.lockHeld? world := by
  simp only [lockHeld?]
  cases present : platform.wakeLock with
  | none => rfl
  | some lock => exact congrArg some ((obeys lock present).apart request world other)

theorem done_perform (kind : request.isForLock = true) (permitted : action.Permits (platform.lockHeld? world) request) :
    action.Done (platform.lockHeld? (platform.perform world request)) := by
  cases request with
  | acquireLock =>
    obtain ⟨rfl, free⟩ := permitted
    obtain ⟨lock, present, -⟩ := Option.map_eq_some_iff.mp free
    have held : platform.lockHeld? (platform.perform world .acquireLock) = some true := by
      simp [lockHeld?, perform, present, (obeys lock present).engages world]
    rw [held]
    exact LockAction.done_engage
  | releaseLock restoreImmediately =>
    obtain ⟨rfl, held⟩ := permitted
    obtain ⟨lock, present, -⟩ := Option.map_eq_some_iff.mp held
    have released : platform.lockHeld? (platform.perform world (.releaseLock restoreImmediately)) = some false := by
      simp [lockHeld?, perform, present, (obeys lock present).releases restoreImmediately world]
    rw [released]
    exact LockAction.done_release restoreImmediately
  | _ => cases kind

theorem Heeds.countP_eq_zero (heeds : platform.Heeds action world made)
    (done : action.Done (platform.lockHeld? world)) : made.countP Request.isForLock = 0 := by
  induction made generalizing world with
  | nil => rfl
  | cons request rest ih =>
    obtain ⟨permitted, heeds⟩ := heeds
    cases kind : request.isForLock with
    | true => exact absurd permitted (done request kind)
    | false =>
      rw [List.countP_cons_of_neg (by simp [kind])]
      exact ih heeds (by rwa [lockHeld?_perform obeys kind])

theorem Heeds.countP_le_one (heeds : platform.Heeds action world made) : made.countP Request.isForLock ≤ 1 := by
  induction made generalizing world with
  | nil => exact Nat.zero_le 1
  | cons request rest ih =>
    obtain ⟨permitted, heeds⟩ := heeds
    cases kind : request.isForLock with
    | true =>
      have spent := Heeds.countP_eq_zero obeys heeds (done_perform obeys kind permitted)
      rw [List.countP_cons_of_pos kind, spent]
    | false =>
      rw [List.countP_cons_of_neg (by simp [kind])]
      exact ih heeds

end Platform

namespace Session

theorem length_routeRequests_le_one (wantsSpeaker : Bool) (session : Session) :
    (session.routeRequests wantsSpeaker).length ≤ 1 := by
  simp only [routeRequests]
  split
  · split <;> simp
  · simp

theorem length_speakerRequests_le_one (around : Surroundings) (session : Session) (event : Event) :
    (session.speakerRequests around event).length ≤ 1 := by
  simp only [speakerRequests]
  split
  · simp
  · cases event with
    | timer generation =>
      simp only [fireRequests]
      split
      · split <;> simp
      · simp
    | distance value => exact length_routeRequests_le_one ..
    | callState old new calls =>
      dsimp only
      split
      · exact length_routeRequests_le_one ..
      · simp
    | _ => exact Nat.zero_le 1

theorem length_subscriptionRequests_le_one (around : Surroundings) (session : Session) (event : Event) :
    (session.subscriptionRequests around event).length ≤ 1 := by
  simp only [subscriptionRequests]
  split
  · simp
  · cases event with
    | callState old new calls =>
      simp only [sensorRequests]
      split <;> simp
    | tearDown =>
      dsimp only
      split <;> simp
    | _ => exact Nat.zero_le 1

end Session

theorem Moment.countP_le_one_of_asks {moment : Moment World} {kind : Request → Bool} {asked : List Request}
    (asks : Engine.Asks platform kind asked moment.engine (moment.after platform)) (few : asked.length ≤ 1) :
    (moment.requests platform).countP kind ≤ 1 := by
  rw [List.countP_eq_length_filter, requests_of_asks asks]
  exact few

/-- Whatever state an event finds, it makes at most one request for the lock, sets one route or starts one timer and
not both, has the call answered once, and switches the orientation and the subscription once. -/
theorem asks_each_device_once (platform : Platform World)
    (obeys : ∀ lock, platform.wakeLock = some lock → lock.Obeys platform) (moment : Moment World) :
    (moment.requests platform).countP Request.isForLock ≤ 1 ∧
      (moment.requests platform).countP Request.isForSpeaker ≤ 1 ∧
      (moment.requests platform).countP Request.isAnswer ≤ 1 ∧
      (moment.requests platform).countP Request.isForOrientation ≤ 1 ∧
      (moment.requests platform).countP Request.isForSensor ≤ 1 := by
  refine ⟨?_, ?_, ?_, ?_, ?_⟩
  · obtain ⟨made, makes, heeds⟩ := moment.heeds platform
    rw [Moment.requests_of_makes makes]
    exact Platform.Heeds.countP_le_one obeys heeds
  · exact moment.countP_le_one_of_asks (Engine.asks_step moment.event) (Session.length_speakerRequests_le_one ..)
  · have answers : Engine.AnswersOnce platform moment.engine (moment.after platform) := .step moment.event
    obtain ⟨asked, few, asks⟩ := answers.asks
    refine moment.countP_le_one_of_asks asks (few.trans ?_)
    cases platform.telephony <;> simp
  · refine moment.countP_le_one_of_asks (Engine.asks_orientation_step moment.event) ?_
    cases moment.engine.session.switch? moment.event <;> simp
  · exact moment.countP_le_one_of_asks (Engine.asks_sensor_step moment.event)
      (Session.length_subscriptionRequests_le_one ..)

/-- An outgoing call is answered before the session has heard of it, so two triggers have the lock brought in line. -/
theorem asks_each_device_once_outgoing :
    let platform := ({} : Scenario).platform
    let world : SimulatedWorld := { store := ({} : PreferenceStore).setBool PreferenceKey.autoSpeaker true }
    let moment := (Engine.start platform {} world).meet
      ⟨id, .callState .outgoing .inCall { hasLiveCall := true, activeCall := some { id := "a" } }⟩
    moment.requests platform = [.subscribe, .enableOrientation true, .acquireLock, .schedule 1 3000] ∧
      (moment.requests platform).countP Request.isForLock ≤ 1 ∧
      (moment.requests platform).countP Request.isForSpeaker ≤ 1 ∧
      (moment.requests platform).countP Request.isAnswer ≤ 1 ∧
      (moment.requests platform).countP Request.isForOrientation ≤ 1 ∧
      (moment.requests platform).countP Request.isForSensor ≤ 1 := by
  intro platform world moment
  refine ⟨by decide, asks_each_device_once platform ?_ moment⟩
  rintro lock ⟨⟩
  exact ⟨SimulatedWorld.engages_wakeLock, SimulatedWorld.releases_wakeLock, SimulatedWorld.apart_wakeLock _⟩

end CallProximity
