import CallProximity.Proofs.Lock

/-! While something keeps the screen on, the lock is not held: not after any event, in any
order, with preferences edited at will and acquisitions that fail at will. -/

namespace CallProximity

variable {World : Type} {platform : Platform World} {lock : WakeLock World} {engine : Engine World}

/-- The lock of a session that manages it is held only while nothing keeps the screen on. -/
structure Spares (lock : WakeLock World) (engine : Engine World) : Prop where
  coherent : engine.session.Coherent
  equipped : engine.session.equipment = (true, true)
  spared : lock.isHeld engine.world = true → engine.session.snapshot.keepsScreenOn = false

namespace Spares

theorem disturb (spares : Spares lock engine) {change : World → World}
    (undisturbed : ∀ world, lock.isHeld (change world) = lock.isHeld world) : Spares lock (engine.disturb change) where
  coherent := spares.coherent
  equipped := spares.equipped
  spared := fun held => spares.spared ((undisturbed engine.world).symm.trans held)

theorem start {config : ClassifierConfig} {world : World}
    (managed : (Engine.start platform config world).session.managesLock = true) :
    Spares lock (Engine.start platform config world) where
  coherent := Engine.coherent_start platform config world
  equipped := by
    rw [Engine.session_start] at managed ⊢
    simp only [Session.opening, Session.equipment] at *
    simp only [Bool.and_eq_true] at managed
    obtain ⟨sensor, sensed⟩ := Option.isSome_iff_exists.mp managed.1.2
    simp [managed, sensed, ProximityClassifier.isAvailable]
  spared := by
    rw [Engine.session_start]
    exact fun _ => rfl

end Spares

theorem Engine.isHeld_tearDown (present : platform.wakeLock = some lock) (releases : lock.Releases)
    (running : engine.session.tornDown = false) (managed : engine.session.managesLock = true) :
    lock.isHeld (engine.tearDown platform).world = false := by
  have manages : (engine.dismantle platform).session.managesLock = true := by
    rw [session_dismantle]
    exact managed
  rw [tearDown_of_running running, if_pos manages]
  exact isHeld_releaseLock present releases true

theorem Spares.step {event : Event} (present : platform.wakeLock = some lock) (releases : lock.Releases)
    (apart : lock.Apart platform) (spares : Spares lock engine)
    (enabled : ∀ preferences ∈ (⟨engine, event⟩ : Moment World).loaded? platform,
      preferences.sensorDisabled = false) :
    Spares lock (engine.step platform event) := by
  have coherent : (engine.step platform event).session.Coherent := Engine.coherent_step spares.coherent event
  have equipped : (engine.step platform event).session.equipment = (true, true) :=
    (Engine.equipment_step event).trans spares.equipped
  refine ⟨coherent, equipped, ?_⟩
  intro held
  cases running : engine.session.tornDown with
  | true =>
    rw [Engine.isHeld_of_asks apart (Engine.asks_step_of_tornDown _ event running)] at held
    rw [Engine.session_step_of_tornDown event running]
    exact spares.spared held
  | false =>
    cases settles : engine.session.settles event with
    | true =>
      have settled : Engine.Settled platform (engine.step platform event) := Engine.settled_step running settles
      have disabled := Engine.enabled_of_settles running settles coherent enabled
      cases wants : (engine.step platform event).session.snapshot.wantsLock
          (engine.step platform event).session.preferences with
      | true => exact Snapshot.dark_of_wantsLock wants
      | false => cases held.symm.trans (Engine.isHeld_of_unwanted present settled equipped disabled releases wants)
    | false =>
      by_cases closing : event = .tearDown
      · subst event
        have managed : engine.session.managesLock = true := congrArg Prod.fst spares.equipped
        cases held.symm.trans (Engine.isHeld_tearDown present releases running managed)
      · rw [Engine.isHeld_of_asks apart (Engine.asks_lock_step running settles closing)] at held
        rw [Engine.snapshot_step]
        exact (Session.snapshot_next_of_unsettled _ spares.coherent settles).1.trans (spares.spared held)

theorem Spares.after {occurrences : List (Occurrence World)} (present : platform.wakeLock = some lock)
    (releases : lock.Releases) (owned : lock.Owned platform occurrences)
    (enabled : engine.LoadsEnabled platform occurrences) (spares : Spares lock engine) :
    Spares lock (engine.after platform occurrences) := by
  refine (Engine.invariant_along (Spares lock) occurrences spares ?_ ?_).1
  · intro occurrence member engine spares
    exact spares.disturb (owned.undisturbed occurrence member)
  · intro moment member spares
    exact spares.step present releases owned.apart (enabled moment member)

/-- A lock that is held leaves the screen to the user: no video or text call is on or being
attempted, audio is at the ear, and the device does not lie flat with the call screen hidden
or the dialpad up. -/
theorem keepsScreenOn_of_held (platform : Platform World) (config : ClassifierConfig) (world : World)
    (occurrences : List (Occurrence World))
    (releases : ∀ lock, platform.wakeLock = some lock → lock.Releases)
    (owned : ∀ lock, platform.wakeLock = some lock → lock.Owned platform occurrences)
    (enabled : (Engine.start platform config world).LoadsEnabled platform occurrences)
    (held : ((Engine.start platform config world).after platform occurrences).lockState platform = .held) :
    let snapshot := ((Engine.start platform config world).after platform occurrences).session.snapshot
    snapshot.keepsScreenOn = false ∧ snapshot.isVideoCall = false ∧ snapshot.isRttCall = false ∧
      snapshot.isAttemptingVideoCall = false ∧ snapshot.audioRoute = .earpiece ∧
      ¬(snapshot.orientation = .horizontal ∧ (snapshot.uiShowing = false ∨ snapshot.dialpadVisible = true)) := by
  obtain ⟨lock, present, managed, held⟩ := Engine.lockState_eq_held_iff.mp held
  have kept : (Engine.start platform config world).session.managesLock = true :=
    (congrArg Prod.fst (Engine.equipment_after occurrences)).symm.trans managed
  have spares := (Spares.start kept).after present (releases lock present) (owned lock present) enabled
  have spared := spares.spared held
  intro snapshot
  refine ⟨spared, ?_⟩
  have fields : snapshot.keepsScreenOn = false := spared
  simp only [Snapshot.keepsScreenOn, Snapshot.isHorizontal, Bool.or_eq_false_iff, Bool.and_eq_false_iff,
    decide_eq_false_iff_not, ne_eq, Decidable.not_not, Bool.not_eq_false'] at fields
  obtain ⟨⟨⟨⟨⟨earpiece, attempting⟩, video⟩, rtt⟩, showing⟩, dialpad⟩ := fields
  refine ⟨video, rtt, attempting, earpiece, ?_⟩
  rintro ⟨horizontal, hidden | visible⟩
  · rcases showing with upright | shown
    · exact upright horizontal
    · cases hidden.symm.trans shown
  · rcases dialpad with upright | down
    · exact upright horizontal
    · cases visible.symm.trans down

theorem keepsScreenOn_of_held_flat :
    let platform := ({} : Scenario).platform
    let answered : CallList := { hasLiveCall := true, activeCall := some { id := "a" } }
    let snapshot := ((Engine.start platform {} {}).after platform [
      ⟨id, .uiShowing true⟩, ⟨id, .callState .idle .incoming {}⟩,
      ⟨id, .callState .incoming .inCall answered⟩,
      ⟨fun world => { world with store := world.store.setBool PreferenceKey.autoSpeaker true },
        .orientation .horizontal⟩]
      ).session.snapshot
    snapshot.keepsScreenOn = false ∧ snapshot.isVideoCall = false ∧ snapshot.isRttCall = false ∧
      snapshot.isAttemptingVideoCall = false ∧ snapshot.audioRoute = .earpiece ∧
      ¬(snapshot.orientation = .horizontal ∧ (snapshot.uiShowing = false ∨ snapshot.dialpadVisible = true)) := by
  apply keepsScreenOn_of_held
  · rintro lock ⟨⟩
    exact SimulatedWorld.releases_wakeLock
  · rintro lock ⟨⟩
    refine ⟨SimulatedWorld.apart_wakeLock _, ?_⟩
    intro occurrence member world
    simp only [List.mem_cons, List.not_mem_nil, or_false] at member
    rcases member with rfl | rfl | rfl | rfl <;> rfl
  · simp only [Engine.LoadsEnabled]
    decide
  · decide

end CallProximity
