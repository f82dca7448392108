import CallProximity.Proofs.LockAgreement

/-! No engagement is missed. The event that takes the decision to hold the lock tries for it, and so does
every later event that has the lock brought in line while it is free. A lock that is wanted and not held
was therefore refused since it was wanted. -/

namespace CallProximity

variable {World : Type} {platform : Platform World} {lock : WakeLock World} {preferences : Preferences}
  {start middle engine : Engine World} {event : Event}

/-- Acquiring takes effect unless it is refused. -/
def WakeLock.Grants (lock : WakeLock World) : Prop :=
  ∀ world, (lock.acquire world).1 = .ok () → lock.isHeld (lock.acquire world).2 = true

namespace Engine

def Engages (engine : Engine World) : Prop :=
  decideLock engine.session.snapshot engine.session.preferences = .engage

/-- Among all requests, the latest one to acquire the lock was refused, and it was made after those that
the earlier engine had made. -/
def RefusedSince (start engine : Engine World) : Prop :=
  ∃ made later, engine.exchanges = made ++ ⟨.acquireLock, true⟩ :: later ∧ start.exchanges <+: made ∧
    ∀ exchange ∈ later, exchange.request ≠ .acquireLock

/-- The decision to hold the lock was last taken at this event, and stands since. -/
structure Engaged (platform : Platform World) (engine : Engine World) (earlier : List (Occurrence World))
    (taken : Occurrence World) (later : List (Occurrence World)) : Prop where
  before : ¬(engine.after platform earlier).Engages
  since : ∀ part, part <+: later → (engine.after platform (earlier ++ taken :: part)).Engages

theorem exists_engaged {occurrences : List (Occurrence World)} (released : ¬engine.Engages)
    (engages : (engine.after platform occurrences).Engages) :
    ∃ earlier taken later, occurrences = earlier ++ taken :: later ∧ Engaged platform engine earlier taken later := by
  -- The decision stands on where the shorter run had taken it already, and is new at the end where not.
  induction occurrences using List.reverseRecOn with
  | nil => exact absurd engages released
  | append_singleton first last ih =>
    apply exists_split_concat.mpr
    by_cases engaged : (engine.after platform first).Engages
    · obtain ⟨earlier, taken, later, rfl, decided⟩ := ih engaged
      refine .inr ⟨earlier, taken, later, rfl, decided.before, ?_⟩
      intro part initial
      rcases List.prefix_concat_iff.mp initial with rfl | within
      · simpa using engages
      · exact decided.since part within
    · refine .inl ⟨engaged, ?_⟩
      intro part initial
      rw [List.prefix_nil.mp initial]
      exact engages

theorem engages_iff (enabled : engine.session.snapshot.sensorDisabledByPreference = false) :
    engine.Engages ↔ engine.session.snapshot.wantsLock engine.session.preferences = true := by
  rw [Engages, decideLock_of_enabled enabled]
  split <;> simp_all

theorem RefusedSince.spared (refused : RefusedSince start middle) (asks : Asks platform Request.isForLock [] middle engine) :
    RefusedSince start engine := by
  obtain ⟨made, later, record, after, spared⟩ := refused
  obtain ⟨asked, makes, unasked⟩ := asks
  obtain ⟨replies, grown, requests⟩ := makes.exists_replies
  refine ⟨made, later ++ replies, by rw [grown, record, List.append_assoc]; rfl, after, ?_⟩
  intro exchange member acquires
  rcases List.mem_append.mp member with old | new
  · exact spared exchange old acquires
  · have asked : exchange.request ∈ asked := requests ▸ List.mem_map_of_mem new
    exact List.filter_eq_nil_iff.mp unasked _ asked (by rw [acquires]; rfl)

theorem isHeld_or_refused_engageLock (present : platform.wakeLock = some lock) (grants : lock.Grants) :
    lock.isHeld (engine.engageLock platform).world = true ∨
      (engine.engageLock platform).exchanges = engine.exchanges ++ [⟨.acquireLock, true⟩] := by
  simp only [engageLock, present]
  split
  next held => exact .inl held
  next =>
    rw [world_attemptOrWarn, exchanges_attemptOrWarn]
    cases outcome : (lock.acquire engine.world).1 with
    | ok _ => exact .inl (grants engine.world outcome)
    | error _ => exact .inr (by simp [outcome, attempt.refused])

theorem recomputeLock_of_engages (equipped : engine.session.equipment = (true, true)) (engages : engine.Engages) :
    engine.recomputeLock platform = (engine.noteLockDecision .engage).engageLock platform := by
  simp only [Session.equipment, Prod.mk.injEq] at equipped
  simp only [Engages] at engages
  simp [recomputeLock, noteLockDecision, equipped, engages]

theorem SettledSince.isHeld_or_refused (settled : SettledSince platform start engine)
    (present : platform.wakeLock = some lock) (grants : lock.Grants)
    (equipped : engine.session.equipment = (true, true)) (engages : engine.Engages) :
    lock.isHeld engine.world = true ∨ RefusedSince start engine := by
  obtain ⟨middle, stands, rfl⟩ := settled
  simp only [Engages, session_recomputeLock] at equipped engages
  rw [recomputeLock_of_engages equipped engages]
  rcases isHeld_or_refused_engageLock present grants with held | refused
  · exact .inl held
  · exact .inr ⟨_, [], refused, stands, fun _ absent => by cases absent⟩

end Engine

theorem Steady.engages_iff (steady : Steady lock preferences engine) (enabled : preferences.sensorDisabled = false) :
    engine.Engages ↔ engine.session.snapshot.wantsLock engine.session.preferences = true := by
  apply Engine.engages_iff
  rw [steady.coherent.disabled, steady.loaded]
  exact enabled

/-- A session that decides to hold the lock holds it, or was refused it since the earlier engine. -/
structure Pursues (lock : WakeLock World) (start engine : Engine World) : Prop where
  stands : start.exchanges <+: engine.exchanges
  pursued : engine.Engages → lock.isHeld engine.world = true ∨ start.RefusedSince engine

namespace Pursues

theorem of_not_engages (released : ¬engine.Engages) : Pursues lock engine engine :=
  ⟨List.prefix_rfl, fun engages => absurd engages released⟩

theorem disturb (pursues : Pursues lock start engine) {change : World → World}
    (undisturbed : ∀ world, lock.isHeld (change world) = lock.isHeld world) :
    Pursues lock start (engine.disturb change) where
  stands := pursues.stands
  pursued engages := (pursues.pursued engages).imp_left (undisturbed engine.world).trans

theorem step (present : platform.wakeLock = some lock) (grants : lock.Grants) (apart : lock.Apart platform)
    (enabled : preferences.sensorDisabled = false) (going : event ≠ .tearDown)
    (steady : Steady lock preferences engine) (next : Steady lock preferences (engine.step platform event))
    (pursues : Pursues lock start engine) : Pursues lock start (engine.step platform event) := by
  cases settles : engine.session.settles event with
  | true =>
    have settled : Engine.SettledSince platform start (engine.step platform event) :=
      (Engine.settledSince_step steady.running settles).earlier pursues.stands
    exact ⟨settled.stands, settled.isHeld_or_refused present grants next.equipped⟩
  | false =>
    have asks : Engine.Asks platform Request.isForLock [] engine (engine.step platform event) :=
      Engine.asks_lock_step steady.running settles going
    refine ⟨pursues.stands.trans asks.stands, ?_⟩
    intro engages
    have wants := (next.engages_iff enabled).mp engages
    rw [next.loaded, ← steady.loaded, Engine.snapshot_step] at wants
    have engaged := (steady.engages_iff enabled).mpr
      (Session.wantsLock_of_next_of_unsettled _ steady.coherent settles wants)
    rw [Engine.isHeld_of_asks apart asks]
    exact (pursues.pursued engaged).imp_right fun refused => refused.spared asks

theorem after {occurrences : List (Occurrence World)} (present : platform.wakeLock = some lock)
    (releases : lock.Releases) (grants : lock.Grants) (enabled : preferences.sensorDisabled = false)
    (run : Undisturbed lock preferences platform engine occurrences) (steady : Steady lock preferences engine) :
    Steady lock preferences (engine.after platform occurrences) ∧
      ∀ earlier later, occurrences = earlier ++ later → ¬(engine.after platform earlier).Engages →
        Pursues lock (engine.after platform earlier) (engine.after platform occurrences) := by
  -- The points of a longer run are its end and those of the shorter one.
  induction occurrences using List.reverseRecOn with
  | nil =>
    refine ⟨steady, ?_⟩
    intro earlier later split released
    obtain ⟨rfl, -⟩ := List.append_eq_nil_iff.mp split.symm
    exact of_not_engages released
  | append_singleton first last ih =>
    obtain ⟨steady, pursues⟩ := ih run.init
    obtain ⟨met, next⟩ := run.steady present releases enabled steady
    refine ⟨by rwa [Engine.after_concat], ?_⟩
    intro earlier later split released
    rcases List.eq_nil_or_concat later with rfl | ⟨later, final, rfl⟩
    · rw [List.append_nil] at split
      rw [split]
      exact of_not_engages released
    · rw [List.concat_eq_append, ← List.append_assoc] at split
      obtain ⟨same, -⟩ := List.append_inj' split rfl
      rw [Engine.after_concat]
      exact ((pursues earlier later same released).disturb run.isHeld).step present grants run.owned.apart enabled
        (run.going last (by simp)) met next

end Pursues

/-- Where the session decides to hold the lock, it holds it, or the latest attempt to get it was refused, and
that attempt was made no earlier than the event that took the decision. -/
theorem held_or_refused_since_engaged (platform : Platform World) (config : ClassifierConfig) (world : World)
    (occurrences : List (Occurrence World)) (lock : WakeLock World) (present : platform.wakeLock = some lock)
    (sensor : platform.sensor.isSome = true) (releases : lock.Releases) (grants : lock.Grants)
    (owned : lock.Owned platform occurrences)
    (enabled : (Preferences.load (platform.preferences world)).sensorDisabled = false)
    (unchanged : ∀ moment ∈ (Engine.start platform config world).moments platform occurrences,
      ∀ loaded ∈ moment.loaded? platform, loaded = Preferences.load (platform.preferences world))
    (going : ∀ occurrence ∈ occurrences, occurrence.event ≠ .tearDown) :
    let started := Engine.start platform config world
    let reached := started.after platform occurrences
    decideLock reached.session.snapshot reached.session.preferences = .engage →
      reached.lockState platform = .held ∨
        ∃ earlier taken later, occurrences = earlier ++ taken :: later ∧
          started.Engaged platform earlier taken later ∧ (started.after platform earlier).RefusedSince reached := by
  intro started reached engages
  have steady : Steady lock _ started := .start present sensor enabled
  have released : ¬started.Engages := by
    rw [steady.engages_iff enabled, Engine.session_start]
    exact Bool.false_ne_true
  obtain ⟨steady, pursues⟩ := Pursues.after present releases grants enabled ⟨owned, unchanged, going⟩ steady
  obtain ⟨earlier, taken, later, split, engaged⟩ := Engine.exists_engaged released engages
  have pursued := (pursues earlier (taken :: later) split engaged.before).pursued engages
  exact pursued.imp (steady.lockState_eq_held_iff present).mpr fun refused =>
    ⟨earlier, taken, later, split, engaged, refused⟩

/-- The call begins, the lock is denied, and a near reading does not ask for it again. -/
theorem held_or_refused_since_engaged_denied :
    let denied : WakeLock SimulatedWorld :=
      { SimulatedWorld.wakeLock with acquire := fun world => (.error (.wakeLock "denied"), world) }
    let platform : Platform SimulatedWorld := { ({} : Scenario).platform with wakeLock := some denied }
    let occurrences : List (Occurrence SimulatedWorld) := [
      ⟨id, .uiShowing true⟩,
      ⟨id, .callState .idle .inCall { hasLiveCall := true, activeCall := some { id := "a" } }⟩,
      ⟨id, .distance 0⟩]
    let started := Engine.start platform {} {}
    let reached := started.after platform occurrences
    reached.lockState platform = .released ∧
      ∃ earlier taken later, occurrences = earlier ++ taken :: later ∧
        started.Engaged platform earlier taken later ∧ (started.after platform earlier).RefusedSince reached := by
  intro denied platform occurrences started reached
  have state : reached.lockState platform = .released := by decide
  refine ⟨state, ?_⟩
  have answer := held_or_refused_since_engaged platform {} {} occurrences denied rfl rfl
    (fun _ _ => rfl) (fun _ granted => by cases granted) ⟨?_, ?_⟩ (by decide) (by decide)
    (by simp [occurrences]) (by decide)
  · exact answer.resolve_left (by rw [state]; decide)
  · intro request world other
    cases request with
    | acquireLock | releaseLock _ => cases other
    | acceptCall | subscribe | unsubscribe =>
      simp only [Platform.perform, platform, Scenario.platform]
      split <;> rfl
    | _ => rfl
  · intro occurrence member world
    simp only [occurrences, List.mem_cons, List.not_mem_nil, or_false] at member
    rcases member with rfl | rfl | rfl <;> rfl

end CallProximity
