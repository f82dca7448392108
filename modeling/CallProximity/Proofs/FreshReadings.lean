import CallProximity.Proofs.AnswerRequests
import CallProximity.Proofs.SpeakerRoute

/-! No call is answered by a reading from before the subscription of the sensor. A subscription that ends takes the
last reading with it, before any trigger of the same notification is worked off; a reason that hands over to the other
ends nothing, and the reading stays. -/

namespace CallProximity

namespace Session

variable {session : Session}

theorem reading_next_distance (around : Surroundings) (running : session.tornDown = false) {maxRange : Float32}
    (present : session.classifier.maxRange = some maxRange) (value : Float32) :
    (session.next around (.distance value)).classifier.reading =
      session.classifier.reading.next value maxRange session.classifier.config.threshold := by
  have available : (session.refresh around.preferences).classifier.isAvailable = true :=
    congrArg Option.isSome present
  have fed : (session.classifier.feed value).reading =
      session.classifier.reading.next value maxRange session.classifier.config.threshold := by
    simp only [ProximityClassifier.feed, present]
  simp only [next, running, Bool.false_eq_true, ↓reduceIte, react, available]
  exact fed

theorem reading_next (around : Surroundings) {event : Event} (running : session.tornDown = false)
    (unread : ∀ value, event ≠ .distance value) (going : event ≠ .tearDown) :
    (session.next around event).classifier.reading =
      if session.subscriptionRequests around event = [.unsubscribe] then .initial else session.classifier.reading := by
  cases event with
  | distance value => exact absurd rfl (unread value)
  | tearDown => exact absurd rfl going
  | callState old new calls =>
    rw [classifier_next_callState around running]
    simp only [subscriptionRequests, running, Bool.false_eq_true, ↓reduceIte, sensorRequests, hear, resubscribe]
    generalize ((session.refresh around.preferences).notify old new calls).subscriptions.changeTo
      ((session.refresh around.preferences).notify old new calls).wantedReasons = change
    cases around.hasSensor <;> cases change <;> rfl
  | _ =>
    simp only [subscriptionRequests, running, Bool.false_eq_true, ↓reduceIte]
    exact congrArg (·.2.1.reading) (heeded_next around session rfl going)

end Session

variable {World : Type} {platform : Platform World} {engine : Engine World}

theorem Moment.reading_after {moment : Moment World} : (moment.after platform).session.classifier.reading =
    (moment.engine.session.next (platform.surroundings moment.engine.world) moment.event).classifier.reading :=
  Engine.holds_step (·.classifier.reading = _) (fun _ _ same => same) rfl

/-- Since the subscription that is the current one began, a reading found the device near, and none after it
found it away. -/
def FoundNear (platform : Platform World) (maxRange threshold : Float32) (history : List (Moment World)) : Prop :=
  ∃ earlier found later, history = earlier ++ found :: later ∧
    (found.engine.Subscribed ∧
      ∃ value, found.event = .distance value ∧ (value == maxRange) = false ∧ value ≤ threshold) ∧
    (∀ moment ∈ found :: later, (moment.requests platform).filter Request.isForSensor = []) ∧
    ∀ moment ∈ later, ∀ value, moment.event = .distance value → (value == maxRange) = false

theorem foundNear_concat {maxRange threshold : Float32} {history : List (Moment World)} {last : Moment World}
    (steady : (last.requests platform).filter Request.isForSensor = []) :
    FoundNear platform maxRange threshold (history ++ [last]) ↔
      (last.engine.Subscribed ∧
        ∃ value, last.event = .distance value ∧ (value == maxRange) = false ∧ value ≤ threshold) ∨
      (FoundNear platform maxRange threshold history ∧
        ∀ value, last.event = .distance value → (value == maxRange) = false) := by
  simp only [FoundNear, exists_split_concat, List.forall_mem_cons, List.forall_mem_append, List.not_mem_nil,
    false_implies, implies_true, and_true, steady]
  constructor
  · rintro (near | ⟨earlier, found, later, split, near, kept, stayed, unmoved⟩)
    · exact .inl near
    · exact .inr ⟨⟨earlier, found, later, split, near, kept, stayed⟩, unmoved⟩
  · rintro (near | ⟨⟨earlier, found, later, split, near, kept, stayed⟩, unmoved⟩)
    · exact .inl near
    · exact .inr ⟨earlier, found, later, split, near, kept, stayed, unmoved⟩

/-- What is known of the device is not older than the subscription of the sensor. -/
structure Engine.Fresh (platform : Platform World) (config : ClassifierConfig) (engine : Engine World)
    (history : List (Moment World)) : Prop where
  forgotten : ¬engine.Subscribed → engine.session.classifier.reading = .initial
  near : engine.session.classifier.reading.near = true →
    ∃ sensor, platform.sensor = some sensor ∧ FoundNear platform sensor.maxRange config.threshold history

namespace Engine.Fresh

variable {config : ClassifierConfig} {history : List (Moment World)} {moment : Moment World}

theorem of_initial (initial : engine.session.classifier.reading = .initial) : engine.Fresh platform config history := by
  refine ⟨fun _ => initial, ?_⟩
  rw [initial]
  exact nofun

theorem sense {sensor : ProximitySensor World} {value : Float32} (fresh : moment.engine.Fresh platform config history)
    (running : moment.engine.session.tornDown = false) (subscribed : moment.engine.Subscribed)
    (present : platform.sensor = some sensor)
    (scale : moment.engine.session.classifier.scale = (some sensor.maxRange, config))
    (reading : moment.event = .distance value) :
    (moment.after platform).Fresh platform config (history ++ [moment]) := by
  have unasked : (moment.requests platform).filter Request.isForSensor = [] := by
    rw [Moment.requests_for_sensor, reading]
    exact ite_self _
  refine ⟨fun ended => absurd ((Moment.subscribed_after unasked).mpr subscribed) ended, ?_⟩
  intro near
  refine ⟨sensor, present, (foundNear_concat unasked).mpr ?_⟩
  rw [Moment.reading_after, reading, Session.reading_next_distance _ running (congrArg Prod.fst scale),
    ProximityReading.next] at near
  split at near
  · cases near
  next inRange =>
    have apart : (value == sensor.maxRange) = false := Bool.eq_false_iff.mpr inRange
    rcases Bool.or_eq_true_iff.mp near with before | within
    · obtain ⟨_, same, found⟩ := fresh.near before
      cases present.symm.trans same
      refine .inr ⟨found, ?_⟩
      intro other again
      cases reading.symm.trans again
      exact apart
    · have threshold : moment.engine.session.classifier.config = config := congrArg Prod.snd scale
      rw [threshold] at within
      exact .inl ⟨subscribed, value, reading, apart, of_decide_eq_true within⟩

/-- Short of readings, the subscription stays as it is, begins with the reading of before any distance, or ends and
goes back to it. -/
theorem unread (fresh : moment.engine.Fresh platform config history) (running : moment.engine.session.tornDown = false)
    (reasoned : moment.engine.Subscribed → moment.engine.session.subscriptions.isEmpty = false)
    (unread : ∀ value, moment.event ≠ .distance value) (going : moment.event ≠ .tearDown) :
    (moment.after platform).Fresh platform config (history ++ [moment]) := by
  have left := Moment.reading_after.trans
    (Session.reading_next (platform.surroundings moment.engine.world) running unread going)
  rcases Session.subscriptionRequests_cases (platform.surroundings moment.engine.world) running going with
    stays | ⟨begins, unwanted⟩ | ends
  · have unasked := Moment.requests_for_sensor.trans stays
    rw [stays, if_neg nofun] at left
    constructor
    · intro ended
      rw [left]
      exact fresh.forgotten (mt (Moment.subscribed_after unasked).mpr ended)
    · rw [left]
      intro near
      obtain ⟨sensor, present, found⟩ := fresh.near near
      refine ⟨sensor, present, (foundNear_concat unasked).mpr (.inr ⟨found, ?_⟩)⟩
      exact fun value reading => absurd reading (unread value)
  · rw [begins, if_neg (by decide)] at left
    have unsubscribed : ¬moment.engine.Subscribed := fun held => by cases unwanted.symm.trans (reasoned held)
    exact .of_initial (left.trans (fresh.forgotten unsubscribed))
  · rw [ends, if_pos rfl] at left
    exact .of_initial left

end Engine.Fresh

theorem Engine.fresh_after (platform : Platform World) (config : ClassifierConfig) (world : World)
    {occurrences : List (Occurrence World)}
    (delivered : ∀ moment ∈ (start platform config world).moments platform occurrences,
      ∀ value, moment.event = .distance value → moment.engine.Subscribed)
    (running : ((start platform config world).after platform occurrences).session.tornDown = false) :
    ((start platform config world).after platform occurrences).Fresh platform config
      ((start platform config world).moments platform occurrences) := by
  -- The condition on the history is about its end, so the run grows there.
  induction occurrences using List.reverseRecOn with
  | nil =>
    apply Fresh.of_initial
    rw [after_nil, session_start]
    simp only [Session.opening]
    split <;> rfl
  | append_singleton first last ih =>
    let engine := (start platform config world).after platform first
    rw [moments_append] at delivered ⊢
    rw [after_concat] at running ⊢
    have ran : engine.session.tornDown = false := Moment.running_of_after running
    have before : engine.Fresh platform config _ :=
      ih (fun moment member => delivered moment (List.mem_append_left _ member)) ran
    have fresh : (engine.meet last).engine.Fresh platform config _ := ⟨before.forgotten, before.near⟩
    have subscribed : (engine.meet last).engine.Subscribed ↔ _ := subscribed_iff_after config world ran
    by_cases reads : ∃ value, last.event = .distance value
    · obtain ⟨value, reading⟩ := reads
      have held : (engine.meet last).engine.Subscribed :=
        delivered _ (List.mem_append_right _ (List.mem_singleton_self _)) value reading
      obtain ⟨sensor, present⟩ := Option.isSome_iff_exists.mp (subscribed.mp held).1
      have scale := scale_after platform config world first
      rw [present] at scale
      exact fresh.sense ran held present scale reading
    · exact fresh.unread ran (fun held => (subscribed.mp held).2) (not_exists.mp reads) (Moment.going_of_after running)

/-- Where readings come only from a subscribed sensor, none outlives its subscription: a session without one knows
the device away and has nothing pending. So an answer is asked for only where the device was found near since the
subscription that is the current one began, and was not found away after that. -/
theorem answers_only_by_fresh_reading (platform : Platform World) (config : ClassifierConfig) (world : World)
    (occurrences : List (Occurrence World))
    (delivered : ∀ moment ∈ (Engine.start platform config world).moments platform occurrences,
      ∀ value, moment.event = .distance value → moment.engine.Subscribed) :
    let started := Engine.start platform config world
    let reached := started.after platform occurrences
    let snapshot := reached.session.snapshot
    (reached.session.tornDown = false → ¬reached.Subscribed →
      snapshot.proximityFar = true ∧ snapshot.proximityNear = false ∧ reached.session.pending = none) ∧
    ∀ earlier occurrence later, occurrences = earlier ++ occurrence :: later →
      .acceptCall ∈ ((started.after platform earlier).meet occurrence).requests platform →
      ∃ sensor, platform.sensor = some sensor ∧ FoundNear platform sensor.maxRange config.threshold
        (started.moments platform (earlier ++ [occurrence])) := by
  intro started reached snapshot
  constructor
  · intro running unsubscribed
    have poised : reached.session.Poised := (Engine.poised_along platform config world occurrences).1
    have fresh : reached.Fresh platform config _ := Engine.fresh_after platform config world delivered running
    have reading : snapshot.reading = .initial := poised.coherent.reading.trans (fresh.forgotten unsubscribed)
    refine ⟨congrArg ProximityReading.far reading, congrArg ProximityReading.near reading, ?_⟩
    cases pending : reached.session.pending with
    | none => rfl
    | some activation =>
      have awaits := poised.awaits activation pending
      have sensor := (Engine.isAvailable_after platform config world occurrences).symm.trans awaits.available
      exact absurd ((Engine.called_of_subscribed config world running).2 sensor awaits.offhook) unsubscribed
  · rintro earlier occurrence later rfl asked
    let moment := (started.after platform earlier).meet occurrence
    have same : started.after platform (earlier ++ [occurrence]) = moment.after platform := Engine.after_concat ..
    obtain ⟨judges, -, near, -⟩ := Moment.reason_of_acceptCall asked
    obtain ⟨running, mayAnswer⟩ := Session.running_of_judgesAnswer judges
    have going : moment.event ≠ .tearDown := by
      intro closing
      cases (congrArg Event.mayAnswer closing).symm.trans mayAnswer
    have runs : (started.after platform (earlier ++ [occurrence])).session.tornDown = false := by
      rw [same]
      exact (Engine.tornDown_step going).trans running
    have along : ∀ moment ∈ started.moments platform (earlier ++ [occurrence]),
        ∀ value, moment.event = .distance value → moment.engine.Subscribed := by
      intro moment member
      refine delivered moment ?_
      rw [← List.singleton_append, ← List.append_assoc, Engine.moments_append]
      exact List.mem_append_left _ member
    have fresh := Engine.fresh_after platform config world along runs
    have coherent : (started.after platform (earlier ++ [occurrence])).session.Coherent :=
      Engine.coherent_after (Engine.coherent_start platform config world) _
    have read : (started.after platform (earlier ++ [occurrence])).session.classifier.reading.near = true := by
      rw [← coherent.reading, same]
      exact near
    exact fresh.near read

/-- A call rings, and the phone is raised to the ear and answers it. -/
theorem answers_only_by_fresh_reading_ringing :
    let platform := ({} : Scenario).platform
    let world : SimulatedWorld := { store := ({} : PreferenceStore).setBool PreferenceKey.autoAnswer true }
    let ringing : Occurrence SimulatedWorld := ⟨id, .callState .idle .incoming { ringingCallId := some "a" }⟩
    let raised : Occurrence SimulatedWorld := ⟨id, .distance 0⟩
    let started := Engine.start platform {} world
    (∀ moment ∈ started.moments platform [ringing, raised],
      ∀ value, moment.event = .distance value → moment.engine.Subscribed) ∧
    .acceptCall ∈ ((started.after platform [ringing]).meet raised).requests platform ∧
    ∃ sensor, platform.sensor = some sensor ∧
      FoundNear platform sensor.maxRange 4 (started.moments platform [ringing, raised]) := by
  intro platform world ringing raised started
  have delivered : ∀ moment ∈ started.moments platform [ringing, raised],
      ∀ value, moment.event = .distance value → moment.engine.Subscribed := by
    intro moment member value reading
    simp only [Engine.moments, List.mem_cons, List.not_mem_nil, or_false] at member
    rcases member with rfl | rfl
    · cases reading
    · decide
  have asked : .acceptCall ∈ ((started.after platform [ringing]).meet raised).requests platform := by decide
  obtain ⟨-, answered⟩ := answers_only_by_fresh_reading platform {} world [ringing, raised] delivered
  exact ⟨delivered, asked, answered [ringing] raised [] rfl asked⟩

end CallProximity
