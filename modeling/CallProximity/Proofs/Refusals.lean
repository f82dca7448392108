import CallProximity.Proofs.AutoAnswer
import CallProximity.Proofs.Twins

/-! What the platform refuses leaves no trace in the session. Refused requests for the lock and for routes
change nothing but what the lock is asked for later. Where answers are refused, the session is as one that
has nobody to ask. -/

namespace CallProximity

variable {World Other : Type} {platform : Platform World} {engine : Engine World}

/-- Two runs that differ in which requests for the lock and for routes are refused have equal sessions at
every point, and ask for the same but for what they ask of the lock. -/
theorem refusals_move_lock_alone (platform : Platform World) (other : Platform Other) (config : ClassifierConfig)
    (world : World) (twin : Other) (occurrences : List (Occurrence World)) (counterparts : List (Occurrence Other))
    (alike : World → Other → Prop) (same : platform.Alike Request.isForLock alike other) (begins : alike world twin)
    (pairs : List.Forall₂ (Occurrence.Alike alike) occurrences counterparts) :
    let reached := (Engine.start platform config world).after platform occurrences
    let mirrored := (Engine.start other config twin).after other counterparts
    reached.session = mirrored.session ∧
      reached.requests.filter (!·.isForLock) = mirrored.requests.filter (!·.isForLock) := by
  intro reached mirrored
  have twins : Engine.Twins Request.isForLock alike reached mirrored := (same.start config begins).after same pairs
  exact ⟨twins.session, twins.requests⟩

/-- A call begins on devices that refuse the lock and every route. The session goes through the same states as
on devices that refuse nothing, and asks once more for the lock. -/
theorem refusals_move_lock_alone_denied :
    let granting := ({} : Scenario).platform
    let denied : WakeLock SimulatedWorld :=
      { SimulatedWorld.wakeLock with acquire := fun world => (.error (.wakeLock "denied"), world) }
    let refusing : Platform SimulatedWorld :=
      { granting with wakeLock := some denied, setRoute := fun _ world => (.error (.audioRoute "no device"), world) }
    let world : SimulatedWorld := { store := ({} : PreferenceStore).setBool PreferenceKey.autoSpeaker true }
    let occurrences : List (Occurrence SimulatedWorld) := [
      ⟨id, .uiShowing true⟩,
      ⟨id, .callState .idle .inCall { hasLiveCall := true, activeCall := some { id := "a" } }⟩,
      ⟨id, .distance 0⟩, ⟨id, .distance 5⟩, ⟨id, .orientation .other⟩]
    let reached := (Engine.start refusing {} world).after refusing occurrences
    let mirrored := (Engine.start granting {} world).after granting occurrences
    (reached.lockState refusing = .released ∧ mirrored.lockState granting = .held ∧
      reached.requests ≠ mirrored.requests) ∧
      reached.session = mirrored.session ∧
      reached.requests.filter (!·.isForLock) = mirrored.requests.filter (!·.isForLock) := by
  intro granting denied refusing world occurrences
  let seen (world : SimulatedWorld) := (world.screenOn, world.store)
  have kept (request : Request) (world : SimulatedWorld) : seen (refusing.perform world request) = seen world := by
    cases request <;> rfl
  have keptThere (request : Request) (world : SimulatedWorld) : seen (granting.perform world request) = seen world := by
    cases request <;> rfl
  refine ⟨by decide, refusals_move_lock_alone refusing granting {} world world occurrences occurrences
    (fun world twin => seen world = seen twin) ?_ rfl ?_⟩
  · exact {
      maxRange := rfl
      hasLock := rfl
      hasTelephony := fun _ => rfl
      preferences := fun alike => congrArg (fun seen => Preferences.load seen.2.source) alike
      screen := fun alike => congrArg Prod.fst alike
      accepts := fun _ => rfl
      held := fun lock shown => by cases lock.symm.trans shown
      shown := fun _ alike => (kept ..).trans (alike.trans (keptThere ..).symm)
      hiddenHere := fun _ alike => (kept ..).trans alike
      hiddenThere := fun _ alike => alike.trans (keptThere ..).symm }
  · exact List.forall₂_same.mpr fun occurrence member => by
      simp only [occurrences, List.mem_cons, List.not_mem_nil, or_false] at member
      rcases member with rfl | rfl | rfl | rfl | rfl <;> exact ⟨rfl, id⟩

theorem Session.wantsAnswer_of_unanswered {session : Session} (unanswered : session.lastAnswered = none)
    (near screenOn : Bool) : session.wantsAnswer near screenOn =
      shouldAutoAnswer near session.snapshot session.preferences true screenOn := by
  simp only [wantsAnswer, unanswered]
  cases session.calls.ringingCallId <;> simp

theorem Moment.requests_distance {moment : Moment World} {value : Float32} (present : platform.telephony.isSome = true)
    (rejects : platform.Rejects) (reading : moment.event = .distance value)
    (running : moment.engine.session.tornDown = false)
    (available : moment.engine.session.classifier.isAvailable = true)
    (unanswered : moment.engine.session.lastAnswered = none) :
    let session := (moment.after platform).session
    ∃ made, Request.acceptCall ∉ made ∧ moment.requests platform = made ++
      if shouldAutoAnswer session.snapshot.proximityNear session.snapshot session.preferences true
        (platform.isScreenOn (made.foldl platform.perform moment.engine.world)) then [.acceptCall] else [] := by
  obtain ⟨engine, event⟩ := moment
  dsimp only at reading running available unanswered
  subst reading
  have fresh : (engine.refreshPreferences platform).session = engine.session.refresh _ :=
    Engine.session_refreshPreferences
  have ready : (engine.refreshPreferences platform).session.classifier.isAvailable = true := by
    rw [fresh]
    exact available
  obtain ⟨judged, asks, kept, same⟩ := Engine.exists_judged platform ready value
  have answered : Moment.after platform ⟨engine, .distance value⟩ =
      judged.maybeAutoAnswer platform judged.session.snapshot.proximityNear := by
    rw [← same]
    exact Engine.process_of_running _ running
  have left : (judged.maybeAutoAnswer platform judged.session.snapshot.proximityNear).session = judged.session := by
    simp [Engine.session_maybeAutoAnswer_eq, rejects judged.world]
  have before : judged.session.lastAnswered = none := by
    rw [kept, fresh]
    exact unanswered
  obtain ⟨made, makes, unasked⟩ := (Engine.makes_refreshPreferences.asks _).trans asks
  refine ⟨made, ?_, ?_⟩
  · intro member
    exact List.filter_eq_nil_iff.mp unasked _ member rfl
  · rw [answered, left, requests_of_makes (answered ▸ makes.trans (Engine.makes_maybeAutoAnswer _)),
      Engine.answerRequests_eq, present, Session.wantsAnswer_of_unanswered before, makes.world]
    rfl

theorem Engine.filter_requests_of_no_telephony (absent : platform.telephony = none) (config : ClassifierConfig)
    (world : World) (occurrences : List (Occurrence World)) :
    ((start platform config world).after platform occurrences).requests.filter (!·.isAnswer) =
      ((start platform config world).after platform occurrences).requests := by
  apply List.filter_eq_self.mpr
  intro request member
  rw [requests_after, List.mem_append, List.mem_flatMap] at member
  rcases member with opening | ⟨moment, -, asked⟩
  · rw [eq_releaseLock_of_mem_requests_start opening]
    rfl
  · have answers : AnswersOnce platform moment.engine (moment.after platform) := .step moment.event
    obtain ⟨answered, few, asks⟩ := answers.asks
    rw [absent] at few
    obtain rfl := List.eq_nil_of_length_eq_zero (Nat.le_zero.mp few)
    simpa using List.filter_eq_nil_iff.mp (Moment.requests_of_asks asks) request asked

/-- Where every answer is refused, the session is at every point as one that cannot ask for any, and asks the same
of all other devices. Each later reading by which the ringing call is to be answered has it tried again. -/
theorem refused_answers_leave_no_trace (platform : Platform World) (other : Platform Other) (config : ClassifierConfig)
    (world : World) (twin : Other) (occurrences : List (Occurrence World)) (counterparts : List (Occurrence Other))
    (alike : World → Other → Prop) (present : platform.telephony.isSome = true) (rejects : platform.Rejects)
    (absent : other.telephony = none) (same : platform.Alike Request.isAnswer alike other) (begins : alike world twin)
    (pairs : List.Forall₂ (Occurrence.Alike alike) occurrences counterparts) :
    let started := Engine.start platform config world
    let reached := started.after platform occurrences
    let mirrored := (Engine.start other config twin).after other counterparts
    reached.session = mirrored.session ∧
      reached.requests.filter (!·.isAnswer) = mirrored.requests ∧
      ∀ moment ∈ started.moments platform occurrences, ∀ value, moment.event = .distance value →
        moment.engine.session.tornDown = false → platform.sensor.isSome = true →
          let session := (moment.after platform).session
          ∃ made, Request.acceptCall ∉ made ∧ moment.requests platform = made ++
            if shouldAutoAnswer session.snapshot.proximityNear session.snapshot session.preferences true
              (platform.isScreenOn (made.foldl platform.perform moment.engine.world)) then [.acceptCall] else [] := by
  intro started reached mirrored
  have twins : Engine.Twins Request.isAnswer alike reached mirrored := (same.start config begins).after same pairs
  refine ⟨twins.session, twins.requests.trans (Engine.filter_requests_of_no_telephony absent ..), ?_⟩
  have unanswered : ∀ moment ∈ started.moments platform occurrences, moment.engine.session.lastAnswered = none ∧
      moment.engine.session.classifier.isAvailable = platform.sensor.isSome := by
    refine (Engine.invariant_along (fun engine => engine.session.lastAnswered = none ∧
      engine.session.classifier.isAvailable = platform.sensor.isSome) occurrences ?_ (fun _ _ _ holds => holds) ?_).2
    · rw [Engine.session_start]
      refine ⟨rfl, ?_⟩
      simp only [Session.opening]
      cases platform.sensor <;> rfl
    · intro moment _ holds
      obtain ⟨unanswered, available⟩ := holds
      refine ⟨?_, (congrArg Prod.snd (Engine.equipment_step moment.event)).trans available⟩
      rw [Moment.after, Engine.session_step_of_rejects rejects, Session.lastAnswered_next]
      exact unanswered
  intro moment member value reading running sensor
  obtain ⟨unanswered, available⟩ := unanswered moment member
  exact moment.requests_distance present rejects reading running (available.trans sensor) unanswered

theorem refused_answers_leave_no_trace_busy :
    let asking := ({} : Scenario).platform
    let busy : Platform SimulatedWorld :=
      { asking with telephony := some fun world => (.error (.telephony "modem busy"), world) }
    let mute : Platform SimulatedWorld := { asking with telephony := none }
    let world : SimulatedWorld := { store := ({} : PreferenceStore).setBool PreferenceKey.autoAnswer true }
    let occurrences : List (Occurrence SimulatedWorld) := [
      ⟨id, .callState .idle .incoming { ringingCallId := some "a" }⟩,
      ⟨id, .distance 0⟩, ⟨id, .distance 5⟩, ⟨id, .distance 0⟩]
    let started := Engine.start busy {} world
    let reached := started.after busy occurrences
    let mirrored := (Engine.start mute {} world).after mute occurrences
    reached.requests.filter Request.isAnswer = [.acceptCall, .acceptCall] ∧
      reached.session = mirrored.session ∧
      reached.requests.filter (!·.isAnswer) = mirrored.requests ∧
      ∀ moment ∈ started.moments busy occurrences, ∀ value, moment.event = .distance value →
        moment.engine.session.tornDown = false → busy.sensor.isSome = true →
          let session := (moment.after busy).session
          ∃ made, Request.acceptCall ∉ made ∧ moment.requests busy = made ++
            if shouldAutoAnswer session.snapshot.proximityNear session.snapshot session.preferences true
              (busy.isScreenOn (made.foldl busy.perform moment.engine.world)) then [.acceptCall] else [] := by
  intro asking busy mute world occurrences
  refine ⟨by decide, refused_answers_leave_no_trace busy mute {} world world occurrences occurrences Eq rfl
    (fun _ => rfl) rfl ?_ rfl ?_⟩
  · exact {
      maxRange := rfl
      hasLock := rfl
      hasTelephony := nofun
      preferences := fun alike => congrArg (fun world => Preferences.load world.store.source) alike
      screen := fun alike => congrArg SimulatedWorld.screenOn alike
      accepts := fun _ => rfl
      held := fun _ _ alike => congrArg asking.lockHeld? alike
      shown := by
        rintro request world _ - rfl
        cases request <;> rfl
      hiddenHere := by
        rintro request world _ hides rfl
        cases request <;> first | rfl | cases hides
      hiddenThere := by
        rintro request world _ hides rfl
        cases request <;> first | rfl | cases hides }
  · exact List.forall₂_same.mpr fun _ _ => ⟨rfl, fun alike => congrArg _ alike⟩

end CallProximity
