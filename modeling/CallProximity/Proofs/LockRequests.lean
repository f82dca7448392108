import CallProximity.Proofs.Lock

/-! Every request for the lock has its reason. The session looks at the lock before it asks for
anything, and asks for what the snapshot that the event leaves behind decides, however often the
event has the lock brought in line. Only the start and the tear-down let the lock go without a
decision. -/

namespace CallProximity

variable {World : Type}

def Platform.lockHeld? (platform : Platform World) (world : World) : Option Bool :=
  platform.wakeLock.map (·.isHeld world)

/-- The requests that carry out a decision about a lock in this state. Other devices do not count. -/
def LockAction.Permits (action : LockAction) (held : Option Bool) : Request → Prop
  | .acquireLock => action = .engage ∧ held = some false
  | .releaseLock restoreImmediately => action = .release restoreImmediately ∧ held = some true
  | _ => True

/-- Each request is permitted by the decision, and by what the ones before it made of the lock. -/
def Platform.Heeds (platform : Platform World) (action : LockAction) : World → List Request → Prop
  | _, [] => True
  | world, request :: rest =>
      action.Permits (platform.lockHeld? world) request ∧
        platform.Heeds action (platform.perform world request) rest

namespace LockAction

variable {action : LockAction} {held : Option Bool}

theorem permits_of_not_isForLock {request : Request} (other : request.isForLock = false) :
    action.Permits held request := by
  cases request with
  | acquireLock | releaseLock _ => cases other
  | _ => trivial

end LockAction

namespace Platform

theorem any_isHeld_iff {platform : Platform World} {world : World} :
    platform.wakeLock.any (·.isHeld world) = true ↔ platform.lockHeld? world = some true := by
  simp only [lockHeld?]
  cases platform.wakeLock <;> simp

variable {platform : Platform World} {action : LockAction} {world : World} {made : List Request}

theorem heeds_append {more : List Request} : platform.Heeds action world (made ++ more) ↔
    platform.Heeds action world made ∧ platform.Heeds action (made.foldl platform.perform world) more := by
  induction made generalizing world with
  | nil => simp [Heeds]
  | cons request rest ih => simp only [List.cons_append, Heeds, ih, List.foldl_cons, and_assoc]

theorem heeds_of_spared (spared : made.filter Request.isForLock = []) : platform.Heeds action world made := by
  induction made generalizing world with
  | nil => trivial
  | cons request rest ih =>
    have others := List.filter_eq_nil_iff.mp spared
    have other : request.isForLock = false := by simpa using others request (List.mem_cons_self ..)
    refine ⟨LockAction.permits_of_not_isForLock other, ih ?_⟩
    exact List.filter_eq_nil_iff.mpr fun request member => others request (List.mem_cons_of_mem _ member)

theorem Heeds.permits {earlier later : List Request} {request : Request} (heeds : platform.Heeds action world made)
    (split : made = earlier ++ request :: later) :
    action.Permits (platform.lockHeld? (earlier.foldl platform.perform world)) request := by
  subst split
  exact (heeds_append.mp heeds).2.1

end Platform

namespace Session

variable {session : Session}

/-- What the session means to do about the lock, if it is its to manage. -/
def lockAction (session : Session) : LockAction :=
  if session.classifier.isAvailable && session.managesLock then
    decideLock session.snapshot session.preferences
  else .skip

theorem equipped_of_lockAction {action : LockAction} (acts : session.lockAction = action) (moves : action ≠ .skip) :
    session.equipment = (true, true) ∧ decideLock session.snapshot session.preferences = action := by
  simp only [lockAction] at acts
  split at acts
  · next equipped =>
    rw [Bool.and_eq_true] at equipped
    exact ⟨by simp [equipment, equipped], acts⟩
  · exact absurd acts.symm moves

theorem lockAction_reroute (wantsSpeaker : Bool) : (session.reroute wantsSpeaker).lockAction = session.lockAction := rfl

theorem lockAction_answered (call : Option String) : (session.answered call).lockAction = session.lockAction := rfl

end Session

theorem enabled_of_decideLock {snapshot : Snapshot} {preferences : Preferences}
    (decided : decideLock snapshot preferences ≠ .skip) : snapshot.sensorDisabledByPreference = false := by
  cases disabled : snapshot.sensorDisabledByPreference with
  | false => rfl
  | true => simp [decideLock, disabled] at decided

theorem eq_keepsScreenOn_of_decideLock {snapshot : Snapshot} {preferences : Preferences} {restoreImmediately : Bool}
    (decided : decideLock snapshot preferences = .release restoreImmediately) :
    restoreImmediately = snapshot.keepsScreenOn := by
  have acts : decideLock snapshot preferences ≠ .skip := by simp [decided]
  rw [decideLock_of_enabled (enabled_of_decideLock acts)] at decided
  split at decided
  · cases decided
  · cases decided
    rfl

namespace Engine

variable {platform : Platform World} {engine before middle after : Engine World} {action : LockAction}

/-- The later engine asked for the lock by this decision alone. -/
def Heeds (platform : Platform World) (action : LockAction) (before after : Engine World) : Prop :=
  ∃ made, Makes platform made before after ∧ platform.Heeds action before.world made

namespace Heeds

theorem of_asks (asks : Asks platform Request.isForLock [] before after) : Heeds platform action before after := by
  obtain ⟨made, makes, spared⟩ := asks
  exact ⟨made, makes, Platform.heeds_of_spared spared⟩

theorem trans (first : Heeds platform action before middle) (last : Heeds platform action middle after) :
    Heeds platform action before after := by
  obtain ⟨made, makes, heeds⟩ := first
  obtain ⟨more, makesMore, heedsMore⟩ := last
  rw [makes.world] at heedsMore
  exact ⟨made ++ more, makes.trans makesMore, Platform.heeds_append.mpr ⟨heeds, heedsMore⟩⟩

end Heeds

/-- Bringing the lock in line asks for just what the session means to do about it, if that is left to do. -/
theorem lockRequests_eq : engine.lockRequests platform =
    match engine.session.lockAction with
    | .skip => []
    | .engage => if platform.lockHeld? engine.world = some false then [.acquireLock] else []
    | .release restoreImmediately =>
        if platform.lockHeld? engine.world = some true then [.releaseLock restoreImmediately] else [] := by
  cases present : platform.wakeLock with
  | none =>
    simp only [lockRequests, Platform.lockHeld?, present, Option.map_none, reduceCtorEq, ↓reduceIte]
    split <;> rfl
  | some lock =>
    simp only [lockRequests, Session.lockAction, Platform.lockHeld?, present, Option.map_some]
    split
    · cases decideLock engine.session.snapshot engine.session.preferences with
      | skip => rfl
      | engage | release _ => cases lock.isHeld engine.world <;> rfl
    · rfl

theorem heeds_recomputeLock : Heeds platform engine.session.lockAction engine (engine.recomputeLock platform) := by
  refine ⟨_, makes_recomputeLock, ?_⟩
  rw [lockRequests_eq]
  cases engine.session.lockAction with
  | skip => trivial
  | engage | release _ =>
    dsimp only
    split
    · next held => exact ⟨⟨rfl, held⟩, trivial⟩
    · trivial

theorem heeds_of_settled (asks : Asks platform Request.isForLock [] before middle) :
    Heeds platform (middle.recomputeLock platform).session.lockAction before (middle.recomputeLock platform) := by
  rw [session_recomputeLock]
  exact (Heeds.of_asks asks).trans heeds_recomputeLock

theorem heeds_runTrigger (trigger : Trigger) : Heeds platform (engine.runTrigger platform trigger).session.lockAction
    engine (engine.runTrigger platform trigger) := by
  obtain ⟨middle, asks, same⟩ := recomputes_runTrigger platform engine trigger
  rw [same]
  exact heeds_of_settled asks

theorem lockAction_runTrigger {trigger : Trigger} (later : trigger ≠ .resync) :
    (engine.runTrigger platform trigger).session.lockAction = engine.session.lockAction := by
  cases trigger with
  | resync => exact absurd rfl later
  | outgoingAnswered =>
    simp only [runTrigger, session_recomputeLock, session_recomputeRoute]
    exact Session.lockAction_reroute _
  | incoming =>
    obtain ⟨call, answered, -⟩ := @session_maybeAutoAnswer World platform engine engine.session.snapshot.proximityNear
    simp only [runTrigger, session_recomputeLock, answered]
    exact Session.lockAction_answered call

theorem heeds_runTriggers (change : ChangeSet) (asked : Asks platform Request.isForLock [] before engine) :
    Heeds platform (engine.runTriggers platform change).session.lockAction before (engine.runTriggers platform change) := by
  have first : Heeds platform
      (if change.resync then engine.runTrigger platform .resync else engine).session.lockAction before
      (if change.resync then engine.runTrigger platform .resync else engine) := by
    split
    · exact (Heeds.of_asks asked).trans (heeds_runTrigger .resync)
    · exact .of_asks asked
  have more {engine : Engine World} (heeds : Heeds platform engine.session.lockAction before engine)
      (trigger : Trigger) (later : trigger ≠ .resync) (raised : Bool) :
      Heeds platform (if raised then engine.runTrigger platform trigger else engine).session.lockAction before
        (if raised then engine.runTrigger platform trigger else engine) := by
    split
    · have same : (engine.runTrigger platform trigger).session.lockAction = _ := lockAction_runTrigger later
      have last : Heeds platform _ engine (engine.runTrigger platform trigger) := heeds_runTrigger trigger
      rw [same] at last ⊢
      exact heeds.trans last
    · exact heeds
  exact more (more first .outgoingAnswered (by decide) _) .incoming (by decide) _

/-- Short of the tear-down, an event asks for the lock as the session that it leaves behind decides. -/
theorem heeds_step {event : Event} (going : event ≠ .tearDown) :
    Heeds platform (engine.step platform event).session.lockAction engine (engine.step platform event) := by
  cases running : engine.session.tornDown with
  | true => exact .of_asks (asks_step_of_tornDown _ event running)
  | false =>
    cases settles : engine.session.settles event with
    | false => exact .of_asks (asks_lock_step running settles going)
    | true =>
      rcases recomputes_of_settles platform running settles with
        ⟨middle, asks, same⟩ | ⟨heard, change, asks, -, same⟩
      · rw [same]
        exact heeds_of_settled asks
      · rw [same]
        exact heeds_runTriggers change asks

theorem heeds_tearDown : Heeds platform (if engine.session.managesLock then .release true else .skip) engine
    (engine.step platform .tearDown) := by
  cases running : engine.session.tornDown with
  | true => exact .of_asks (asks_step_of_tornDown _ .tearDown running)
  | false =>
    refine ⟨_, makes_tearDown running, ?_⟩
    have spared : (engine.session.closingRequests platform.sensor.isSome).filter Request.isForLock = [] := by
      simp only [Session.closingRequests, Session.cancelRequests]
      cases platform.sensor.isSome <;> simp [Request.concerns, Request.matter]
    refine Platform.heeds_append.mpr ⟨Platform.heeds_of_spared spared, ?_⟩
    cases engine.session.managesLock with
    | false => trivial
    | true =>
      simp only [Bool.true_and, ↓reduceIte]
      split
      · next held => exact ⟨⟨rfl, Platform.any_isHeld_iff.mp held⟩, trivial⟩
      · trivial

theorem requests_start (config : ClassifierConfig) (world : World) : (start platform config world).requests =
    if (!(platform.sensor.isSome && !(Preferences.load (platform.preferences world)).sensorDisabled)) &&
      platform.wakeLock.any (·.isHeld world) then [.releaseLock true] else [] := by
  rw [(makes_start config world).requests]
  cases present : platform.wakeLock <;> simp [Session.opening, requests, present]

end Engine

namespace Moment

variable {platform : Platform World} {moment : Moment World}

/-- What an event may do about the lock. -/
def lockAction (platform : Platform World) (moment : Moment World) : LockAction :=
  match moment.event with
  | .tearDown => if moment.engine.session.managesLock then .release true else .skip
  | _ => (moment.after platform).session.lockAction

theorem heeds (platform : Platform World) (moment : Moment World) :
    Engine.Heeds platform (moment.lockAction platform) moment.engine (moment.after platform) := by
  obtain ⟨engine, event⟩ := moment
  cases event with
  | tearDown => exact Engine.heeds_tearDown
  | _ => exact Engine.heeds_step (by simp)

theorem permits_of_requests_eq {earlier later : List Request} {request : Request}
    (asked : moment.requests platform = earlier ++ request :: later) :
    (moment.lockAction platform).Permits (platform.lockHeld? (earlier.foldl platform.perform moment.engine.world))
      request := by
  obtain ⟨made, makes, heeds⟩ := moment.heeds platform
  rw [requests_of_makes makes] at asked
  exact heeds.permits asked

theorem spared_of_asks (asks : Engine.Asks platform Request.isForLock [] moment.engine (moment.after platform))
    {request : Request} (member : request ∈ moment.requests platform) : request.isForLock = false := by
  have spared := requests_of_asks asks
  simpa using List.filter_eq_nil_iff.mp spared request member

theorem settles_of_mem_requests {request : Request} (member : request ∈ moment.requests platform)
    (lock : request.isForLock = true) (going : moment.event ≠ .tearDown) :
    moment.engine.session.tornDown = false ∧ moment.engine.session.settles moment.event = true := by
  cases running : moment.engine.session.tornDown with
  | true => cases lock.symm.trans (spared_of_asks (Engine.asks_step_of_tornDown _ moment.event running) member)
  | false =>
    refine ⟨rfl, ?_⟩
    cases settles : moment.engine.session.settles moment.event with
    | true => rfl
    | false => cases lock.symm.trans (spared_of_asks (Engine.asks_lock_step running settles going) member)

theorem lockAction_of_going (going : moment.event ≠ .tearDown) :
    moment.lockAction platform = (moment.after platform).session.lockAction := by
  obtain ⟨engine, event⟩ := moment
  cases event with
  | tearDown => exact absurd rfl going
  | _ => rfl

theorem lockAction_of_unmanaged (unmanaged : moment.engine.session.managesLock = false) :
    moment.lockAction platform = .skip := by
  simp only [lockAction]
  split
  · simp [unmanaged]
  · have kept : (moment.after platform).session.managesLock = false :=
      (congrArg Prod.fst (Engine.equipment_step moment.event)).trans unmanaged
    simp [Session.lockAction, kept]

end Moment

theorem Platform.spared_of_heeds_skip {platform : Platform World} {world : World} {made : List Request}
    (heeds : platform.Heeds .skip world made) : made.filter Request.isForLock = [] := by
  apply Request.filter_eq_nil
  intro request member
  obtain ⟨earlier, later, split⟩ := List.append_of_mem member
  have permits := heeds.permits split
  cases request with
  | acquireLock | releaseLock _ => cases permits.1
  | _ => rfl

theorem Moment.lockRequests_of_unmanaged {platform : Platform World} {moment : Moment World}
    (unmanaged : moment.engine.session.managesLock = false) :
    (moment.requests platform).filter Request.isForLock = [] := by
  obtain ⟨made, makes, heeds⟩ := moment.heeds platform
  rw [lockAction_of_unmanaged unmanaged] at heeds
  rw [requests_of_makes makes]
  exact Platform.spared_of_heeds_skip heeds

theorem Engine.lockRequests_of_unmanaged {platform : Platform World} {engine : Engine World}
    (unmanaged : engine.session.managesLock = false) (occurrences : List (Occurrence World)) :
    ((engine.moments platform occurrences).flatMap (Moment.requests platform)).filter Request.isForLock = [] := by
  have along : ∀ moment ∈ engine.moments platform occurrences, moment.engine.session.managesLock = false :=
    (invariant_along (·.session.managesLock = false) occurrences unmanaged (fun _ _ _ same => same)
      (fun moment _ same => (congrArg Prod.fst (equipment_step moment.event)).trans same)).2
  rw [List.filter_flatMap]
  exact List.flatMap_eq_nil_iff.mpr fun moment member => Moment.lockRequests_of_unmanaged (along moment member)

namespace Moment

variable {platform : Platform World} {moment : Moment World} {earlier later : List Request}

theorem reason_of_acquireLock (coherent : (moment.after platform).session.Coherent)
    (asked : moment.requests platform = earlier ++ .acquireLock :: later) :
    let session := (moment.after platform).session
    platform.lockHeld? (earlier.foldl platform.perform moment.engine.world) = some false ∧
      session.equipment = (true, true) ∧ session.tornDown = false ∧
      (∃ loaded, moment.loaded? platform = some loaded ∧ loaded.sensorDisabled = false) ∧
      decideLock session.snapshot session.preferences = .engage := by
  intro session
  obtain ⟨acts, free⟩ := permits_of_requests_eq asked
  have going : moment.event ≠ .tearDown := by
    intro closing
    simp only [lockAction, closing] at acts
    split at acts <;> cases acts
  rw [lockAction_of_going going] at acts
  have member : .acquireLock ∈ moment.requests platform := by simp [asked]
  obtain ⟨running, settles⟩ := settles_of_mem_requests member rfl going
  obtain ⟨equipped, decided⟩ := Session.equipped_of_lockAction acts (by decide)
  have loads : moment.loaded? platform = _ := Engine.loaded?_of_settles running settles
  refine ⟨free, equipped, (Engine.tornDown_step going).trans running, ⟨_, loads, ?_⟩, decided⟩
  have loaded : session.preferences = _ := Engine.preferences_step moment.event
  have enabled : session.snapshot.sensorDisabledByPreference = false := enabled_of_decideLock (decided.trans_ne (by decide))
  rw [coherent.disabled, loaded, loads] at enabled
  exact enabled

theorem reason_of_releaseLock {restoreImmediately : Bool}
    (asked : moment.requests platform = earlier ++ .releaseLock restoreImmediately :: later) :
    let session := (moment.after platform).session
    platform.lockHeld? (earlier.foldl platform.perform moment.engine.world) = some true ∧
      ((moment.event = .tearDown ∧ restoreImmediately = true) ∨
        (decideLock session.snapshot session.preferences = .release restoreImmediately ∧
          restoreImmediately = session.snapshot.keepsScreenOn)) := by
  intro session
  obtain ⟨acts, held⟩ := permits_of_requests_eq asked
  refine ⟨held, ?_⟩
  by_cases closing : moment.event = .tearDown
  · left
    simp only [lockAction, closing] at acts
    split at acts
    · cases acts
      exact ⟨closing, rfl⟩
    · cases acts
  · right
    rw [lockAction_of_going closing] at acts
    have decided := (Session.equipped_of_lockAction acts (by simp)).2
    exact ⟨decided, eq_keepsScreenOn_of_decideLock decided⟩

end Moment

/-- Over any run, whatever fails: the lock is acquired only where it is free, is the session's to
manage, is not turned off by the preferences just loaded, and the snapshot that the event leaves
behind decides so. It is let go only where it is held, at the start or the tear-down for good, and
else by such a decision, with the screen back at once just if something keeps it on. A session that
started without a sensor, or with proximity turned off, at most lets the lock go at its start. -/
theorem lock_requests_have_reason (platform : Platform World) (config : ClassifierConfig) (world : World)
    (occurrences : List (Occurrence World)) :
    let preferences := Preferences.load (platform.preferences world)
    let equipped := platform.sensor.isSome && !preferences.sensorDisabled
    let atStart : List Request :=
      if !equipped && platform.wakeLock.any (·.isHeld world) then [.releaseLock true] else []
    let started := Engine.start platform config world
    let reached := started.after platform occurrences
    let moments := started.moments platform occurrences
    started.requests = atStart ∧
    reached.requests = started.requests ++ moments.flatMap (Moment.requests platform) ∧
    (∀ moment ∈ moments,
      let session := (moment.after platform).session
      (moment.after platform).world = (moment.requests platform).foldl platform.perform moment.engine.world ∧
      ∀ earlier later,
        let held? := platform.lockHeld? (earlier.foldl platform.perform moment.engine.world)
        (moment.requests platform = earlier ++ .acquireLock :: later →
          held? = some false ∧ equipped = true ∧ session.tornDown = false ∧
          (∃ loaded, moment.loaded? platform = some loaded ∧ loaded.sensorDisabled = false) ∧
          decideLock session.snapshot session.preferences = .engage) ∧
        ∀ restoreImmediately, moment.requests platform = earlier ++ .releaseLock restoreImmediately :: later →
          held? = some true ∧
          ((moment.event = .tearDown ∧ restoreImmediately = true) ∨
            (decideLock session.snapshot session.preferences = .release restoreImmediately ∧
              restoreImmediately = session.snapshot.keepsScreenOn))) ∧
    (equipped = false → reached.requests.filter Request.isForLock = atStart) := by
  intro preferences equipped atStart started reached moments
  have opened : started.session = .opening platform config preferences := Engine.session_start config world
  have asked : reached.requests = _ := Engine.requests_after occurrences
  have first : started.requests = atStart := Engine.requests_start config world
  have along : ∀ moment ∈ moments, moment.engine.session.Coherent ∧
      moment.engine.session.equipment = started.session.equipment :=
    (Engine.invariant_along
      (fun engine => engine.session.Coherent ∧ engine.session.equipment = started.session.equipment) occurrences
      ⟨Engine.coherent_start platform config world, rfl⟩ (fun _ _ _ same => same)
      (fun moment _ known =>
        ⟨Engine.coherent_step known.1 moment.event, (Engine.equipment_step moment.event).trans known.2⟩)).2
  refine ⟨first, asked, ?_, ?_⟩
  · intro moment member session
    obtain ⟨coherent, kept⟩ := along moment member
    obtain ⟨made, makes, -⟩ := moment.heeds platform
    refine ⟨by rw [Moment.requests_of_makes makes]; exact makes.world, ?_⟩
    intro earlier later held?
    refine ⟨?_, fun restoreImmediately => Moment.reason_of_releaseLock⟩
    intro acquires
    have next : session.Coherent := Engine.coherent_step coherent moment.event
    obtain ⟨free, manages, running, loads, decided⟩ := Moment.reason_of_acquireLock next acquires
    refine ⟨free, ?_, running, loads, decided⟩
    have same : started.session.equipment = (true, true) :=
      kept.symm.trans ((Engine.equipment_step moment.event).symm.trans manages)
    rw [opened] at same
    have managed : (Session.opening platform config preferences).managesLock = true := congrArg Prod.fst same
    simp only [Session.opening, Bool.and_assoc, Bool.and_eq_true] at managed
    simpa [equipped] using managed.2
  · intro unequipped
    have unmanaged : started.session.managesLock = false := by
      rw [opened]
      simp only [Session.opening, Bool.and_assoc]
      exact Bool.and_eq_false_iff.mpr (.inr unequipped)
    rw [asked, List.filter_append, Engine.lockRequests_of_unmanaged unmanaged, List.append_nil, first]
    simp only [atStart]
    split <;> rfl

end CallProximity
