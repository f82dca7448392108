import CallProximity.Proofs.Account

/-! What each operation does to the session, and what it asks of the platform. All later
arguments about a session read these equations and no longer open the operations. -/

namespace CallProximity

variable {World : Type}

def Platform.accepts (platform : Platform World) (world : World) : Bool :=
  platform.telephony.any fun accept => !Engine.attempt.refused (accept world).1

/-- No answer ever goes through: each is refused, or there is no way to ask for one. -/
def Platform.Rejects (platform : Platform World) : Prop :=
  ∀ world, platform.accepts world = false

namespace Engine

variable {platform : Platform World} {engine : Engine World}

@[simp] theorem session_attemptOrWarn (request : Request) (act : Attempt World) (warning : String) :
    (engine.attemptOrWarn request act warning).session = engine.session := by
  simp only [attemptOrWarn, attempt]
  cases act engine.world with
  | mk result world => cases result <;> rfl

theorem exchanges_attemptOrWarn (request : Request) (act : Attempt World) (warning : String) :
    (engine.attemptOrWarn request act warning).exchanges =
      engine.exchanges ++ [⟨request, attempt.refused (act engine.world).1⟩] := by
  simp only [attemptOrWarn, attempt]
  cases act engine.world with
  | mk result world => cases result <;> rfl

theorem world_attemptOrWarn (request : Request) (act : Attempt World) (warning : String) :
    (engine.attemptOrWarn request act warning).world = (act engine.world).2 := by
  simp only [attemptOrWarn, attempt]
  cases act engine.world with
  | mk result world => cases result <;> rfl

@[simp] theorem session_engageLock : (engine.engageLock platform).session = engine.session := by
  simp only [engageLock]
  split
  · rfl
  · split <;> simp

@[simp] theorem session_releaseLock (restoreImmediately : Bool) :
    (engine.releaseLock platform restoreImmediately).session = engine.session := by
  simp only [releaseLock]
  split
  · rfl
  · split <;> simp

theorem session_start (config : ClassifierConfig) (world : World) : (start platform config world).session =
    .opening platform config (Preferences.load (platform.preferences world)) := by
  have kept (managed : Bool) (engine : Engine World) :
      (if managed then engine else engine.releaseLock platform true).session = engine.session := by
    split
    · rfl
    · exact session_releaseLock true
  refine (kept _ _).trans ?_
  simp only [Session.opening, addNotes, ProximityClassifier.isAvailable]
  cases platform.sensor <;> rfl

@[simp] theorem session_recomputeLock : (engine.recomputeLock platform).session = engine.session := by
  unfold recomputeLock
  split
  · dsimp only
    split <;> simp [noteLockDecision]
  · rfl

def lockRequests (platform : Platform World) (engine : Engine World) : List Request :=
  match platform.wakeLock with
  | none => []
  | some lock =>
      if engine.session.classifier.isAvailable && engine.session.managesLock then
        match decideLock engine.session.snapshot engine.session.preferences with
        | .skip => []
        | .engage => if lock.isHeld engine.world then [] else [.acquireLock]
        | .release restoreImmediately =>
            if lock.isHeld engine.world then [.releaseLock restoreImmediately] else []
      else []

theorem isForLock_of_mem_lockRequests {request : Request}
    (member : request ∈ engine.lockRequests platform) : request.isForLock = true := by
  simp only [lockRequests] at member
  grind

theorem makes_engageLock {lock : WakeLock World} (present : platform.wakeLock = some lock) :
    Makes platform (if lock.isHeld engine.world then [] else [.acquireLock]) engine
      (engine.engageLock platform) := by
  simp only [engageLock, present]
  split
  · exact (Makes.refl platform engine).note ..
  · exact ((Makes.refl platform engine).note ..).attemptOrWarn _ _ _ (by simp [Platform.perform, present])

theorem makes_releaseLock (restoreImmediately : Bool) :
    Makes platform (if platform.wakeLock.any (·.isHeld engine.world) then [.releaseLock restoreImmediately] else [])
      engine (engine.releaseLock platform restoreImmediately) := by
  cases present : platform.wakeLock with
  | none =>
    simp only [releaseLock, present]
    exact .refl platform engine
  | some lock =>
    simp only [releaseLock, present, Option.any_some]
    split
    · exact ((Makes.refl platform engine).note ..).attemptOrWarn _ _ _ (by simp [Platform.perform, present])
    · exact (Makes.refl platform engine).note ..

theorem makes_recomputeLock :
    Makes platform (engine.lockRequests platform) engine (engine.recomputeLock platform) := by
  have noted (action : LockAction) : Makes platform [] engine (engine.noteLockDecision action) :=
    (Makes.refl platform engine).note ..
  simp only [recomputeLock, lockRequests]
  cases engine.session.classifier.isAvailable with
  | false => cases platform.wakeLock <;> exact .refl _ engine
  | true =>
    simp only [↓reduceIte, Bool.true_and]
    have managed : ∀ action, (engine.noteLockDecision action).session.managesLock = engine.session.managesLock :=
      fun _ => rfl
    rw [managed]
    cases present : platform.wakeLock with
    | none =>
      simp only [engageLock, releaseLock, present]
      split <;> exact noted _
    | some lock =>
      cases engine.session.managesLock with
      | false => exact noted _
      | true =>
        cases decideLock engine.session.snapshot engine.session.preferences with
        | skip => exact noted _
        | engage =>
          have settled := (noted .engage).trans (makes_engageLock present)
          exact settled
        | release restoreImmediately =>
          have settled := (noted (.release restoreImmediately)).trans (makes_releaseLock restoreImmediately)
          simp only [present, Option.any_some] at settled
          exact settled

/-- Before its first event a session asks for nothing but that a lock that it does not manage is let go. -/
theorem makes_start (config : ClassifierConfig) (world : World) :
    let opening := Session.opening platform config (Preferences.load (platform.preferences world))
    Makes platform
      (if !opening.managesLock && platform.wakeLock.any (·.isHeld world) then [.releaseLock true] else [])
      ⟨opening, world, [], []⟩ (start platform config world) := by
  have opened (managed : Bool) {fresh noted : Engine World} (same : noted.world = world)
      (makes : Makes platform [] fresh noted) : Makes platform
      (if !managed && platform.wakeLock.any (·.isHeld world) then [.releaseLock true] else []) fresh
      (if managed then noted else noted.releaseLock platform true) := by
    cases managed with
    | true => exact makes
    | false =>
      have released := makes.trans (makes_releaseLock true)
      rw [same] at released
      exact released
  cases sensed : platform.sensor with
  | none =>
    simp only [start, Session.opening, sensed]
    refine Makes.note (opened _ ?_ ?_) ..
    · rfl
    · exact .nothing rfl rfl
  | some sensor =>
    simp only [start, Session.opening, sensed]
    refine Makes.note (opened _ ?_ ?_) ..
    · rfl
    · exact .nothing rfl rfl

theorem world_start {config : ClassifierConfig} {world : World}
    (managed : (start platform config world).session.managesLock = true) :
    (start platform config world).world = world := by
  have makes : Makes platform _ _ (start platform config world) := makes_start config world
  rw [session_start] at managed
  simpa [managed] using makes.world

theorem eq_releaseLock_of_mem_requests_start {config : ClassifierConfig} {world : World} {request : Request}
    (member : request ∈ (start platform config world).requests) : request = .releaseLock true := by
  rw [(makes_start config world).requests] at member
  simp only [requests, List.map_nil, List.nil_append] at member
  split at member
  · exact List.mem_singleton.mp member
  · cases member

@[simp] theorem session_cancelPending :
    (engine.cancelPending platform).session = { engine.session with pending := none } := by
  simp only [cancelPending]
  cases held : engine.session.pending with
  | none =>
    show engine.session = _
    rw [← held]
  | some activation => rfl

theorem makes_cancelPending :
    Makes platform engine.session.cancelRequests engine (engine.cancelPending platform) := by
  simp only [cancelPending, Session.cancelRequests]
  cases engine.session.pending with
  | none => exact .refl _ engine
  | some activation => exact (((Makes.refl platform engine).update _).order _ _ rfl).note ..

theorem makes_scheduleRoute (delay : UInt64) (route : AudioRoute) :
    Makes platform [.schedule (engine.session.generation + 1) delay] engine
      (engine.scheduleRoute platform delay route) := by
  simp only [scheduleRoute]
  apply Makes.update
  apply Makes.note
  exact (Makes.refl platform engine).order _ _ rfl

theorem session_recomputeRoute (wantsSpeaker : Bool) :
    (engine.recomputeRoute platform wantsSpeaker).session = engine.session.reroute wantsSpeaker := by
  simp only [recomputeRoute, Session.reroute, Session.activation?, session_cancelPending]
  cases engine.session.classifier.isAvailable with
  | false => simp
  | true =>
    cases decideSpeaker wantsSpeaker engine.session.snapshot engine.session.preferences with
    | nothing => simp
    | schedule delay route => simp [scheduleRoute]
    | routeNow route => simp

theorem makes_recomputeRoute (wantsSpeaker : Bool) :
    Makes platform (engine.session.cancelRequests ++ engine.session.routeRequests wantsSpeaker) engine
      (engine.recomputeRoute platform wantsSpeaker) := by
  have cancelled : Makes platform _ engine (engine.cancelPending platform) := makes_cancelPending
  simp only [recomputeRoute, Session.routeRequests, session_cancelPending]
  cases engine.session.classifier.isAvailable with
  | false => simpa using cancelled
  | true =>
    cases decideSpeaker wantsSpeaker engine.session.snapshot engine.session.preferences with
    | nothing => simpa using cancelled
    | schedule delay route =>
      have scheduled := cancelled.trans (makes_scheduleRoute delay route)
      simpa using scheduled
    | routeNow route => exact (cancelled.note ..).attemptOrWarn _ _ _ rfl

/-- What a near reading asks for: the ringing call is answered, unless it was before. -/
def answerRequests (platform : Platform World) (near : Bool) (engine : Engine World) : List Request :=
  match platform.telephony with
  | none => []
  | some _ =>
      if shouldAutoAnswer near engine.session.snapshot engine.session.preferences true
          (platform.isScreenOn engine.world) then
        let ringing := engine.session.calls.ringingCallId
        if ringing.isSome && ringing = engine.session.lastAnswered then [] else [.acceptCall]
      else []

theorem answerRequests_eq (near : Bool) : engine.answerRequests platform near =
    if platform.telephony.isSome && engine.session.wantsAnswer near (platform.isScreenOn engine.world) then [.acceptCall]
    else [] := by
  simp only [answerRequests, Session.wantsAnswer]
  cases platform.telephony with
  | none => rfl
  | some accept => grind

theorem session_acceptCall (accept : Attempt World) : (engine.acceptCall accept).session =
    if attempt.refused (accept engine.world).1 then engine.session
    else engine.session.answered engine.session.calls.ringingCallId := by
  simp only [acceptCall, attempt, world_note]
  cases accept engine.world with
  | mk result world => cases result <;> rfl

theorem makes_acceptCall {accept : Attempt World} (present : platform.telephony = some accept) :
    Makes platform [.acceptCall] engine (engine.acceptCall accept) := by
  have tried := ((Makes.refl platform engine).note .info "auto-answering ringing call"
    [("call_id", Text.quoteOption engine.session.calls.ringingCallId)]).attempt .acceptCall accept
    (by simp [Platform.perform, present])
  unfold acceptCall
  dsimp only
  generalize Engine.attempt _ _ _ = outcome at tried ⊢
  obtain ⟨_ | _, later⟩ := outcome
  · exact tried.note ..
  · exact tried.update _

theorem session_maybeAutoAnswer_eq (near : Bool) : (engine.maybeAutoAnswer platform near).session =
    if platform.accepts engine.world && engine.session.wantsAnswer near (platform.isScreenOn engine.world) then
      engine.session.answered engine.session.calls.ringingCallId
    else engine.session := by
  cases present : platform.telephony with
  | none => simp [maybeAutoAnswer, Platform.accepts, present]
  | some accept =>
    simp only [maybeAutoAnswer, Platform.accepts, Session.wantsAnswer, present, Option.any_some]
    split
    next decided =>
      rw [decided, Bool.true_and]
      split
      next before => rw [before, Bool.not_true, Bool.and_false]; rfl
      next anew =>
        rw [session_acceptCall, Bool.eq_false_iff.mpr anew]
        cases attempt.refused (accept engine.world).1 <;> rfl
    next declined => simp [declined]

theorem session_maybeAutoAnswer (near : Bool) :
    ∃ call, (engine.maybeAutoAnswer platform near).session = engine.session.answered call ∧
      (platform.Rejects → call = engine.session.lastAnswered) := by
  rw [session_maybeAutoAnswer_eq]
  cases accepts : platform.accepts engine.world with
  | false => exact ⟨engine.session.lastAnswered, rfl, fun _ => rfl⟩
  | true =>
    have accepted (rejects : platform.Rejects) (call : Option String) : call = engine.session.lastAnswered := by
      cases accepts.symm.trans (rejects engine.world)
    split
    · exact ⟨_, rfl, fun rejects => accepted rejects _⟩
    · exact ⟨engine.session.lastAnswered, rfl, fun _ => rfl⟩

theorem makes_maybeAutoAnswer (near : Bool) :
    Makes platform (engine.answerRequests platform near) engine (engine.maybeAutoAnswer platform near) := by
  simp only [maybeAutoAnswer, answerRequests]
  cases present : platform.telephony with
  | none => exact .refl _ engine
  | some accept =>
    dsimp only
    split
    · split
      · exact (Makes.refl platform engine).note ..
      · exact makes_acceptCall present
    · exact .refl _ engine

theorem reading_reset (classifier : ProximityClassifier) : classifier.reset.reading = .initial := rfl

/-- Reasons that begin come first, so that what happens to the subscription depends on the
reasons before and after alone. -/
theorem session_updateSubscriptions :
    (engine.updateSubscriptions platform).session = engine.session.resubscribe platform.sensor.isSome := by
  cases held : engine.session.subscriptions with
  | mk offhook ringing =>
    cases offhook <;> cases ringing <;> cases present : platform.sensor <;>
      cases wanted : engine.session.snapshot.isOffhook <;>
      cases answer : engine.session.snapshot.hasIncomingCall && engine.session.preferences.autoAnswer <;>
      simp [updateSubscriptions, setReason, applySubscription, Session.resubscribe, Session.wantedReasons,
        SubscriptionReasons.set, SubscriptionReasons.put, SubscriptionReasons.changeTo,
        SubscriptionReasons.isEmpty, reading_reset, present, held, wanted, answer]

theorem makes_updateSubscriptions :
    Makes platform (engine.session.sensorRequests platform.sensor.isSome) engine
      (engine.updateSubscriptions platform) := by
  cases held : engine.session.subscriptions with
  | mk offhook ringing =>
    cases offhook <;> cases ringing <;> cases present : platform.sensor <;>
      cases wanted : engine.session.snapshot.isOffhook <;>
      cases answer : engine.session.snapshot.hasIncomingCall && engine.session.preferences.autoAnswer <;>
      constructor <;>
      simp [updateSubscriptions, setReason, applySubscription, Session.sensorRequests, Session.wantedReasons,
        SubscriptionReasons.set, SubscriptionReasons.put, SubscriptionReasons.changeTo,
        SubscriptionReasons.isEmpty, Platform.perform, requests, present, held, wanted, answer]

theorem makes_enableOrientation (enabled : Bool) :
    Makes platform [.enableOrientation enabled] engine (engine.enableOrientation platform enabled) :=
  (Makes.refl platform engine).order _ _ rfl

@[simp] theorem session_resync : (engine.resync platform).session = engine.session.resync := by
  simp only [resync, Session.resync, enableOrientation]
  cases offhook : engine.session.snapshot.isOffhook <;> simp [offhook]

def runTriggers (platform : Platform World) (change : ChangeSet) (engine : Engine World) : Engine World :=
  let engine := if change.resync then engine.runTrigger platform .resync else engine
  let engine := if change.outgoingAnswered then engine.runTrigger platform .outgoingAnswered else engine
  if change.incoming then engine.runTrigger platform .incoming else engine

theorem foldl_triggers (change : ChangeSet) :
    change.triggers.foldl (runTrigger platform) engine = engine.runTriggers platform change := by
  simp only [ChangeSet.triggers, runTriggers]
  cases change.resync <;> cases change.outgoingAnswered <;> cases change.incoming <;> rfl

/-- Works off all triggers but the last, the incoming call. -/
def runEarlierTriggers (platform : Platform World) (change : ChangeSet) (engine : Engine World) : Engine World :=
  let engine := if change.resync then engine.runTrigger platform .resync else engine
  if change.outgoingAnswered then engine.runTrigger platform .outgoingAnswered else engine

theorem runTriggers_eq (change : ChangeSet) : engine.runTriggers platform change =
    if change.incoming then (engine.runEarlierTriggers platform change).runTrigger platform .incoming
    else engine.runEarlierTriggers platform change := rfl

theorem session_runEarlierTriggers (change : ChangeSet) :
    (engine.runEarlierTriggers platform change).session = engine.session.work change := by
  have rerouted (engine : Engine World) : (engine.runTrigger platform .outgoingAnswered).session =
      engine.session.reroute engine.session.snapshot.proximityFar := by
    simp [runTrigger, session_recomputeRoute]
  have resynced (engine : Engine World) :
      (engine.runTrigger platform .resync).session = engine.session.resync := session_resync
  simp only [runEarlierTriggers, Session.work]
  cases change.resync <;> cases change.outgoingAnswered <;> simp [rerouted, resynced]

theorem session_runTriggers (change : ChangeSet) :
    ∃ call, (engine.runTriggers platform change).session = (engine.session.work change).answered call ∧
      (platform.Rejects → call = (engine.session.work change).lastAnswered) := by
  rw [runTriggers_eq, ← session_runEarlierTriggers]
  split
  · simpa [runTrigger] using session_maybeAutoAnswer _
  · exact ⟨_, rfl, fun _ => rfl⟩

theorem asks_maybeAutoAnswer {kind : Request → Bool} (unheard : kind .acceptCall = false) (near : Bool) :
    Asks platform kind [] engine (engine.maybeAutoAnswer platform near) := by
  apply Asks.nothing (makes_maybeAutoAnswer near)
  intro request member
  simp only [answerRequests] at member
  grind

theorem asks_cancelPending {kind : Request → Bool} (spared : ∀ generation, kind (.cancel generation) = false) :
    Asks platform kind [] engine (engine.cancelPending platform) :=
  ⟨_, makes_cancelPending, Session.filter_cancelRequests spared engine.session⟩

theorem asks_recomputeRoute {kind : Request → Bool} (spared : ∀ generation, kind (.cancel generation) = false)
    (wantsSpeaker : Bool) : Asks platform kind ((engine.session.routeRequests wantsSpeaker).filter kind) engine
      (engine.recomputeRoute platform wantsSpeaker) := by
  refine ⟨_, makes_recomputeRoute wantsSpeaker, ?_⟩
  rw [List.filter_append, Session.filter_cancelRequests spared, List.nil_append]

/-! What the operations ask of one kind that does not count the lock. -/

section Kind

variable {kind : Request → Bool} (unlocked : ∀ request, request.isForLock = true → kind request = false)

include unlocked

theorem asks_recomputeLock : Asks platform kind [] engine (engine.recomputeLock platform) :=
  Asks.nothing makes_recomputeLock fun request member => unlocked request (isForLock_of_mem_lockRequests member)

theorem asks_resync :
    Asks platform kind (engine.session.resyncRequests.filter kind) engine (engine.resync platform) := by
  unfold resync
  dsimp only
  refine Asks.andNothing ?_ (asks_recomputeLock unlocked)
  have switched := ((Makes.refl platform engine).update fun session =>
    { session with snapshot := { session.snapshot with orientation := .unknown } }).trans
    (makes_enableOrientation engine.session.snapshot.isOffhook)
  split
  · next offhook =>
    have goesOn : engine.session.snapshot.isOffhook = true := offhook
    rw [Session.resyncRequests, if_pos goesOn]
    exact switched.asks kind
  · next onhook =>
    have ended : ¬engine.session.snapshot.isOffhook = true := onhook
    rw [Session.resyncRequests, if_neg ended]
    exact (switched.trans makes_cancelPending).asks kind

theorem asks_runEarlierTriggers (change : ChangeSet) :
    Asks platform kind ((engine.session.workRequests change).filter kind) engine
      (engine.runEarlierTriggers platform change) := by
  have rerouted (engine : Engine World) : Asks platform kind
      ((engine.session.cancelRequests ++ engine.session.routeRequests engine.session.snapshot.proximityFar).filter kind)
      engine (engine.runTrigger platform .outgoingAnswered) :=
    ((makes_recomputeRoute _).asks kind).andNothing (asks_recomputeLock unlocked)
  have resynced : Asks platform kind _ engine (engine.runTrigger platform .resync) := asks_resync unlocked
  have same : (engine.runTrigger platform .resync).session = engine.session.resync := session_resync
  have answeredAfterResync := resynced.trans (rerouted (engine.runTrigger platform .resync))
  rw [same, ← List.filter_append] at answeredAfterResync
  simp only [runEarlierTriggers, Session.workRequests]
  cases change.resync <;> cases change.outgoingAnswered
  · exact .refl platform engine
  · exact rerouted engine
  · simpa using resynced
  · exact answeredAfterResync

theorem asks_runTriggers (unheard : kind .acceptCall = false) (change : ChangeSet) :
    Asks platform kind ((engine.session.workRequests change).filter kind) engine
      (engine.runTriggers platform change) := by
  have earlier : Asks platform kind _ engine (engine.runEarlierTriggers platform change) :=
    asks_runEarlierTriggers unlocked change
  rw [runTriggers_eq]
  cases change.incoming with
  | true => exact (earlier.andNothing (asks_maybeAutoAnswer unheard _)).andNothing (asks_recomputeLock unlocked)
  | false => exact earlier

end Kind

end Engine

end CallProximity
