import CallProximity.Call.Status
import Mathlib.Data.List.SplitBy

/-! Triggers are the edges in the history of call notifications. Audio routes that are told in between raise none
and hide none. -/

namespace CallProximity

section Blocks

variable {α : Type} {related : α → α → Bool} {items : List α} {previous last : α}

theorem splitBy_concat_of_related (ends : items.getLast? = some previous) (joins : related previous last = true) :
    ∃ blocks block, items.splitBy related = blocks ++ [block] ∧ previous ∈ block ∧
      (items ++ [last]).splitBy related = blocks ++ [block ++ [last]] := by
  have inhabited : items ≠ [] := by
    rintro rfl
    cases ends
  obtain ⟨blocks, block, split⟩ := (items.splitBy related).eq_nil_or_concat.resolve_left
    (List.splitBy_ne_nil.mpr inhabited)
  rw [List.concat_eq_append] at split
  obtain ⟨flat, full, chains, apart⟩ := List.splitBy_eq_iff.mp split
  obtain ⟨earlier, filled⟩ : [] ∉ blocks ∧ block ≠ [] := by simpa using full
  have tip : block.getLast? = some previous := by
    rw [← ends, flat, List.flatten_append, List.flatten_singleton, List.getLast?_append_of_ne_nil _ filled]
  refine ⟨blocks, block, split, List.mem_of_getLast? tip, List.splitBy_eq_iff.mpr ⟨?_, ?_, ?_, ?_⟩⟩
  · simp [flat]
  · simpa using earlier
  · intro part member
    rcases List.mem_append.mp member with before | final
    · exact chains part (List.mem_append_left _ before)
    · cases List.mem_singleton.mp final
      refine List.isChain_append.mpr ⟨chains block (by simp), .singleton last, ?_⟩
      simpa [tip] using joins
  · obtain ⟨separate, -, cut⟩ := List.isChain_append.mp apart
    refine List.isChain_append.mpr ⟨separate, .singleton _, ?_⟩
    intro first ends next begins
    obtain ⟨present, other, differs⟩ := cut first ends block rfl
    cases Option.mem_some_iff.mp begins
    exact ⟨present, by simp, by rwa [List.head_append_of_ne_nil filled]⟩

end Blocks

structure CallNotification where
  old : CallState
  new : CallState
  calls : CallList

namespace CallNotification

def status (notification : CallNotification) : CallStatus :=
  .derive notification.new notification.calls

/-- The call that rings, which may be one without an id. -/
def ringing? (notification : CallNotification) : Option (Option String) :=
  if notification.new = .incoming then some notification.calls.ringingCallId else none

/-- What an aggregator keeps of it: the status, and the id of the ringing call. -/
def kept (notification : CallNotification) : CallStatus × Option String :=
  (notification.status, notification.ringing?.join)

def ringsAlike (first second : CallNotification) : Bool :=
  first.ringing? = second.ringing?

/-- The longest stretches of notifications that ring for one call. -/
def ringingBlocks (notifications : List CallNotification) : List (List CallNotification) :=
  (notifications.splitBy ringsAlike).filter (·.any (·.ringing?.isSome))

theorem length_ringingBlocks_concat (earlier : List CallNotification) (last : CallNotification) :
    (ringingBlocks (earlier ++ [last])).length = (ringingBlocks earlier).length +
      if last.ringing?.isSome ∧ last.ringing? ≠ earlier.getLast?.bind ringing? then 1 else 0 := by
  by_cases joined : ∃ previous, earlier.getLast? = some previous ∧ previous.ringing? = last.ringing?
  · obtain ⟨previous, ends, same⟩ := joined
    have joins : ringsAlike previous last = true := by simpa [ringsAlike] using same
    obtain ⟨blocks, block, split, inside, longer⟩ := splitBy_concat_of_related ends joins
    have rings : (block ++ [last]).any (·.ringing?.isSome) = block.any (·.ringing?.isSome) := by
      rw [List.any_append, List.any_cons, List.any_nil, Bool.or_false, Bool.or_eq_left_iff_imp]
      intro ringing
      exact List.any_eq_true.mpr ⟨previous, inside, by rw [same, ringing]⟩
    rw [ringingBlocks, ringingBlocks, longer, split, List.filter_append, List.filter_append, List.filter_singleton,
      List.filter_singleton, rings, ends]
    cases block.any (·.ringing?.isSome) <;> simp [same]
  · have apart : ∀ previous ∈ earlier.getLast?, ∀ next ∈ [last].head?, ringsAlike previous next = false := by
      simpa [ringsAlike] using joined
    have alone : [last].splitBy ringsAlike = [[last]] :=
      List.splitBy_of_isChain (by simp) (.singleton last)
    have anew : last.ringing?.isSome = true → last.ringing? ≠ earlier.getLast?.bind ringing? := by
      intro rings same
      cases ends : earlier.getLast? with
      | none => simp [same, ends] at rings
      | some previous => exact joined ⟨previous, ends, by rw [same, ends]; rfl⟩
    rw [ringingBlocks, List.splitBy_append apart, List.filter_append, List.length_append, ← ringingBlocks, alone]
    cases rings : last.ringing?.isSome with
    | false => simp [rings]
    | true => simp [rings, anew rings]

end CallNotification

inductive AggregatorOperation where
  | notify (notification : CallNotification)
  | setRoute (route : AudioRoute)

def AggregatorOperation.notification? : AggregatorOperation → Option CallNotification
  | .notify notification => some notification
  | .setRoute _ => none

/-- The parts of a status whose flip needs a resync. -/
def CallStatus.modes (status : CallStatus) : Bool × Bool × Bool :=
  (status.isOffhook, status.isVideoCall, status.isRttCall)

namespace ChangeSet

def raises (change : ChangeSet) : Trigger → Bool
  | .resync => change.resync
  | .outgoingAnswered => change.outgoingAnswered
  | .incoming => change.incoming

theorem triggers_eq (change : ChangeSet) :
    change.triggers = [Trigger.resync, .outgoingAnswered, .incoming].filter change.raises := by
  obtain ⟨status, resync, outgoingAnswered, incoming⟩ := change
  cases resync <;> cases outgoingAnswered <;> cases incoming <;> rfl

theorem count_incoming_triggers (change : ChangeSet) :
    change.triggers.count .incoming = if change.incoming then 1 else 0 := by
  obtain ⟨status, resync, outgoingAnswered, incoming⟩ := change
  cases resync <;> cases outgoingAnswered <;> cases incoming <;> rfl

/-- Copies the modes of a status when told to resync, and goes by its own copy else. -/
def follow (seen : Bool × Bool × Bool) (change : ChangeSet) : Bool × Bool × Bool :=
  if change.resync then change.status.modes else seen

end ChangeSet

namespace CallAggregator

variable {aggregator : CallAggregator}

def hear (aggregator : CallAggregator) (notification : CallNotification) : ChangeSet × CallAggregator :=
  aggregator.notify notification.old notification.new notification.calls

def apply (aggregator : CallAggregator) : AggregatorOperation → CallAggregator
  | .notify notification => (aggregator.hear notification).2
  | .setRoute route => (aggregator.setRoute route).2

def after (aggregator : CallAggregator) (operations : List AggregatorOperation) : CallAggregator :=
  operations.foldl apply aggregator

def changes (aggregator : CallAggregator) : List AggregatorOperation → List ChangeSet
  | [] => []
  | .notify notification :: rest =>
      (aggregator.hear notification).1 :: (aggregator.apply (.notify notification)).changes rest
  | .setRoute route :: rest => (aggregator.apply (.setRoute route)).changes rest

theorem after_concat (first : List AggregatorOperation) (last : AggregatorOperation) :
    aggregator.after (first ++ [last]) = (aggregator.after first).apply last :=
  List.foldl_append

theorem changes_concat (first : List AggregatorOperation) (last : AggregatorOperation) :
    aggregator.changes (first ++ [last]) = aggregator.changes first ++
      (last.notification?.map fun notification => ((aggregator.after first).hear notification).1).toList := by
  induction first generalizing aggregator with
  | nil => cases last <;> rfl
  | cons operation first ih =>
    cases operation with
    | notify notification => exact congrArg (_ :: ·) ih
    | setRoute route => exact ih

def kept (aggregator : CallAggregator) : CallStatus × Option String :=
  (aggregator.status, aggregator.ringingCallId)

def ringing? (aggregator : CallAggregator) : Option (Option String) :=
  if aggregator.status.hasIncomingCall then some aggregator.ringingCallId else none

theorem kept_setRoute (route : AudioRoute) : (aggregator.setRoute route).2.kept = aggregator.kept := by
  rw [setRoute]
  split <;> rfl

theorem kept_hear (notification : CallNotification) : (aggregator.hear notification).2.kept = notification.kept := by
  by_cases rings : notification.new = .incoming <;>
    simp [kept, hear, notify, change, CallNotification.kept, CallNotification.status, CallNotification.ringing?,
      CallStatus.derive, rings]

theorem resync_hear (notification : CallNotification) : (aggregator.hear notification).1.resync = true ↔
    notification.status.modes ≠ aggregator.status.modes := by
  simp [hear, notify, change, CallNotification.status, CallStatus.modes, imp_iff_not_or, or_assoc]

theorem outgoingAnswered_hear (notification : CallNotification) :
    (aggregator.hear notification).1.outgoingAnswered = true ↔
      notification.old = .outgoing ∧ notification.status.hasOngoingCall = true := by
  simp [hear, notify, change, CallNotification.status]

theorem incoming_hear (notification : CallNotification) : (aggregator.hear notification).1.incoming = true ↔
    notification.ringing?.isSome ∧ notification.ringing? ≠ aggregator.ringing? := by
  by_cases rings : notification.new = .incoming <;> cases rang : aggregator.status.hasIncomingCall <;>
    simp [hear, notify, change, ringing?, CallNotification.ringing?, CallStatus.derive, rings, rang]

section Fresh

variable (operations : List AggregatorOperation)

theorem kept_after : (({} : CallAggregator).after operations).kept =
    ((operations.filterMap AggregatorOperation.notification?).getLast?.map CallNotification.kept).getD ({}, none) := by
  induction operations using List.reverseRecOn with
  | nil => rfl
  | append_singleton first last ih =>
    rw [after_concat, List.filterMap_append, List.getLast?_append]
    cases last with
    | notify notification => exact kept_hear notification
    | setRoute route =>
      rw [apply, kept_setRoute, ih]
      rfl

theorem ringing?_after : (({} : CallAggregator).after operations).ringing? =
    (operations.filterMap AggregatorOperation.notification?).getLast?.bind CallNotification.ringing? := by
  have keeps := kept_after operations
  rw [kept] at keeps
  rw [ringing?]
  cases ends : (operations.filterMap AggregatorOperation.notification?).getLast? with
  | none =>
    rw [ends] at keeps
    rw [(Prod.mk.inj keeps).1]
    rfl
  | some last =>
    rw [ends] at keeps
    rw [(Prod.mk.inj keeps).1, (Prod.mk.inj keeps).2]
    by_cases rings : last.new = .incoming <;>
      simp [CallNotification.status, CallNotification.ringing?, CallStatus.derive, rings]

/-- Who copies the modes at each resync knows them at all times. -/
theorem foldl_follow_changes : (({} : CallAggregator).changes operations).foldl ChangeSet.follow
    ({} : CallStatus).modes = (({} : CallAggregator).after operations).status.modes := by
  induction operations using List.reverseRecOn with
  | nil => rfl
  | append_singleton first last ih =>
    rw [after_concat, changes_concat, List.foldl_append, ih]
    cases last with
    | setRoute route => exact congrArg (·.1.modes) (kept_setRoute route).symm
    | notify notification =>
      change ChangeSet.follow _ _ = notification.status.modes
      rw [ChangeSet.follow]
      split
      · rfl
      · next still =>
        rw [resync_hear, ne_eq, not_not] at still
        exact still.symm

theorem count_incoming_changes :
    ((({} : CallAggregator).changes operations).flatMap ChangeSet.triggers).count .incoming =
      (CallNotification.ringingBlocks (operations.filterMap AggregatorOperation.notification?)).length := by
  induction operations using List.reverseRecOn with
  | nil => rfl
  | append_singleton first last ih =>
    rw [changes_concat, List.flatMap_append, List.count_append, ih, List.filterMap_append]
    cases last with
    | setRoute route =>
      rw [show [AggregatorOperation.setRoute route].filterMap AggregatorOperation.notification? = [] from rfl,
        List.append_nil]
      rfl
    | notify notification =>
      have grows := CallNotification.length_ringingBlocks_concat
        (first.filterMap AggregatorOperation.notification?) notification
      rw [← ringing?_after] at grows
      simp only [AggregatorOperation.notification?, Option.map_some, Option.toList_some, List.flatMap_singleton,
        List.filterMap_cons, List.filterMap_nil, ChangeSet.count_incoming_triggers, incoming_hear]
      exact grows.symm

end Fresh

end CallAggregator

/-- A fresh aggregator after any notifications and routes. Its status is that of the last notification, and so is
the id of the ringing call, if that one rings. Who copies the modes of a call at each resync has them right, and a
resync is raised only where they flip. Incoming is raised once for each stretch of notifications that ring for one
call. -/
theorem triggers_are_edges (operations : List AggregatorOperation) :
    let aggregator := ({} : CallAggregator).after operations
    let changes := ({} : CallAggregator).changes operations
    let notifications := operations.filterMap AggregatorOperation.notification?
    aggregator.status = (notifications.getLast?.map CallNotification.status).getD {} ∧
      (∀ id, aggregator.ringingCallId = some id ↔
        ∃ last, notifications.getLast? = some last ∧ last.new = .incoming ∧ last.calls.ringingCallId = some id) ∧
      changes.foldl ChangeSet.follow ({} : CallStatus).modes = aggregator.status.modes ∧
      (changes.flatMap ChangeSet.triggers).count .incoming =
        (CallNotification.ringingBlocks notifications).length ∧
      ∀ next : CallNotification,
        let change := (aggregator.notify next.old next.new next.calls).1
        change.status = next.status ∧
          (change.resync = true ↔ next.status.modes ≠ aggregator.status.modes) ∧
          (change.outgoingAnswered = true ↔ next.old = .outgoing ∧ next.status.hasOngoingCall = true) ∧
          change.triggers = [Trigger.resync, .outgoingAnswered, .incoming].filter change.raises := by
  intro aggregator changes notifications
  have keeps := CallAggregator.kept_after operations
  refine ⟨?_, ?_, CallAggregator.foldl_follow_changes operations, CallAggregator.count_incoming_changes operations, ?_⟩
  · rw [show aggregator.status = aggregator.kept.1 from rfl, keeps]
    cases notifications.getLast? <;> rfl
  · intro id
    rw [show aggregator.ringingCallId = aggregator.kept.2 from rfl, keeps]
    cases notifications.getLast? with
    | none => simp
    | some last =>
      by_cases rings : last.new = .incoming <;> simp [CallNotification.kept, CallNotification.ringing?, rings]
  · intro next
    exact ⟨rfl, CallAggregator.resync_hear next, CallAggregator.outgoingAnswered_hear next, ChangeSet.triggers_eq _⟩

/-- A call without an id rings as one of its own. -/
example : (CallNotification.ringingBlocks [⟨.idle, .incoming, {}⟩, ⟨.incoming, .incoming, {}⟩,
    ⟨.incoming, .incoming, { ringingCallId := some "a" }⟩, ⟨.incoming, .idle, {}⟩,
    ⟨.idle, .incoming, { ringingCallId := some "a" }⟩]).length = 3 := by decide

end CallProximity
