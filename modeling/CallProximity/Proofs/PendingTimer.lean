import CallProximity.Proofs.SimulatedRun
import CallProximity.Proofs.Supersession
import CallProximity.Proofs.Timers

/-! The timer of the pending activation is the only one that is still awaited: an activation that is superseded
has its timer cancelled, and the one in its place has a timer started. -/

namespace CallProximity

abbrev Request.isForTimer (request : Request) : Bool :=
  request.concerns [.activation, .cancellation]

namespace Session

variable {session : Session}

def startRequests (session : Session) : List Request :=
  session.pending.toList.map fun activation => .schedule activation.generation activation.delay

def timerRequests (around : Surroundings) (session : Session) (event : Event) : List Request :=
  match event with
  | .tearDown => if session.tornDown then [] else session.cancelRequests
  | event =>
      if session.supersedes event then session.cancelRequests ++ (session.next around event).startRequests else []

theorem filter_timer_cancelRequests (session : Session) :
    session.cancelRequests.filter Request.isForTimer = session.cancelRequests := by
  apply List.filter_eq_self.mpr
  intro request member
  obtain ⟨activation, -, rfl⟩ := List.mem_map.mp member
  rfl

theorem filter_timer_routeRequests (wantsSpeaker : Bool) (session : Session) :
    (session.routeRequests wantsSpeaker).filter Request.isForTimer = (session.reroute wantsSpeaker).startRequests := by
  simp only [routeRequests, startRequests, reroute, activation?]
  cases session.classifier.isAvailable with
  | false => rfl
  | true => cases decideSpeaker wantsSpeaker session.snapshot session.preferences <;> rfl

theorem filter_timer_resyncRequests (session : Session) : session.resyncRequests.filter Request.isForTimer =
    if session.snapshot.isOffhook then [] else session.cancelRequests := by
  simp only [resyncRequests]
  rw [List.filter_cons_of_neg (by simp [Request.concerns, Request.matter])]
  split
  · rfl
  · exact filter_timer_cancelRequests session

/-- An answered call is off the hook, so that its resync, if there is one, leaves the cancelling to the judgement
of the route. -/
theorem filter_timer_workRequests {change : ChangeSet}
    (answered : change.outgoingAnswered = true → session.snapshot.isOffhook = true) :
    (session.workRequests change).filter Request.isForTimer =
      if change.outgoingAnswered || (change.resync && !session.snapshot.isOffhook) then
        session.cancelRequests ++ (session.work change).startRequests
      else [] := by
  simp only [workRequests, List.filter_append]
  cases wasAnswered : change.outgoingAnswered with
  | true =>
    have offhook := answered wasAnswered
    have kept : session.resync.cancelRequests = session.cancelRequests := by simp [cancelRequests, resync, offhook]
    rw [work_of_answered wasAnswered]
    cases change.resync with
    | false => simp [filter_timer_cancelRequests, filter_timer_routeRequests]
    | true =>
      simp [filter_timer_cancelRequests, filter_timer_routeRequests, filter_timer_resyncRequests, offhook, kept]
      rfl
  | false =>
    rw [work_of_unanswered wasAnswered]
    cases change.resync with
    | false => rfl
    | true =>
      cases offhook : session.snapshot.isOffhook with
      | true => simp [filter_timer_resyncRequests, offhook]
      | false => simp [filter_timer_resyncRequests, offhook, startRequests, resync]

theorem filter_timer_eventRequests (around : Surroundings) (event : Event) :
    (session.eventRequests around event).filter Request.isForTimer = session.timerRequests around event := by
  cases running : session.tornDown with
  | true => cases event <;> simp [eventRequests, timerRequests, supersedes, running]
  | false =>
    simp only [eventRequests, running, Bool.false_eq_true, ↓reduceIte]
    cases event with
    | distance value =>
      simp only [timerRequests, supersedes, next, react, running, Bool.not_false, Bool.true_and, Bool.false_eq_true,
        ↓reduceIte]
      cases available : session.classifier.isAvailable with
      | false => rfl
      | true =>
        have same : (session.refresh around.preferences).classifier.isAvailable = true := available
        simp only [same, ↓reduceIte, List.filter_append, filter_timer_cancelRequests, filter_timer_routeRequests]
        rfl
    | callState old new calls =>
      simp only [timerRequests, supersedes, next, react, running, Bool.not_false, Bool.true_and, Bool.false_eq_true,
        ↓reduceIte]
      have heard : ((session.refresh around.preferences).hear around.hasSensor old new calls).cancelRequests =
          session.cancelRequests := by
        simp only [cancelRequests, pending_hear]
        rfl
      rw [List.filter_append, filter_sensorRequests rfl rfl, filter_timer_workRequests, isOffhook_hear, heard]
      · rfl
      · intro answered
        simp only [CallAggregator.change, Bool.and_eq_true] at answered
        rw [isOffhook_hear]
        exact isOffhook_of_hasOngoingCall answered.2
    | audioRoute route =>
      simp only [timerRequests, supersedes, next, react, moveAudio, running, Bool.not_false, Bool.true_and,
        Bool.false_eq_true, ↓reduceIte, calls_refresh]
      by_cases same : route = session.calls.audioRoute
      · simp [same]
      · by_cases earpiece : route = .earpiece
        · simp [earpiece]
        · simp [same, earpiece, filter_timer_cancelRequests, startRequests]
    | display id isOn =>
      simp only [timerRequests, supersedes, Bool.and_false, Bool.false_eq_true, ↓reduceIte]
      apply Request.filter_eq_nil
      intro request member
      obtain ⟨isOn, -, rfl⟩ := List.mem_map.mp member
      rfl
    | timer generation =>
      simp only [timerRequests, supersedes, Bool.and_false, Bool.false_eq_true, ↓reduceIte, fireRequests]
      split
      · split <;> rfl
      · rfl
    | tearDown =>
      simp only [timerRequests, running, Bool.false_eq_true, ↓reduceIte, closingRequests, List.filter_append,
        filter_timer_cancelRequests]
      cases around.hasSensor <;> simp [Request.concerns, Request.matter]
    | orientation _ | uiShowing _ | dialpad _ | attemptingVideo _ => simp [timerRequests, supersedes]

theorem timerRequests_of_going (around : Surroundings) {event : Event} (going : event ≠ .tearDown) :
    session.timerRequests around event = if session.supersedes event then
      session.cancelRequests ++ (session.next around event).startRequests else [] := by
  cases event with
  | tearDown => exact absurd rfl going
  | _ => rfl

/-- Short of timers that fire, an event leaves the pending activation and its timer alone, or renews both. -/
theorem kept_or_renewed_of_untimed (around : Surroundings) {event : Event}
    (untimed : ∀ generation, event ≠ .timer generation) :
    (session.Kept (session.next around event) ∧ session.timerRequests around event = []) ∨
      (session.Renewed (session.next around event) ∧ session.timerRequests around event =
        session.cancelRequests ++ (session.next around event).startRequests) := by
  by_cases closing : event = .tearDown
  · subst closing
    cases done : session.tornDown with
    | true => exact .inl ⟨by simp only [next, done, ↓reduceIte]; exact ⟨rfl, rfl⟩, by simp [timerRequests, done]⟩
    | false =>
      simp only [next, timerRequests, done, Bool.false_eq_true, ↓reduceIte]
      exact .inr ⟨.dropped rfl rfl, by simp [startRequests, close]⟩
  · rw [timerRequests_of_going around closing]
    cases superseded : session.supersedes event with
    | true => exact .inr ⟨renewed_next around superseded, rfl⟩
    | false => exact .inl ⟨kept_next around superseded closing fun activation _ => untimed activation.generation, rfl⟩

end Session

theorem Engine.asks_timer_step {World : Type} {platform : Platform World} {engine : Engine World} (event : Event) :
    Asks platform Request.isForTimer (engine.session.timerRequests (platform.surroundings engine.world) event) engine
      (engine.step platform event) := by
  rw [← Session.filter_timer_eventRequests]
  exact asks_step_of_unlocked (fun _ lock => Request.concerns_eq_false lock) fun _ => rfl

def TimerTable.obey (table : TimerTable) : Request → TimerTable
  | .schedule _ delay => table.schedule delay.toNat
  | .cancel generation => table.cancel (generation - 1)
  | _ => table

namespace Scenario

variable {scenario : Scenario}

theorem timers_perform (world : SimulatedWorld) (request : Request) :
    (scenario.platform.perform world request).timers = world.timers.obey request := by
  cases request with
  | acceptCall | subscribe | unsubscribe =>
    simp only [Platform.perform, platform]
    split <;> rfl
  | _ => rfl

theorem timers_of_asks {asked : List Request} {before after : Engine SimulatedWorld}
    (asks : Engine.Asks scenario.platform Request.isForTimer asked before after) :
    after.world.timers = asked.foldl TimerTable.obey before.world.timers := by
  apply asks.part timers_perform
  intro table request other
  cases request with
  | schedule | cancel => cases other
  | _ => rfl

end Scenario

/-- Of the timers only that of the pending activation is awaited, and it is due at this time. Activations are
numbered by their timers, from one on. -/
structure Session.TimedBy (session : Session) (table : TimerTable) (due : Nat) : Prop where
  numbered : table.timers.length = session.generation
  counted : ∀ activation, session.pending = some activation → 0 < activation.generation
  awaiting : table.awaiting = session.pending.toList.map fun activation => ({ due }, activation.generation - 1)

namespace Session.TimedBy

variable {session after : Session} {table : TimerTable} {due : Nat}

theorem kept (timed : session.TimedBy table due) (kept : session.Kept after) : after.TimedBy table due where
  numbered := timed.numbered.trans kept.generation.symm
  counted := by
    rw [kept.pending]
    exact timed.counted
  awaiting := by
    rw [kept.pending]
    exact timed.awaiting

theorem cancelled (timed : session.TimedBy table due) :
    (session.cancelRequests.foldl TimerTable.obey table).awaiting = [] ∧
      (session.cancelRequests.foldl TimerTable.obey table).timers.length = session.generation ∧
      (session.cancelRequests.foldl TimerTable.obey table).now = table.now := by
  simp only [cancelRequests]
  cases pending : session.pending with
  | none =>
    refine ⟨?_, timed.numbered, rfl⟩
    simpa [pending] using timed.awaiting
  | some activation =>
    refine ⟨?_, ?_, rfl⟩
    · simp [TimerTable.obey, TimerTable.awaiting_cancel, timed.awaiting, pending]
    · simpa [TimerTable.obey, TimerTable.cancel] using timed.numbered

theorem renewed (timed : session.TimedBy table due) (renewed : session.Renewed after) :
    ∃ next, after.TimedBy ((session.cancelRequests ++ after.startRequests).foldl TimerTable.obey table) next ∧
      ∀ activation, after.pending = some activation → next = table.now + activation.delay.toNat := by
  obtain ⟨idle, length, now⟩ := timed.cancelled
  rw [List.foldl_append]
  generalize session.cancelRequests.foldl TimerTable.obey table = cleared at idle length now
  cases renewed with
  | dropped pending generation =>
    refine ⟨0, ?_, by simp [pending]⟩
    constructor
    · simpa [startRequests, pending, generation] using length
    · simp [pending]
    · simpa [startRequests, pending] using idle
  | replaced activation pending numbered generation =>
    refine ⟨table.now + activation.delay.toNat, ?_, by simp [pending]⟩
    constructor
    · simp [startRequests, pending, generation, TimerTable.obey, TimerTable.schedule, length]
    · simp [pending, numbered]
    · simp [startRequests, pending, TimerTable.obey, TimerTable.awaiting_schedule, idle, length, now, numbered]

theorem runnable (timed : session.TimedBy table due) (finish : Nat) : table.runnable finish =
    if due < finish then session.pending.toList.map fun activation => activation.generation - 1 else [] := by
  rw [TimerTable.runnable_eq, timed.awaiting]
  cases session.pending with
  | none => simp
  | some activation => by_cases ripe : due < finish <;> simp [ripe]

theorem wait_of_reached (timed : session.TimedBy table due) {time : Nat} (passes : 0 < time)
    (reached : due < table.now + time) :
    (table.wait time).1 = session.pending.toList.map (fun activation => activation.generation - 1) ∧
      (table.wait time).2.awaiting = [] := by
  have positive : time ≠ 0 := by omega
  constructor
  · simp only [TimerTable.wait, positive, ↓reduceIte, timed.runnable, reached]
  · rw [TimerTable.awaiting_wait passes, timed.awaiting]
    cases session.pending <;> simp [reached]

theorem wait_of_unreached (timed : session.TimedBy table due) {time : Nat}
    (unreached : ∀ activation, session.pending = some activation → ¬(0 < time ∧ due < table.now + time)) :
    (table.wait time).1 = [] ∧ session.TimedBy (table.wait time).2 due := by
  by_cases passes : 0 < time
  · have positive : time ≠ 0 := by omega
    have early (activation : PendingActivation) (pending : session.pending = some activation) :
        table.now + time ≤ due := by
      have late := unreached activation pending
      omega
    refine ⟨?_, (table.length_wait time).trans timed.numbered, timed.counted, ?_⟩
    · simp only [TimerTable.wait, positive, ↓reduceIte, timed.runnable]
      cases pending : session.pending with
      | none => simp
      | some activation => simp [Nat.not_lt.mpr (early activation pending)]
    · rw [TimerTable.awaiting_wait passes, timed.awaiting]
      cases pending : session.pending with
      | none => rfl
      | some activation => simp [early activation pending]
  · obtain rfl : time = 0 := by omega
    exact ⟨rfl, timed⟩

end Session.TimedBy

end CallProximity
