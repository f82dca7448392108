import CallProximity.Proofs.Step
import CallProximity.Simulation
import Mathlib.Data.List.Chain
import Mathlib.Data.List.Induction

/-! Which calls are answered. The session remembers the call that it answered last, and no other:
a call that rings on is answered once, and a call that rings again after another one was answered
is answered again. -/

namespace CallProximity

/-- An answer that the platform did not refuse. -/
def Exchange.isAccepted (exchange : Exchange) : Bool :=
  exchange.request.isAnswer && !exchange.refused

variable {World : Type} {platform : Platform World} {engine : Engine World}

/-- The calls that an event answered, by the ids that rang then, refused answers apart. A
notification is taken in before its call is answered. -/
def Moment.answers (platform : Platform World) (moment : Moment World) : List (Option String) :=
  (((moment.after platform).exchanges.drop moment.engine.exchanges.length).filter Exchange.isAccepted).map
    fun _ => (moment.after platform).session.calls.ringingCallId

namespace Session

theorem unanswered_routeRequests (wantsSpeaker : Bool) (session : Session) :
    (session.routeRequests wantsSpeaker).filter Request.isAnswer = [] :=
  Request.filter_eq_nil fun _ member => Request.concerns_eq_false (isForSpeaker_of_mem_routeRequests member)

theorem unanswered_subscriptionRequests (around : Surroundings) (session : Session) (event : Event) :
    (session.subscriptionRequests around event).filter Request.isAnswer = [] :=
  Request.filter_eq_nil fun _ member => Request.concerns_eq_false (isForSensor_of_mem_subscriptionRequests member)

theorem unanswered_speakerRequests (around : Surroundings) (session : Session) (event : Event) :
    (session.speakerRequests around event).filter Request.isAnswer = [] :=
  Request.filter_eq_nil fun _ member => Request.concerns_eq_false (isForSpeaker_of_mem_speakerRequests member)

/-- Whether an event has the ringing call judged for an answer: each reading does, and a notification by which a
call begins to ring. -/
def judgesAnswer (session : Session) (event : Event) : Bool :=
  !session.tornDown &&
    match event with
    | .distance _ => session.classifier.isAvailable
    | .callState old new calls => (session.calls.change old new calls).incoming
    | _ => false

end Session

namespace Engine

def answers (platform : Platform World) (engine : Engine World) (occurrences : List (Occurrence World)) :
    List (Option String) :=
  (engine.moments platform occurrences).flatMap (Moment.answers platform)

theorem exists_judged (platform : Platform World) (available : engine.session.classifier.isAvailable = true)
    (distance : Float32) :
    ∃ judged : Engine World, Asks platform Request.isAnswer [] engine judged ∧
      judged.session.lastAnswered = engine.session.lastAnswered ∧ engine.onDistance platform distance =
        judged.maybeAutoAnswer platform judged.session.snapshot.proximityNear := by
  rw [onDistance_of_available available]
  generalize (engine.session.sense distance).snapshot.proximityFar = far
  have judged : Asks platform Request.isAnswer _ engine ((engine.sensed distance).recomputeRoute platform far) :=
    ((makes_sensed distance).asks _).trans (asks_recomputeRoute (fun _ => rfl) far)
  rw [Session.unanswered_routeRequests] at judged
  refine ⟨_, judged, ?_, ?_⟩ <;> rw [session_recomputeRoute, session_sensed] <;> rfl

theorem exists_notified (platform : Platform World) (engine : Engine World) (old new : CallState) (calls : CallList) :
    ∃ notified : Engine World, Asks platform Request.isAnswer [] engine notified ∧
      notified.session.lastAnswered = engine.session.lastAnswered ∧ engine.onCallState platform old new calls =
        if (engine.session.calls.change old new calls).incoming then notified.runTrigger platform .incoming
        else notified := by
  let change := engine.session.calls.change old new calls
  let heard := engine.heard platform old new calls
  have worked : Asks platform Request.isAnswer _ engine (heard.runEarlierTriggers platform change) :=
    (asks_heard rfl rfl old new calls).trans (asks_runEarlierTriggers
      (fun _ lock => Request.concerns_eq_false lock) change)
  have unasked : (if change.outgoingAnswered then heard.session.routeRequests heard.session.snapshot.proximityFar
      else []).filter Request.isAnswer = [] := by
    split
    · exact Session.unanswered_routeRequests ..
    · rfl
  rw [Session.filter_workRequests fun _ upkeep => Request.concerns_eq_false upkeep, unasked] at worked
  refine ⟨heard.runEarlierTriggers platform change, worked, ?_, ?_⟩
  · rw [session_runEarlierTriggers, session_heard]
    exact congrArg (·.2.2.2) ((Session.standing_work ..).trans (Session.standing_hear ..))
  · rw [onCallState_eq, runTriggers_eq]

theorem unanswered_refreshPreferences (platform : Platform World) (engine : Engine World) :
    Asks platform Request.isAnswer [] engine (engine.refreshPreferences platform) ∧
      (engine.refreshPreferences platform).session.lastAnswered = engine.session.lastAnswered := by
  refine ⟨makes_refreshPreferences.asks _, ?_⟩
  rw [session_refreshPreferences]
  rfl

theorem unanswered_step (platform : Platform World) {event : Event}
    (unjudged : engine.session.judgesAnswer event = false) :
    Asks platform Request.isAnswer [] engine (engine.step platform event) ∧
      (engine.step platform event).session.lastAnswered = engine.session.lastAnswered := by
  obtain ⟨refreshed, kept⟩ := unanswered_refreshPreferences platform engine
  cases running : engine.session.tornDown with
  | true => exact ⟨asks_step_of_tornDown _ event running, by rw [session_step_of_tornDown event running]⟩
  | false =>
    simp only [Session.judgesAnswer, running, Bool.not_false, Bool.true_and] at unjudged
    cases mayAnswer : event.mayAnswer with
    | false =>
      have asked : Asks platform Request.isAnswer _ engine (engine.step platform event) :=
        asks_step_of_kind (fun _ upkeep => Request.concerns_eq_false upkeep)
          fun heard => absurd heard (by simp [mayAnswer])
      rw [List.filter_append, Session.unanswered_subscriptionRequests, Session.unanswered_speakerRequests] at asked
      refine ⟨asked, ?_⟩
      rw [session_step_of_silent mayAnswer]
      exact Session.lastAnswered_next ..
    | true =>
      cases event with
      | distance value =>
        have unavailable : (engine.refreshPreferences platform).session.classifier.isAvailable = false := by
          rw [session_refreshPreferences]
          exact unjudged
        simp only [step, process_of_running _ running, onDistance_of_unavailable unavailable]
        exact ⟨refreshed, kept⟩
      | callState old new calls =>
        dsimp only at unjudged
        obtain ⟨notified, asks, same, worked⟩ :=
          exists_notified platform (engine.refreshPreferences platform) old new calls
        rw [calls_refreshPreferences, unjudged] at worked
        simp only [step, process_of_running _ running, worked, Bool.false_eq_true, ↓reduceIte]
        exact ⟨refreshed.andNothing asks, same.trans kept⟩
      | _ => cases mayAnswer

/-- An event that has the ringing call judged has it judged once, after all that it changes and but for upkeep at
the end. -/
theorem exists_judged_step (platform : Platform World) {event : Event}
    (judges : engine.session.judgesAnswer event = true) :
    ∃ judged : Engine World, Asks platform Request.isAnswer [] engine judged ∧
      judged.session.lastAnswered = engine.session.lastAnswered ∧
      Asks platform Request.isAnswer [] (judged.maybeAutoAnswer platform judged.session.snapshot.proximityNear)
        (engine.step platform event) ∧
      (engine.step platform event).session =
        (judged.maybeAutoAnswer platform judged.session.snapshot.proximityNear).session := by
  obtain ⟨refreshed, kept⟩ := unanswered_refreshPreferences platform engine
  simp only [Session.judgesAnswer, Bool.and_eq_true, Bool.not_eq_true'] at judges
  obtain ⟨running, judges⟩ := judges
  cases event with
  | distance value =>
    have available : (engine.refreshPreferences platform).session.classifier.isAvailable = true := by
      rw [session_refreshPreferences]
      exact judges
    obtain ⟨judged, asks, same, answered⟩ := exists_judged platform available value
    simp only [step, process_of_running _ running, answered]
    exact ⟨judged, refreshed.andNothing asks, same.trans kept, .refl platform _, rfl⟩
  | callState old new calls =>
    dsimp only at judges
    obtain ⟨notified, asks, same, worked⟩ :=
      exists_notified platform (engine.refreshPreferences platform) old new calls
    rw [calls_refreshPreferences, judges] at worked
    simp only [step, process_of_running _ running, worked, ↓reduceIte]
    exact ⟨notified, refreshed.andNothing asks, same.trans kept,
      asks_recomputeLock fun _ lock => Request.concerns_eq_false lock, session_recomputeLock⟩
  | _ => cases judges

/-- From the one engine to the other there is at most one attempt to have a call answered. Nothing else there asks
for an answer, or changes which call was answered last. -/
inductive AnswersOnce (platform : Platform World) (before after : Engine World) : Prop where
  | silent (asks : Asks platform Request.isAnswer [] before after)
      (kept : after.session.lastAnswered = before.session.lastAnswered)
  | attempted (worked : Engine World) (near : Bool) (asks : Asks platform Request.isAnswer [] before worked)
      (kept : worked.session.lastAnswered = before.session.lastAnswered)
      (rest : Asks platform Request.isAnswer [] (worked.maybeAutoAnswer platform near) after)
      (same : after.session = (worked.maybeAutoAnswer platform near).session)

namespace AnswersOnce

variable {before after : Engine World}

theorem step (event : Event) : AnswersOnce platform engine (engine.step platform event) := by
  cases judges : engine.session.judgesAnswer event with
  | false =>
    obtain ⟨asks, kept⟩ := unanswered_step platform judges
    exact .silent asks kept
  | true =>
    obtain ⟨judged, asks, kept, rest, same⟩ := exists_judged_step platform judges
    exact .attempted judged _ asks kept rest same

theorem asks (answers : AnswersOnce platform before after) : ∃ asked,
    asked.length ≤ platform.telephony.toList.length ∧ Asks platform Request.isAnswer asked before after := by
  cases answers with
  | silent asks _ => exact ⟨[], Nat.zero_le _, asks⟩
  | attempted worked near asks _ rest _ =>
    have attempted : Asks platform Request.isAnswer _ worked (worked.maybeAutoAnswer platform near) :=
      (makes_maybeAutoAnswer near).asks _
    refine ⟨_, ?_, (asks.trans attempted).andNothing rest⟩
    rw [List.nil_append, answerRequests_eq]
    refine (List.length_filter_le ..).trans ?_
    cases platform.telephony with
    | none => exact Nat.le_refl 0
    | some accept => split <;> simp

end AnswersOnce

/-- From the one engine to the other just these answers were accepted. -/
def Accepts (replies : List Exchange) (before after : Engine World) : Prop :=
  ∃ rest, after.exchanges = before.exchanges ++ rest ∧ rest.filter Exchange.isAccepted = replies

namespace Accepts

variable {before middle after : Engine World} {replies more : List Exchange}

theorem refl (engine : Engine World) : Accepts [] engine engine :=
  ⟨[], (List.append_nil _).symm, rfl⟩

theorem trans (first : Accepts replies before middle) (last : Accepts more middle after) :
    Accepts (replies ++ more) before after := by
  obtain ⟨made, grown, rfl⟩ := first
  obtain ⟨rest, grownAgain, rfl⟩ := last
  refine ⟨made ++ rest, ?_, List.filter_append ..⟩
  rw [grownAgain, grown, List.append_assoc]

theorem note (accepts : Accepts replies before after) (level : LogLevel) (message : String)
    (fields : List (String × String)) : Accepts replies before (after.note level message fields) :=
  accepts

theorem of_asks (asks : Asks platform Request.isAnswer [] before after) : Accepts [] before after := by
  obtain ⟨made, makes, unasked⟩ := asks
  obtain ⟨rest, grown, asked⟩ := makes.exists_replies
  refine ⟨rest, grown, List.filter_eq_nil_iff.mpr ?_⟩
  intro exchange member accepted
  have request : exchange.request ∈ made := asked ▸ List.mem_map_of_mem member
  exact List.filter_eq_nil_iff.mp unasked _ request (Bool.and_eq_true_iff.mp accepted).1

theorem answers_eq {moment : Moment World} (accepts : Accepts replies moment.engine (moment.after platform)) :
    moment.answers platform = replies.map fun _ => (moment.after platform).session.calls.ringingCallId := by
  obtain ⟨rest, grown, rfl⟩ := accepts
  rw [Moment.answers, grown, List.drop_left]

end Accepts

/-- From the one engine to the other either no answer was accepted, or one: for the call that
rings now, which is not the one answered last. -/
inductive Answering (before after : Engine World) : Prop where
  | silent (accepts : Accepts [] before after)
      (kept : after.session.lastAnswered = before.session.lastAnswered)
  | accepted (accepts : Accepts [⟨.acceptCall, false⟩] before after)
      (anew : after.session.calls.ringingCallId.isSome →
        after.session.calls.ringingCallId ≠ before.session.lastAnswered)
      (last : after.session.lastAnswered = after.session.calls.ringingCallId)

namespace Answering

variable {before middle after : Engine World}

theorem after_silence (answering : Answering middle after) (silent : Accepts [] before middle)
    (kept : middle.session.lastAnswered = before.session.lastAnswered) : Answering before after := by
  cases answering with
  | silent accepts same => exact .silent (silent.trans accepts) (same.trans kept)
  | accepted accepts anew last => exact .accepted (silent.trans accepts) (kept ▸ anew) last

theorem before_silence (answering : Answering before middle) (silent : Accepts [] middle after)
    (same : after.session = middle.session) : Answering before after := by
  cases answering with
  | silent accepts kept => exact .silent (accepts.trans silent) (same ▸ kept)
  | accepted accepts anew last => exact .accepted (accepts.trans silent) (same ▸ anew) (same ▸ last)

theorem acceptCall (accept : Attempt World)
    (anew : engine.session.calls.ringingCallId.isSome →
      engine.session.calls.ringingCallId ≠ engine.session.lastAnswered) :
    Answering engine (engine.acceptCall accept) := by
  simp only [Engine.acceptCall, attempt, world_note]
  cases tried : accept engine.world with
  | mk result world =>
    cases result with
    | ok _ => exact .accepted ⟨[⟨.acceptCall, false⟩], rfl, rfl⟩ anew rfl
    | error refusal => exact .silent ⟨[⟨.acceptCall, true⟩], rfl, rfl⟩ rfl

theorem maybeAutoAnswer (near : Bool) : Answering engine (engine.maybeAutoAnswer platform near) := by
  have unanswered : Answering engine engine := .silent (.refl engine) rfl
  unfold Engine.maybeAutoAnswer
  split
  · exact unanswered
  · split
    · dsimp only
      split
      · exact unanswered.before_silence ((Accepts.refl engine).note ..) rfl
      next unheard =>
        apply acceptCall
        intro rings same
        exact unheard (Bool.and_eq_true_iff.mpr ⟨rings, decide_eq_true same⟩)
    · exact unanswered

theorem step (event : Event) : Answering engine (engine.step platform event) := by
  have answers : AnswersOnce platform engine (engine.step platform event) := AnswersOnce.step event
  cases answers with
  | silent asks kept => exact .silent (.of_asks asks) kept
  | attempted worked near asks kept rest same =>
    exact ((maybeAutoAnswer near).after_silence (.of_asks asks) kept).before_silence (.of_asks rest) same

end Answering

theorem answers_concat (first : List (Occurrence World)) (last : Occurrence World) :
    engine.answers platform (first ++ [last]) =
      engine.answers platform first ++ ((engine.after platform first).meet last).answers platform := by
  simp [answers, moments_append, moments]

/-- The session remembers the last of the answers, whatever call it was for, and none of them is
for the call of the one before it. -/
structure Remembers (engine : Engine World) (answers : List (Option String)) : Prop where
  complete : engine.exchanges.countP Exchange.isAccepted = answers.length
  last : engine.session.lastAnswered = answers.getLast?.join
  anew : answers.IsChain fun call next => next.isSome → next ≠ call

namespace Remembers

theorem start (config : ClassifierConfig) (world : World) : (start platform config world).Remembers [] := by
  refine ⟨?_, ?_, .nil⟩
  · apply List.countP_eq_zero.mpr
    intro exchange member accepted
    have request := eq_releaseLock_of_mem_requests_start (List.mem_map_of_mem member)
    rw [Exchange.isAccepted, request] at accepted
    cases accepted
  · rw [session_start]
    rfl

theorem meet {calls : List (Option String)} (remembers : engine.Remembers calls) (occurrence : Occurrence World) :
    ((engine.meet occurrence).after platform).Remembers (calls ++ (engine.meet occurrence).answers platform) := by
  have answering : Answering (engine.meet occurrence).engine ((engine.meet occurrence).after platform) :=
    Answering.step occurrence.event
  have complete {replies : List Exchange} (accepts : Accepts replies engine ((engine.meet occurrence).after platform)) :
      ((engine.meet occurrence).after platform).exchanges.countP Exchange.isAccepted =
        calls.length + replies.length := by
    obtain ⟨rest, grown, rfl⟩ := accepts
    rw [grown, List.countP_append, remembers.complete, List.countP_eq_length_filter]
  cases answering with
  | silent accepts kept =>
    rw [accepts.answers_eq, List.map_nil, List.append_nil]
    exact ⟨complete accepts, kept.trans remembers.last, remembers.anew⟩
  | accepted accepts anew last =>
    have answered : (engine.meet occurrence).answers platform = [_] := accepts.answers_eq
    rw [answered]
    refine ⟨?_, ?_, ?_⟩
    · rw [complete accepts, List.length_append]
      rfl
    · rw [last, List.getLast?_concat]
      rfl
    · apply List.isChain_append.mpr
      refine ⟨remembers.anew, .singleton _, ?_⟩
      rintro call latest next ⟨⟩ rings
      have remembered : engine.session.lastAnswered = call := by
        rw [remembers.last, Option.mem_def.mp latest]
        rfl
      rw [← remembered]
      exact anew rings

theorem after (remembers : engine.Remembers []) (occurrences : List (Occurrence World)) :
    (engine.after platform occurrences).Remembers (engine.answers platform occurrences) := by
  induction occurrences using List.reverseRecOn with
  | nil => exact remembers
  | append_singleton first last ih =>
    rw [after_concat, answers_concat]
    exact ih.meet last

end Remembers

end Engine

section Anew

variable {answers : List (Option String)} (anew : answers.IsChain fun call next => next.isSome → next ≠ call)

include anew

theorem answers_ne_of_anew (earlier : List (Option String)) (call : String) (later : List (Option String)) :
    answers ≠ earlier ++ some call :: some call :: later := by
  rintro rfl
  have linked := (List.isChain_append.mp anew).2.1
  exact (List.isChain_cons_cons.mp linked).1 rfl rfl

/-- A call that was answered again had another one answered right after it. -/
theorem count_answers_le_one_iff (call : String) : answers.count (some call) ≤ 1 ↔
    ¬∃ earlier other later,
      answers = earlier ++ some call :: other :: later ∧ other ≠ some call ∧ some call ∈ later := by
  constructor
  · rintro once ⟨earlier, other, later, rfl, -, again⟩
    have counted : 0 < later.count (some call) := List.count_pos_iff.mpr again
    simp only [List.count_append, List.count_cons, beq_self_eq_true, ↓reduceIte] at once
    omega
  · intro apart
    by_contra twice
    have answered : some call ∈ answers := List.count_pos_iff.mp (by omega)
    obtain ⟨earlier, rest, rfl, unanswered⟩ := List.eq_append_cons_of_mem answered
    have again : some call ∈ rest := by
      apply List.count_pos_iff.mp
      simp only [List.count_append, List.count_cons_self, List.count_eq_zero_of_not_mem unanswered] at twice
      omega
    cases rest with
    | nil => cases again
    | cons other later =>
      have differs : other ≠ some call := by
        rintro rfl
        exact answers_ne_of_anew anew earlier call later rfl
      rcases List.mem_cons.mp again with same | repeated
      · exact differs same.symm
      · exact apart ⟨earlier, other, later, rfl, differs, repeated⟩

end Anew

/-- The session remembers the last answer that was accepted. So each event answers at most one call,
no two answers on end are for one call, and a call is answered more than once just when after one of
its answers another call, or one without an id, was answered and then it again. -/
theorem answered_again_only_after_another (platform : Platform World) (config : ClassifierConfig) (world : World)
    (occurrences : List (Occurrence World)) :
    let started := Engine.start platform config world
    let reached := started.after platform occurrences
    let answers := started.answers platform occurrences
    reached.exchanges.countP Exchange.isAccepted = answers.length ∧
      reached.session.lastAnswered = answers.getLast?.join ∧
      (∀ moment ∈ started.moments platform occurrences, (moment.answers platform).length ≤ 1) ∧
      (∀ earlier call later, answers ≠ earlier ++ some call :: some call :: later) ∧
      ∀ call, answers.count (some call) ≤ 1 ↔ ¬∃ earlier other later,
        answers = earlier ++ some call :: other :: later ∧ other ≠ some call ∧ some call ∈ later := by
  intro started reached answers
  have remembers : reached.Remembers answers := (Engine.Remembers.start config world).after occurrences
  refine ⟨remembers.complete, remembers.last, ?_, ?_, ?_⟩
  · intro moment _
    have answering : Engine.Answering moment.engine (moment.after platform) := Engine.Answering.step moment.event
    cases answering with
    | silent accepts _ => simp [accepts.answers_eq]
    | accepted accepts _ _ => simp [accepts.answers_eq]
  · exact answers_ne_of_anew remembers.anew
  · exact count_answers_le_one_iff remembers.anew

/-- Two calls ring by turns with the phone at the ear, and the first is answered twice. -/
theorem answered_twice_by_turns :
    let platform := ({} : Scenario).platform
    let world : SimulatedWorld := { store := ({} : PreferenceStore).setBool PreferenceKey.autoAnswer true }
    let ringing (old : CallState) (call : String) : Occurrence SimulatedWorld :=
      ⟨id, .callState old .incoming { ringingCallId := some call }⟩
    let answers := (Engine.start platform {} world).answers platform
      [ringing .idle "a", ⟨id, .distance 0⟩, ringing .incoming "b", ringing .incoming "a"]
    answers = [some "a", some "b", some "a"] ∧ ¬answers.count (some "a") ≤ 1 := by
  decide

end CallProximity
