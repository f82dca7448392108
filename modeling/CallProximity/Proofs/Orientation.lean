import CallProximity.Proofs.SpeakerRoute

/-! A session is told the orientation by its source, and forgets it when a call begins, ends or changes
its kind. The source is switched by calls and by the built-in display. -/

namespace CallProximity

abbrev Request.isForOrientation (request : Request) : Bool :=
  request.concerns [.orientation]

namespace Session

/-- What an event leaves the session to know of the orientation, if it touches that. -/
def told? (session : Session) (event : Event) : Option Orientation :=
  if session.tornDown then none
  else
    match event with
    | .orientation value => some value
    | .callState old new calls => if (session.calls.change old new calls).resync then some .unknown else none
    | _ => none

/-- How an event switches the source of orientations. -/
def switch? (session : Session) (event : Event) : Option Bool :=
  if session.tornDown then none
  else
    match event with
    | .callState old new calls =>
        if (session.calls.change old new calls).resync then some (CallStatus.derive new calls).isOffhook else none
    | .display id isOn => (session.display.notify id isOn).1
    | .tearDown => some false
    | _ => none

variable {session : Session}

theorem orientation_hear (hasSensor : Bool) (old new : CallState) (calls : CallList) :
    (session.hear hasSensor old new calls).snapshot.orientation = session.snapshot.orientation := by
  simp only [hear, resubscribe]
  split <;> rfl

theorem orientation_work (change : ChangeSet) : (session.work change).snapshot.orientation =
    if change.resync then .unknown else session.snapshot.orientation := by
  simp only [work]
  cases change.resync <;> cases change.outgoingAnswered <;> rfl

theorem orientation_react (running : session.tornDown = false) (around : Surroundings) (event : Event) :
    (session.react around event).snapshot.orientation = (session.told? event).getD session.snapshot.orientation := by
  simp only [told?, running, Bool.false_eq_true, ↓reduceIte]
  cases event with
  | distance value =>
    simp only [react]
    split <;> rfl
  | callState old new calls =>
    simp only [react]
    rw [orientation_work, orientation_hear]
    split <;> rfl
  | audioRoute route =>
    simp only [react, moveAudio]
    split <;> rfl
  | uiShowing showing =>
    simp only [react]
    split <;> rfl
  | orientation _ | dialpad _ | attemptingVideo _ | display _ _ | timer _ | tearDown => rfl

theorem orientation_next (around : Surroundings) (event : Event) :
    (session.next around event).snapshot.orientation = (session.told? event).getD session.snapshot.orientation := by
  simp only [next]
  cases running : session.tornDown with
  | true => simp [told?, running]
  | false =>
    simp only [Bool.false_eq_true, ↓reduceIte]
    have reacted := (session.refresh around.preferences).orientation_react running around event
    cases event with
    | timer generation =>
      simp only [fire, told?, running]
      split <;> rfl
    | tearDown => simp [close, told?, running]
    | _ => exact reacted

theorem filter_orientation_cancelRequests (session : Session) :
    session.cancelRequests.filter Request.isForOrientation = [] :=
  filter_cancelRequests (fun _ => rfl) session

theorem filter_orientation_routeRequests (wantsSpeaker : Bool) (session : Session) :
    (session.routeRequests wantsSpeaker).filter Request.isForOrientation = [] :=
  filter_routeRequests (fun _ speaker => Request.concerns_eq_false speaker) wantsSpeaker session

theorem filter_orientation_workRequests (change : ChangeSet) :
    (session.workRequests change).filter Request.isForOrientation =
      if change.resync then [.enableOrientation session.snapshot.isOffhook] else [] := by
  have resynced : session.resyncRequests.filter Request.isForOrientation =
      [.enableOrientation session.snapshot.isOffhook] := by
    simp only [resyncRequests]
    rw [List.filter_cons_of_pos rfl]
    split
    · rfl
    · rw [filter_orientation_cancelRequests]
  simp only [workRequests, List.filter_append]
  cases change.resync <;> cases change.outgoingAnswered <;> 
    simp [filter_orientation_cancelRequests, filter_orientation_routeRequests, resynced]

theorem filter_orientation_eventRequests (around : Surroundings) (event : Event) :
    (session.eventRequests around event).filter Request.isForOrientation =
      (session.switch? event).toList.map .enableOrientation := by
  simp only [eventRequests, switch?]
  split
  · rfl
  · cases event with
    | distance value =>
      dsimp only
      split
      · rw [List.filter_append, filter_orientation_cancelRequests, filter_orientation_routeRequests]
        rfl
      · rfl
    | callState old new calls =>
      dsimp only
      rw [List.filter_append, filter_sensorRequests rfl rfl, filter_orientation_workRequests, isOffhook_hear]
      split <;> rfl
    | audioRoute route =>
      dsimp only
      split
      · rfl
      · exact filter_orientation_cancelRequests session
    | display id isOn =>
      dsimp only
      apply List.filter_eq_self.mpr
      intro request member
      obtain ⟨isOn, -, rfl⟩ := List.mem_map.mp member
      rfl
    | timer generation =>
      simp only [fireRequests]
      split
      · split <;> rfl
      · rfl
    | tearDown =>
      simp only [closingRequests, List.filter_append, filter_orientation_cancelRequests]
      cases around.hasSensor <;> rfl
    | orientation _ | uiShowing _ | dialpad _ | attemptingVideo _ => rfl

end Session

variable {World : Type} {platform : Platform World} {engine : Engine World}

namespace Engine

theorem orientation_step (event : Event) : (engine.step platform event).session.snapshot.orientation =
    (engine.session.told? event).getD engine.session.snapshot.orientation := by
  rw [snapshot_step]
  exact Session.orientation_next _ event

theorem asks_orientation_step (event : Event) : Asks platform Request.isForOrientation
    ((engine.session.switch? event).toList.map .enableOrientation) engine (engine.step platform event) := by
  rw [← Session.filter_orientation_eventRequests (platform.surroundings engine.world)]
  exact asks_step_of_unlocked (fun _ lock => Request.concerns_eq_false lock) fun _ => rfl

end Engine

end CallProximity
