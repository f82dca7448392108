import CallProximity.Proofs.Run

/-! What the operations of a session ask of the platform. The world moves by requests
alone, and each operation is told apart by the requests it makes, in order. -/

namespace CallProximity

variable {World : Type}

inductive Matter where
  | lock
  | route
  | activation
  | cancellation
  | answer
  | subscription
  | orientation
deriving DecidableEq

namespace Request

@[grind]
def matter : Request → Matter
  | .acquireLock | .releaseLock _ => .lock
  | .setRoute _ => .route
  | .schedule _ _ => .activation
  | .cancel _ => .cancellation
  | .acceptCall => .answer
  | .subscribe | .unsubscribe => .subscription
  | .enableOrientation _ => .orientation

@[grind]
def concerns (request : Request) (matters : List Matter) : Bool :=
  request.matter ∈ matters

abbrev isForLock (request : Request) : Bool :=
  request.concerns [.lock]

/-- Moves audio, at once or later. -/
abbrev isForSpeaker (request : Request) : Bool :=
  request.concerns [.route, .activation]

abbrev isForSensor (request : Request) : Bool :=
  request.concerns [.subscription]

abbrev isAnswer (request : Request) : Bool :=
  request.concerns [.answer]

/-- Keeps the lock, the orientation and the timers in line with the state. -/
abbrev isUpkeep (request : Request) : Bool :=
  request.concerns [.lock, .orientation, .cancellation]

section Matters

variable {request : Request} {matters others : List Matter} (about : request.concerns matters = true)

include about

theorem concerns_of_subset (within : ∀ matter ∈ matters, matter ∈ others := by decide) :
    request.concerns others = true :=
  decide_eq_true (within request.matter (of_decide_eq_true about))

/-- A request is about one matter. -/
theorem concerns_eq_false (apart : ∀ matter ∈ matters, matter ∉ others := by decide) :
    request.concerns others = false :=
  decide_eq_false (apart request.matter (of_decide_eq_true about))

end Matters

theorem filter_eq_nil {requests : List Request} {kind : Request → Bool}
    (spared : ∀ request ∈ requests, kind request = false) : requests.filter kind = [] := by
  apply List.filter_eq_nil_iff.mpr
  intro request member
  simp [spared request member]

end Request

/-- The devices after a request was carried out, or refused. -/
def Platform.perform (platform : Platform World) (world : World) : Request → World
  | .acquireLock => (platform.wakeLock.elim world fun lock => (lock.acquire world).2)
  | .releaseLock restoreImmediately =>
      platform.wakeLock.elim world fun lock => (lock.release restoreImmediately world).2
  | .setRoute route => (platform.setRoute route world).2
  | .acceptCall => platform.telephony.elim world fun accept => (accept world).2
  | .subscribe => platform.sensor.elim world fun sensor => sensor.subscribe world
  | .unsubscribe => platform.sensor.elim world fun sensor => sensor.unsubscribe world
  | .enableOrientation enabled => platform.enableOrientation enabled world
  | .schedule generation delay => platform.schedule generation delay world
  | .cancel generation => platform.cancel generation world

/-- The later engine made these requests, and moved the world by nothing else. What was
answered to earlier ones stands. -/
structure Engine.Makes (platform : Platform World) (made : List Request)
    (before after : Engine World) : Prop where
  requests : after.requests = before.requests ++ made
  world : after.world = made.foldl platform.perform before.world
  stands : before.exchanges <+: after.exchanges

/-- The later engine made these requests of one kind, and any of other kinds. -/
def Engine.Asks (platform : Platform World) (kind : Request → Bool) (asked : List Request)
    (before after : Engine World) : Prop :=
  ∃ made, Engine.Makes platform made before after ∧ made.filter kind = asked

namespace Engine

variable {platform : Platform World} {engine before middle after : Engine World}
  {made more : List Request} {kind : Request → Bool}

namespace Makes

theorem nothing (exchanges : after.exchanges = before.exchanges) (world : after.world = before.world) :
    Makes platform [] before after :=
  ⟨by simp [Engine.requests, exchanges], world, exchanges ▸ List.prefix_rfl⟩

theorem refl (platform : Platform World) (engine : Engine World) : Makes platform [] engine engine :=
  nothing rfl rfl

theorem trans (first : Makes platform made before middle) (last : Makes platform more middle after) :
    Makes platform (made ++ more) before after := by
  constructor
  · rw [last.requests, first.requests, List.append_assoc]
  · rw [last.world, first.world, List.foldl_append]
  · exact first.stands.trans last.stands

theorem exists_replies (makes : Makes platform made before after) :
    ∃ replies, after.exchanges = before.exchanges ++ replies ∧ replies.map Exchange.request = made := by
  obtain ⟨replies, grown⟩ := makes.stands
  refine ⟨replies, grown.symm, ?_⟩
  have requests := makes.requests
  rw [Engine.requests, ← grown, List.map_append] at requests
  exact List.append_cancel_left requests

theorem note (makes : Makes platform made before after) (level : LogLevel) (message : String)
    (fields : List (String × String)) : Makes platform made before (after.note level message fields) :=
  ⟨makes.requests, makes.world, makes.stands⟩

theorem update (makes : Makes platform made before after) (change : Session → Session) :
    Makes platform made before (after.update change) :=
  ⟨makes.requests, makes.world, makes.stands⟩

theorem keeps (makes : Makes platform made before after) {value : World → α}
    (kept : ∀ request ∈ made, ∀ world, value (platform.perform world request) = value world) :
    value after.world = value before.world := by
  rw [makes.world]
  generalize before.world = world
  clear makes
  induction made generalizing world with
  | nil => rfl
  | cons request rest ih =>
    rw [List.foldl_cons, ih fun other member => kept other (List.mem_cons_of_mem _ member)]
    exact kept request (List.mem_cons_self ..) world

theorem order (makes : Makes platform made before after) (request : Request) (act : World → World)
    (carried : act after.world = platform.perform after.world request) :
    Makes platform (made ++ [request]) before (after.order request act) :=
  makes.trans ⟨by simp [Engine.requests], carried, List.prefix_append ..⟩

theorem attempt (makes : Makes platform made before after) (request : Request) (act : Attempt World)
    (carried : (act after.world).2 = platform.perform after.world request) :
    Makes platform (made ++ [request]) before (after.attempt request act).2 :=
  makes.trans ⟨by simp [Engine.requests, Engine.attempt], carried, List.prefix_append ..⟩

theorem attemptOrWarn (makes : Makes platform made before after) (request : Request)
    (act : Attempt World) (warning : String)
    (carried : (act after.world).2 = platform.perform after.world request) :
    Makes platform (made ++ [request]) before (after.attemptOrWarn request act warning) := by
  have tried := makes.attempt request act carried
  simp only [Engine.attemptOrWarn]
  generalize after.attempt request act = outcome at tried ⊢
  obtain ⟨_ | _, later⟩ := outcome
  · exact tried.note ..
  · exact tried

end Makes

theorem Makes.asks (makes : Makes platform made before after) (kind : Request → Bool) :
    Asks platform kind (made.filter kind) before after :=
  ⟨made, makes, rfl⟩

namespace Asks

theorem nothing (makes : Makes platform made before after)
    (spared : ∀ request ∈ made, kind request = false) : Asks platform kind [] before after :=
  ⟨made, makes, Request.filter_eq_nil spared⟩

theorem refl (platform : Platform World) (engine : Engine World) : Asks platform kind [] engine engine :=
  (Makes.refl platform engine).asks kind

theorem trans (first : Asks platform kind made before middle) (last : Asks platform kind more middle after) :
    Asks platform kind (made ++ more) before after := by
  obtain ⟨_, makes, rfl⟩ := first
  obtain ⟨_, later, rfl⟩ := last
  exact ⟨_, makes.trans later, List.filter_append ..⟩

/-- A part of the devices that only requests of one kind move, each from where it finds the part. -/
theorem part (asks : Asks platform kind made before after) {Part : Type} {part : World → Part}
    {obey : Part → Request → Part}
    (obeys : ∀ world request, part (platform.perform world request) = obey (part world) request)
    (spared : ∀ value request, kind request = false → obey value request = value) :
    part after.world = made.foldl obey (part before.world) := by
  obtain ⟨made, makes, rfl⟩ := asks
  have heeded (value : Part) (request : Request) :
      (if kind request then obey value request else value) = obey value request := by
    cases other : kind request with
    | true => rfl
    | false => exact (spared value request other).symm
  rw [makes.world, ← List.foldl_hom part fun world request => (obeys world request).symm, List.foldl_filter]
  simp only [heeded]

theorem stands (asks : Asks platform kind made before after) : before.exchanges <+: after.exchanges := by
  obtain ⟨_, makes, -⟩ := asks
  exact makes.stands

theorem andNothing (first : Asks platform kind made before middle) (last : Asks platform kind [] middle after) :
    Asks platform kind made before after := by
  simpa using first.trans last

theorem update (asks : Asks platform kind made before after) (change : Session → Session) :
    Asks platform kind made before (after.update change) := by
  obtain ⟨_, makes, rfl⟩ := asks
  exact ⟨_, makes.update change, rfl⟩

theorem note (asks : Asks platform kind made before after) (level : LogLevel) (message : String)
    (fields : List (String × String)) : Asks platform kind made before (after.note level message fields) := by
  obtain ⟨_, makes, rfl⟩ := asks
  exact ⟨_, makes.note level message fields, rfl⟩

end Asks

end Engine

namespace Moment

variable {platform : Platform World} {moment : Moment World} {made : List Request}

theorem requests_of_makes (makes : Engine.Makes platform made moment.engine (moment.after platform)) :
    moment.requests platform = made := by
  rw [requests, makes.requests, List.drop_left]

theorem requests_of_asks {kind : Request → Bool}
    (asks : Engine.Asks platform kind made moment.engine (moment.after platform)) :
    (moment.requests platform).filter kind = made := by
  obtain ⟨_, makes, rfl⟩ := asks
  rw [requests_of_makes makes]

end Moment

end CallProximity
