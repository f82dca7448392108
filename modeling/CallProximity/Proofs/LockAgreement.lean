import CallProximity.Proofs.LockSafety
import Mathlib.Data.List.Induction

/-! With preferences that stay as they are, the lock is held just when the session's state
asks for it, but for one case. A call that rings may hold the lock; when it stops ringing
unanswered, no trigger is raised, and the lock stays held for an idle phone until an event
that brings it in line. -/

namespace CallProximity

variable {World : Type} {platform : Platform World} {lock : WakeLock World} {engine : Engine World}

namespace Event

def endsCalls : Event → Bool
  | .callState _ new calls => CallStatus.derive new calls = {}
  | _ => false

/-- On an idle phone with audio at the ear these events say nothing new. -/
def idles : Event → Bool
  | .distance _ | .display _ _ | .timer _ => true
  | .audioRoute route => route = .earpiece
  | event => event.endsCalls

end Event

theorem CallStatus.derive_eq_empty {state : CallState} {calls : CallList}
    (silent : (derive state calls).hasIncomingCall = false) (onhook : (derive state calls).isOffhook = false)
    (video : (derive state calls).isVideoCall = false) (rtt : (derive state calls).isRttCall = false) :
    derive state calls = {} := by
  cases state <;> simp_all [derive]

namespace Session

variable {session : Session}

def ringsLocked (session : Session) : Bool :=
  session.snapshot.hasIncomingCall && session.snapshot.wantsLock session.preferences

/-- No call is on or rings, and nothing keeps the screen on. -/
structure Idle (session : Session) : Prop where
  silent : session.snapshot.hasIncomingCall = false
  onhook : session.snapshot.isOffhook = false
  dark : session.snapshot.keepsScreenOn = false

theorem Idle.unwanted (idle : session.Idle) (preferences : Preferences) :
    session.snapshot.wantsLock preferences = false := by
  simp [Snapshot.wantsLock, idle.silent, idle.onhook]

theorem settles_of_endsCalls {event : Event} (coherent : session.Coherent)
    (onhook : session.snapshot.isOffhook = false) (dark : session.snapshot.keepsScreenOn = false)
    (ends : event.endsCalls = true) : session.settles event = false := by
  cases event with
  | callState old new calls =>
    have empty : CallStatus.derive new calls = {} := by simpa [Event.endsCalls] using ends
    simp only [Snapshot.keepsScreenOn, Bool.or_eq_false_iff] at dark
    simp [settles, CallAggregator.change, ChangeSet.isEmpty, empty, ← coherent.isOffhook, ← coherent.isVideoCall,
      ← coherent.isRttCall, onhook, dark]
  | _ => cases ends

theorem derive_of_quiet {old new : CallState} {calls : CallList} (coherent : session.Coherent)
    (onhook : session.snapshot.isOffhook = false) (dark : session.snapshot.keepsScreenOn = false)
    (quiet : (session.calls.change old new calls).isEmpty = true)
    (silent : (CallStatus.derive new calls).hasIncomingCall = false) : CallStatus.derive new calls = {} := by
  obtain ⟨offhook, video, rtt, -⟩ := coherent.status_of_quiet quiet
  simp only [Snapshot.keepsScreenOn, Bool.or_eq_false_iff] at dark
  exact CallStatus.derive_eq_empty silent (offhook.trans onhook) (video.trans dark.1.1.1.2) (rtt.trans dark.1.1.2)

theorem settles_of_idle {event : Event} (coherent : session.Coherent) (idle : session.Idle)
    (going : event ≠ .tearDown) : session.settles event = !event.idles := by
  cases event with
  | audioRoute route =>
    have earpiece : session.calls.audioRoute = .earpiece := by
      have dark := idle.dark
      simp only [Snapshot.keepsScreenOn, Bool.or_eq_false_iff, decide_eq_false_iff_not, Decidable.not_not] at dark
      exact coherent.route.symm.trans dark.1.1.1.1.1
    simp [settles, Event.idles, earpiece]
  | callState old new calls =>
    cases ends : (Event.callState old new calls).endsCalls with
    | true =>
      rw [settles_of_endsCalls coherent idle.onhook idle.dark ends]
      simp [Event.idles, ends]
    | false =>
      simp only [Event.idles, ends, Bool.not_false]
      cases quiet : (session.calls.change old new calls).isEmpty with
      | false => simp [settles, quiet]
      | true =>
        have silent : (CallStatus.derive new calls).hasIncomingCall = false := by
          cases rings : (CallStatus.derive new calls).hasIncomingCall with
          | false => rfl
          | true =>
            obtain ⟨-, -, -, rang⟩ := coherent.status_of_quiet quiet
            cases (rang rings).symm.trans idle.silent
        have empty := derive_of_quiet coherent idle.onhook idle.dark quiet silent
        cases ends.symm.trans (decide_eq_true empty)
  | tearDown => exact absurd rfl going
  | _ => rfl

theorem endsCalls_of_silenced (around : Surroundings) {event : Event} (coherent : session.Coherent)
    (dark : session.snapshot.keepsScreenOn = false) (rings : session.snapshot.hasIncomingCall = true)
    (unsettled : session.settles event = false)
    (silenced : (session.next around event).snapshot.hasIncomingCall = false) : event.endsCalls = true := by
  cases running : session.tornDown with
  | true =>
    have same : session.next around event = session := by simp [next, running]
    rw [same] at silenced
    cases rings.symm.trans silenced
  | false =>
    have told := congrArg CallStatus.hasIncomingCall (status_next around session event running)
    cases event with
    | callState old new calls =>
      have quiet : (session.calls.change old new calls).isEmpty = true := by simpa [settles] using unsettled
      have empty := derive_of_quiet coherent (coherent.ringing_onhook rings) dark quiet (told.symm.trans silenced)
      exact decide_eq_true empty
    | _ => cases rings.symm.trans (told.symm.trans silenced)

theorem silenced_of_endsCalls (around : Surroundings) {event : Event} (running : session.tornDown = false)
    (ends : event.endsCalls = true) : (session.next around event).snapshot.hasIncomingCall = false := by
  cases event with
  | callState old new calls =>
    have empty : CallStatus.derive new calls = {} := of_decide_eq_true ends
    have told := congrArg CallStatus.hasIncomingCall (status_next around session (.callState old new calls) running)
    exact told.trans (congrArg CallStatus.hasIncomingCall empty)
  | _ => cases ends

theorem idle_of_lost (around : Surroundings) {event : Event} (coherent : session.Coherent)
    (running : session.tornDown = false) (locked : session.ringsLocked = true) (ends : event.endsCalls = true) :
    (session.next around event).Idle := by
  obtain ⟨rings, wants⟩ := Bool.and_eq_true_iff.mp locked
  have onhook := coherent.ringing_onhook rings
  have spared := Snapshot.dark_of_wantsLock wants
  obtain ⟨dark, offhook, -⟩ :=
    snapshot_next_of_unsettled around coherent (settles_of_endsCalls coherent onhook spared ends)
  exact ⟨silenced_of_endsCalls around running ends, offhook.trans onhook, dark.trans spared⟩

theorem Idle.next (idle : session.Idle) (around : Surroundings) {event : Event} (coherent : session.Coherent)
    (unsettled : session.settles event = false) : (session.next around event).Idle := by
  obtain ⟨dark, offhook, rang⟩ := snapshot_next_of_unsettled around coherent unsettled
  refine ⟨?_, offhook.trans idle.onhook, dark.trans idle.dark⟩
  cases rings : (session.next around event).snapshot.hasIncomingCall with
  | false => rfl
  | true => cases (rang rings).symm.trans idle.silent

/-- Short of losing a ringing call, an event that leaves the lock alone may do so. -/
theorem wantsLock_next_of_unsettled (around : Surroundings) {event : Event} (coherent : session.Coherent)
    (unsettled : session.settles event = false)
    (spared : ¬(session.ringsLocked = true ∧ event.endsCalls = true)) :
    (session.next around event).snapshot.wantsLock session.preferences = true ↔
      session.snapshot.wantsLock session.preferences = true := by
  refine ⟨wantsLock_of_next_of_unsettled around coherent unsettled, ?_⟩
  intro wants
  obtain ⟨dark, offhook, -⟩ := snapshot_next_of_unsettled around coherent unsettled
  have rings_on (rings : session.snapshot.hasIncomingCall = true) :
      (session.next around event).snapshot.hasIncomingCall = true := by
    cases silenced : (session.next around event).snapshot.hasIncomingCall with
    | true => rfl
    | false =>
      have ends := endsCalls_of_silenced around coherent (Snapshot.dark_of_wantsLock wants) rings unsettled silenced
      exact absurd ⟨Bool.and_eq_true_iff.mpr ⟨rings, wants⟩, ends⟩ spared
  simp only [Snapshot.wantsLock, dark, offhook, Bool.and_eq_true, Bool.or_eq_true] at wants ⊢
  obtain ⟨on | ⟨rings, holds⟩, free⟩ := wants
  · exact ⟨.inl on, free⟩
  · exact ⟨.inr ⟨rings_on rings, holds⟩, free⟩

end Session

structure Steady (lock : WakeLock World) (preferences : Preferences) (engine : Engine World) : Prop
    extends Spares lock engine where
  loaded : engine.session.preferences = preferences
  running : engine.session.tornDown = false

/-- A call that rang and held the lock was lost, and no event since then had the lock
brought in line. -/
def Engine.Stranded (platform : Platform World) (engine : Engine World) (occurrences : List (Occurrence World)) :
    Prop :=
  ∃ earlier hangup later, occurrences = earlier ++ hangup :: later ∧
    (engine.after platform earlier).session.ringsLocked = true ∧ hangup.event.endsCalls = true ∧
    ∀ occurrence ∈ later, occurrence.event.idles = true

namespace Engine

theorem not_stranded_nil : ¬engine.Stranded platform [] := by
  rintro ⟨earlier, hangup, later, split, -⟩
  simp at split

theorem stranded_concat {occurrences : List (Occurrence World)} {last : Occurrence World} :
    engine.Stranded platform (occurrences ++ [last]) ↔
      (engine.Stranded platform occurrences ∧ last.event.idles = true) ∨
        ((engine.after platform occurrences).session.ringsLocked = true ∧ last.event.endsCalls = true) := by
  simp only [Stranded, exists_split_concat, List.forall_mem_append, List.forall_mem_singleton]
  constructor
  · rintro (⟨rings, ends, -⟩ | ⟨earlier, hangup, later, split, rings, ends, idles, idle⟩)
    · exact .inr ⟨rings, ends⟩
    · exact .inl ⟨⟨earlier, hangup, later, split, rings, ends, idles⟩, idle⟩
  · rintro (⟨⟨earlier, hangup, later, split, rings, ends, idles⟩, idle⟩ | ⟨rings, ends⟩)
    · exact .inr ⟨earlier, hangup, later, split, rings, ends, idles, idle⟩
    · exact .inl ⟨rings, ends, fun _ absent => by cases absent⟩

end Engine

variable {preferences : Preferences} {stranded : Prop} {event : Event}

theorem Steady.disturb (steady : Steady lock preferences engine) {change : World → World}
    (undisturbed : ∀ world, lock.isHeld (change world) = lock.isHeld world) :
    Steady lock preferences (engine.disturb change) where
  toSpares := steady.toSpares.disturb undisturbed
  loaded := steady.loaded
  running := steady.running

theorem Steady.step (present : platform.wakeLock = some lock)
    (releases : lock.Releases) (apart : lock.Apart platform) (enabled : preferences.sensorDisabled = false)
    (loads : ∀ loaded ∈ (⟨engine, event⟩ : Moment World).loaded? platform, loaded = preferences)
    (going : event ≠ .tearDown) (steady : Steady lock preferences engine) :
    Steady lock preferences (engine.step platform event) where
  toSpares := by
    apply steady.toSpares.step present releases apart
    intro loaded member
    rw [loads loaded member]
    exact enabled
  loaded := by
    rw [Engine.preferences_step]
    cases loaded : (⟨engine, event⟩ : Moment World).loaded? platform with
    | none => exact steady.loaded
    | some fresh => exact loads fresh loaded
  running := (Engine.tornDown_step going).trans steady.running

theorem Steady.start (present : platform.wakeLock = some lock) (sensor : platform.sensor.isSome = true)
    {config : ClassifierConfig} {world : World}
    (enabled : (Preferences.load (platform.preferences world)).sensorDisabled = false) :
    Steady lock (Preferences.load (platform.preferences world)) (Engine.start platform config world) where
  toSpares := Spares.start (by simp [Engine.session_start, Session.opening, present, sensor, enabled])
  loaded := by
    rw [Engine.session_start]
    rfl
  running := by
    rw [Engine.session_start]
    rfl

theorem Steady.lockState_eq_held_iff (steady : Steady lock preferences engine)
    (present : platform.wakeLock = some lock) :
    engine.lockState platform = .held ↔ lock.isHeld engine.world = true := by
  have takes : engine.session.managesLock = true := congrArg Prod.fst steady.equipped
  simp [Engine.lockState_eq_held_iff, present, takes]

/-- A run on which nobody but the session touches the lock, no event loads other preferences, and the session is
not torn down. -/
structure Undisturbed (lock : WakeLock World) (preferences : Preferences) (platform : Platform World)
    (engine : Engine World) (occurrences : List (Occurrence World)) : Prop where
  owned : lock.Owned platform occurrences
  unchanged : ∀ moment ∈ engine.moments platform occurrences, ∀ loaded ∈ moment.loaded? platform, loaded = preferences
  going : ∀ occurrence ∈ occurrences, occurrence.event ≠ .tearDown

namespace Undisturbed

variable {first : List (Occurrence World)} {last : Occurrence World}

theorem init (run : Undisturbed lock preferences platform engine (first ++ [last])) :
    Undisturbed lock preferences platform engine first where
  owned := ⟨run.owned.apart, fun other member => run.owned.undisturbed other (by simp [member])⟩
  unchanged := fun moment member => run.unchanged moment (by simp [Engine.moments_append, member])
  going := fun other member => run.going other (by simp [member])

theorem isHeld (run : Undisturbed lock preferences platform engine (first ++ [last])) (world : World) :
    lock.isHeld (last.meanwhile world) = lock.isHeld world :=
  run.owned.undisturbed last (by simp) world

theorem steady (run : Undisturbed lock preferences platform engine (first ++ [last]))
    (present : platform.wakeLock = some lock) (releases : lock.Releases) (enabled : preferences.sensorDisabled = false)
    (steady : Steady lock preferences (engine.after platform first)) :
    Steady lock preferences ((engine.after platform first).meet last).engine ∧
      Steady lock preferences (((engine.after platform first).meet last).after platform) := by
  have met : Steady lock preferences ((engine.after platform first).meet last).engine := steady.disturb run.isHeld
  refine ⟨met, met.step present releases run.owned.apart enabled ?_ (run.going last (by simp))⟩
  exact run.unchanged _ (by simp [Engine.moments_append, Engine.moments])

end Undisturbed

/-- The lock is held where the session's state asks for it, and else only on an idle phone
on which it was left behind. -/
structure Agrees (lock : WakeLock World) (stranded : Prop) (engine : Engine World) : Prop where
  held : lock.isHeld engine.world = true ↔
    engine.session.snapshot.wantsLock engine.session.preferences = true ∨ stranded
  idle : stranded → engine.session.Idle

theorem Agrees.disturb (agrees : Agrees lock stranded engine) {change : World → World}
    (undisturbed : ∀ world, lock.isHeld (change world) = lock.isHeld world) :
    Agrees lock stranded (engine.disturb change) where
  held := (iff_of_eq (congrArg (· = true) (undisturbed engine.world))).trans agrees.held
  idle := agrees.idle

theorem Agrees.of_settled (present : platform.wakeLock = some lock)
    (releases : lock.Releases) (engages : lock.Engages) (enabled : preferences.sensorDisabled = false)
    (settled : engine.Settled platform) (steady : Steady lock preferences engine) (clear : ¬stranded) :
    Agrees lock stranded engine := by
  have disabled : engine.session.snapshot.sensorDisabledByPreference = false := by
    rw [steady.coherent.disabled, steady.loaded]
    exact enabled
  refine ⟨?_, fun absurdly => absurd absurdly clear⟩
  cases wants : engine.session.snapshot.wantsLock engine.session.preferences with
  | true => simp [Engine.isHeld_of_wanted present settled steady.equipped disabled engages wants]
  | false => simp [Engine.isHeld_of_unwanted present settled steady.equipped disabled releases wants, clear]

theorem Agrees.of_unsettled (apart : lock.Apart platform) (going : event ≠ .tearDown)
    (steady : Steady lock preferences engine) (next : Steady lock preferences (engine.step platform event))
    (unsettled : engine.session.settles event = false) (agrees : Agrees lock stranded engine) :
    Agrees lock ((stranded ∧ event.idles = true) ∨ (engine.session.ringsLocked = true ∧ event.endsCalls = true))
      (engine.step platform event) := by
  have untouched : lock.isHeld (engine.step platform event).world = lock.isHeld engine.world :=
    Engine.isHeld_of_asks apart (Engine.asks_lock_step steady.running unsettled going)
  have becomes_idle (idle : (engine.session.next (platform.surroundings engine.world) event).Idle) :
      (engine.step platform event).session.Idle :=
    Engine.holds_step Session.Idle (fun _ _ idle => { idle with }) idle
  by_cases lost : engine.session.ringsLocked = true ∧ event.endsCalls = true
  · obtain ⟨locked, ends⟩ := lost
    have wants := (Bool.and_eq_true_iff.mp locked).2
    refine ⟨?_, fun _ => becomes_idle (Session.idle_of_lost _ steady.coherent steady.running locked ends)⟩
    rw [untouched]
    exact iff_of_true (agrees.held.mpr (.inl wants)) (.inr (.inr ⟨locked, ends⟩))
  · by_cases was : stranded
    · have idle := agrees.idle was
      have idles : event.idles = true := by
        simpa [unsettled] using Session.settles_of_idle steady.coherent idle going
      refine ⟨?_, fun _ => becomes_idle (idle.next _ steady.coherent unsettled)⟩
      rw [untouched]
      exact iff_of_true (agrees.held.mpr (.inr was)) (.inr (.inl ⟨was, idles⟩))
    · have clear : ¬((stranded ∧ event.idles = true) ∨
          (engine.session.ringsLocked = true ∧ event.endsCalls = true)) := by
        rintro (⟨now, -⟩ | now)
        · exact was now
        · exact lost now
      refine ⟨?_, fun now => absurd now clear⟩
      have same := Session.wantsLock_next_of_unsettled (platform.surroundings engine.world) steady.coherent
        unsettled lost
      rw [untouched, agrees.held, or_iff_left was, or_iff_left clear, next.loaded, ← steady.loaded,
        Engine.snapshot_step]
      exact same.symm

theorem Agrees.step (present : platform.wakeLock = some lock) (releases : lock.Releases) (engages : lock.Engages)
    (apart : lock.Apart platform) (enabled : preferences.sensorDisabled = false) (going : event ≠ .tearDown)
    (steady : Steady lock preferences engine) (next : Steady lock preferences (engine.step platform event))
    (agrees : Agrees lock stranded engine) :
    Agrees lock ((stranded ∧ event.idles = true) ∨ (engine.session.ringsLocked = true ∧ event.endsCalls = true))
      (engine.step platform event) := by
  cases settles : engine.session.settles event with
  | false => exact agrees.of_unsettled apart going steady next settles
  | true =>
    apply Agrees.of_settled present releases engages enabled (Engine.settled_step steady.running settles) next
    rintro (⟨was, idles⟩ | ⟨rings, ends⟩)
    · have unsettled := Session.settles_of_idle steady.coherent (agrees.idle was) going
      simp [idles, settles] at unsettled
    · obtain ⟨rings, wants⟩ := Bool.and_eq_true_iff.mp rings
      cases settles.symm.trans (Session.settles_of_endsCalls steady.coherent
        (steady.coherent.ringing_onhook rings) (Snapshot.dark_of_wantsLock wants) ends)

theorem Agrees.after {occurrences : List (Occurrence World)}
    (present : platform.wakeLock = some lock) (releases : lock.Releases) (engages : lock.Engages)
    (enabled : preferences.sensorDisabled = false) (run : Undisturbed lock preferences platform engine occurrences)
    (steady : Steady lock preferences engine) (agrees : Agrees lock False engine) :
    Steady lock preferences (engine.after platform occurrences) ∧
      Agrees lock (engine.Stranded platform occurrences) (engine.after platform occurrences) := by
  -- Whether a run is stranded shows at its end, so the run grows there.
  induction occurrences using List.reverseRecOn with
  | nil =>
    refine ⟨steady, ?_⟩
    rwa [eq_false Engine.not_stranded_nil]
  | append_singleton first last ih =>
    obtain ⟨steady, agrees⟩ := ih run.init
    obtain ⟨met, next⟩ := run.steady present releases enabled steady
    have agreed : Agrees lock (engine.Stranded platform first) ((engine.after platform first).meet last).engine :=
      agrees.disturb run.isHeld
    rw [Engine.after_concat]
    refine ⟨next, ?_⟩
    rw [propext Engine.stranded_concat]
    exact agreed.step present releases engages run.owned.apart enabled (run.going last (by simp)) met next

/-- With a sensor, a lock that works and preferences that stay as they are, the lock is held
just when the session's state asks for it, until a ringing call that holds it is lost. From
then on it is held for nothing, until an event has it brought in line. -/
theorem held_iff_wantsLock_unless_stranded (platform : Platform World) (config : ClassifierConfig) (world : World)
    (occurrences : List (Occurrence World)) (lock : WakeLock World) (present : platform.wakeLock = some lock)
    (sensor : platform.sensor.isSome = true) (free : lock.isHeld world = false)
    (releases : lock.Releases) (engages : lock.Engages) (owned : lock.Owned platform occurrences)
    (enabled : (Preferences.load (platform.preferences world)).sensorDisabled = false)
    (unchanged : ∀ moment ∈ (Engine.start platform config world).moments platform occurrences,
      ∀ loaded ∈ moment.loaded? platform, loaded = Preferences.load (platform.preferences world))
    (going : ∀ occurrence ∈ occurrences, occurrence.event ≠ .tearDown) :
    let preferences := Preferences.load (platform.preferences world)
    let started := Engine.start platform config world
    let reached := started.after platform occurrences
    (¬started.Stranded platform occurrences →
      (reached.lockState platform = .held ↔ reached.session.snapshot.wantsLock preferences = true)) ∧
    (started.Stranded platform occurrences →
      reached.lockState platform = .held ∧ reached.session.snapshot.wantsLock preferences = false) := by
  intro preferences started reached
  have steady : Steady lock preferences started := .start present sensor enabled
  have agrees : Agrees lock False started := by
    refine ⟨?_, False.elim⟩
    have idle : started.session.snapshot.wantsLock started.session.preferences = false := by
      rw [Engine.session_start]
      rfl
    have released : lock.isHeld started.world = false := by
      rw [Engine.world_start (congrArg Prod.fst steady.equipped)]
      exact free
    simp [idle, released]
  obtain ⟨steady, agrees⟩ := Agrees.after present releases engages enabled ⟨owned, unchanged, going⟩ steady agrees
  have state : reached.lockState platform = .held ↔ lock.isHeld reached.world = true :=
    steady.lockState_eq_held_iff present
  have held := agrees.held
  rw [steady.loaded] at held
  refine ⟨?_, ?_⟩
  · intro clear
    exact state.trans (held.trans (or_iff_left clear))
  · intro stranded
    have idle := agrees.idle stranded
    exact ⟨state.mpr (held.mpr (.inr stranded)), idle.unwanted preferences⟩

theorem held_iff_wantsLock_unless_stranded_answered :
    let platform := ({} : Scenario).platform
    let world : SimulatedWorld := { store := ({} : PreferenceStore).setBool PreferenceKey.autoSpeakerIncallOnly true }
    let occurrences : List (Occurrence SimulatedWorld) := [
      ⟨id, .callState .idle .incoming { ringingCallId := some "a" }⟩,
      ⟨id, .callState .incoming .inCall { hasLiveCall := true, activeCall := some { id := "a" } }⟩]
    let preferences := Preferences.load (platform.preferences world)
    let started := Engine.start platform {} world
    let reached := started.after platform occurrences
    (¬started.Stranded platform occurrences →
      (reached.lockState platform = .held ↔ reached.session.snapshot.wantsLock preferences = true)) ∧
    (started.Stranded platform occurrences →
      reached.lockState platform = .held ∧ reached.session.snapshot.wantsLock preferences = false) := by
  intro platform world occurrences
  apply held_iff_wantsLock_unless_stranded platform {} world occurrences SimulatedWorld.wakeLock
  · rfl
  · rfl
  · rfl
  · exact SimulatedWorld.releases_wakeLock
  · exact SimulatedWorld.engages_wakeLock
  · refine ⟨SimulatedWorld.apart_wakeLock _, ?_⟩
    intro occurrence member world
    simp only [occurrences, List.mem_cons, List.not_mem_nil, or_false] at member
    rcases member with rfl | rfl <;> rfl
  · decide
  · decide
  · simp [occurrences]

/-- The caller gives up, and the screen of an idle phone stays dark near the ear. -/
theorem held_after_lost_call :
    let platform := ({} : Scenario).platform
    let world : SimulatedWorld := { store := ({} : PreferenceStore).setBool PreferenceKey.autoSpeakerIncallOnly true }
    let reached := (Engine.start platform {} world).after platform [
      ⟨id, .callState .idle .incoming { hasLiveCall := true, ringingCallId := some "a" }⟩,
      ⟨id, .callState .incoming .idle {}⟩]
    reached.lockState platform = .held ∧
      reached.session.snapshot.wantsLock (Preferences.load (platform.preferences world)) = false := by
  decide

end CallProximity
