import CallProximity.Proofs.SimulatedRequests

/-! Each preference is loaded from its own key alone, and that key holds what was last written to it: by the JSON
object that the store was made of, and by everything that was done to the store since. -/

namespace CallProximity

theorem WordInteger.ofInt64_of_toInt64? {integer : WordInteger} {word : Int64} (fits : integer.toInt64? = some word) :
    WordInteger.ofInt64 word = integer := by
  obtain ⟨value, bounds⟩ := integer
  simp only [toInt64?, Option.ite_none_right_eq_some, Option.some.injEq] at fits
  obtain ⟨below, rfl⟩ := fits
  simp only [ofInt64, mk.injEq]
  exact Int64.toInt_ofInt_of_le (by omega) (by omega)

namespace Json

theorem lookup_member (key held : String) (value : Json) (rest : List (String × Json)) :
    ((held, value) :: rest).lookup key = if key = held then some value else rest.lookup key := by
  by_cases same : key = held
  · simp [same]
  · rw [List.lookup_cons, beq_false_of_ne same, if_neg same]

theorem lookup_insertMember (key other : String) (value : Json) (members : List (String × Json)) :
    (insertMember key value members).lookup other =
      if other = key then some value else members.lookup other := by
  induction members with
  | nil => exact lookup_member other key value []
  | cons member rest ih =>
    obtain ⟨held, content⟩ := member
    rw [insertMember]
    split
    · exact lookup_member other key value _
    · split
      · next same =>
        subst same
        rw [lookup_member, lookup_member]
        split <;> rfl
      · next apart =>
        rw [lookup_member, lookup_member, ih]
        by_cases asked : other = held
        · rw [if_pos asked, if_pos asked, if_neg]
          exact fun same => apart (same.symm.trans asked)
        · rw [if_neg asked, if_neg asked]

theorem lookup_canonicalMembers (key : String) (members sorted : List (String × Json)) :
    (canonicalMembers members sorted).lookup key =
      ((members.reverse.lookup key).map canonical).or (sorted.lookup key) := by
  induction members generalizing sorted with
  | nil => rfl
  | cons member rest ih =>
    obtain ⟨held, content⟩ := member
    rw [canonicalMembers, ih, lookup_insertMember, List.reverse_cons, List.lookup_append, lookup_member]
    cases rest.reverse.lookup key with
    | some later => rfl
    | none => by_cases asked : key = held <;> simp [asked]

end Json

inductive PreferenceFlag where
  | sensorDisabled
  | autoSpeaker
  | autoSpeakerIncallOnly
  | autoAnswer

namespace PreferenceFlag

def key : PreferenceFlag → String
  | .sensorDisabled => PreferenceKey.sensorDisabled
  | .autoSpeaker => PreferenceKey.autoSpeaker
  | .autoSpeakerIncallOnly => PreferenceKey.autoSpeakerIncallOnly
  | .autoAnswer => PreferenceKey.autoAnswer

def isOn (flag : PreferenceFlag) (preferences : Preferences) : Bool :=
  match flag with
  | .sensorDisabled => preferences.sensorDisabled
  | .autoSpeaker => preferences.autoSpeaker
  | .autoSpeakerIncallOnly => preferences.autoSpeakerIncallOnly
  | .autoAnswer => preferences.autoAnswer

theorem isOn_load (flag : PreferenceFlag) (source : PreferenceSource) :
    flag.isOn (Preferences.load source) = source.boolOr flag.key (flag.isOn Preferences.defaults) := by
  cases flag <;> rfl

def reading (fallback : Bool) : Option Json → Bool
  | some (.bool value) => value
  | some (.number (.integer stored)) =>
      if stored.value = 0 then false else if stored.value = 1 then true else fallback
  | _ => fallback

end PreferenceFlag

namespace Preferences

def delayReading (fallback : Nat) : Option Json → Nat
  | some (.number (.integer stored)) =>
      if 0 ≤ stored.value ∧ stored.value ≤ 9223372036854775807 then stored.value.toNat else fallback
  | _ => fallback

theorem toNat_delayOf (stored : Int64) :
    (delayOf stored).toNat = if stored.toInt < 0 then 3000 else stored.toInt.toNat := by
  simp only [delayOf, Int64.lt_iff_toInt_lt, Int64.toInt_zero]
  split
  · rfl
  · next positive =>
    rw [Int64.toNat_toUInt64_of_le (Int64.le_iff_toInt_le.mpr (by simpa using positive))]
    rfl

/-- The preferences as they stand in a store, the last written first. -/
def entries (preferences : Preferences) : List (String × Json) := [
  (PreferenceKey.autoAnswer, .bool preferences.autoAnswer),
  (PreferenceKey.autoSpeakerDelay, .ofInt64 preferences.autoSpeakerDelay.toInt64),
  (PreferenceKey.autoSpeakerIncallOnly, .bool preferences.autoSpeakerIncallOnly),
  (PreferenceKey.autoSpeaker, .bool preferences.autoSpeaker),
  (PreferenceKey.sensorDisabled, .bool preferences.sensorDisabled)]

end Preferences

namespace PreferenceStore

variable {store : PreferenceStore} {unreadable : List String} {detail key : String}

def readable? (store : PreferenceStore) (unreadable : List String) (key : String) : Option Json :=
  if key ∈ unreadable then none else store.get? key

theorem isOn_sourceWithout (flag : PreferenceFlag) :
    flag.isOn (Preferences.load (store.sourceWithout unreadable detail)) =
      PreferenceFlag.reading (flag.isOn Preferences.defaults) (store.readable? unreadable flag.key) := by
  rw [PreferenceFlag.isOn_load]
  generalize flag.key = key, flag.isOn Preferences.defaults = fallback
  by_cases fails : key ∈ unreadable
  · simp [PreferenceSource.boolOr, sourceWithout, readable?, fails, PreferenceFlag.reading]
  · simp only [PreferenceSource.boolOr, sourceWithout, readable?, fails, ↓reduceIte, getBool]
    cases store.get? key with
    | none => rfl
    | some stored =>
      cases stored with
      | number value =>
        cases value with
        | integer stored =>
          simp only [storedBool?, PreferenceFlag.reading]
          by_cases off : stored.value = 0
          · simp [off]
          · by_cases on : stored.value = 1 <;> simp [off, on]
        | real value => rfl
      | _ => rfl

theorem delay_sourceWithout : (Preferences.load (store.sourceWithout unreadable detail)).autoSpeakerDelay.toNat =
    Preferences.delayReading 3000 (store.readable? unreadable PreferenceKey.autoSpeakerDelay) := by
  have missing : (Preferences.delayOf Preferences.defaults.autoSpeakerDelay.toInt64).toNat = 3000 := rfl
  simp only [Preferences.load, Preferences.readDelay, PreferenceSource.intOr, sourceWithout, readable?]
  by_cases fails : PreferenceKey.autoSpeakerDelay ∈ unreadable
  · simp only [fails, ↓reduceIte]
    exact missing
  · simp only [fails, ↓reduceIte, getInt]
    cases store.get? PreferenceKey.autoSpeakerDelay with
    | none => exact missing
    | some stored =>
      cases stored with
      | number value =>
        cases value with
        | integer stored =>
          simp only [storedInt?, WordInteger.toInt64?, Preferences.delayReading]
          by_cases below : stored.value < 9223372036854775808
          · simp only [below, ↓reduceIte, Preferences.toNat_delayOf,
              Int64.toInt_ofInt_of_le stored.fits.1 below]
            split <;> split <;> first | rfl | omega
          · rw [if_neg below, if_neg (by omega)]
            exact missing
        | real value => exact missing
      | _ => exact missing

theorem get?_apply (preferences : Preferences) :
    (store.apply preferences).get? key = (preferences.entries.lookup key).or (store.get? key) := by
  simp only [apply, setBool, setInt, get?_set, Preferences.entries, Json.lookup_member, List.lookup_nil]
  split_ifs <;> rfl

theorem get?_ofMembers (members : List (String × Json)) :
    (ofMembers members).get? key = (members.reverse.lookup key).map Json.canonical := by
  rw [get?, ofMembers, Json.lookup_canonicalMembers, List.lookup_nil, Option.or_none]

theorem exists_members_of_ofText {text : String} (made : ofText text = .ok store) : ∃ members,
    Json.readText Json.nestingLimit text.toList = .ok (.object members) ∧ store = ofMembers members := by
  simp only [ofText] at made
  split at made
  · cases made
  · split at made
    · next members read =>
      cases made
      exact ⟨members, read, rfl⟩
    · cases made
    · cases made
  · split at made <;> cases made

end PreferenceStore

inductive StoreOperation where
  | setBool (key : String) (value : Bool)
  | setInt (key : String) (value : Int64)
  | remove (key : String)
  | apply (preferences : Preferences)
  /-- A preference that a scenario sets. -/
  | setValue (key : String) (value : Json)

namespace StoreOperation

/-- A flag or a signed word; a scenario can store nothing else. -/
def storable? : Json → Option Json
  | .bool flag => some (.bool flag)
  | .number (.integer stored) =>
      if stored.value ≤ 9223372036854775807 then some (.number (.integer stored)) else none
  | _ => none

/-- What an operation leaves under a key that it has an effect on, which may be nothing. -/
def write? (key : String) : StoreOperation → Option (Option Json)
  | .setBool written value => if key = written then some (some (.bool value)) else none
  | .setInt written value => if key = written then some (some (.ofInt64 value)) else none
  | .remove written => if key = written then some none else none
  | .apply preferences => (preferences.entries.lookup key).map some
  | .setValue written value => if key = written then (storable? value).map some else none

def ofStep? : ScenarioStep → Option StoreOperation
  | .preference key value => some (.setValue key value)
  | _ => none

end StoreOperation

namespace PreferenceStore

variable {store : PreferenceStore} {key : String}

def perform (store : PreferenceStore) : StoreOperation → PreferenceStore
  | .setBool key value => store.setBool key value
  | .setInt key value => store.setInt key value
  | .remove key => store.remove key
  | .apply preferences => store.apply preferences
  | .setValue key value => store.setValue key value

def after (store : PreferenceStore) (operations : List StoreOperation) : PreferenceStore :=
  operations.foldl perform store

theorem setValue_eq (value : Json) :
    store.setValue key value = ((StoreOperation.storable? value).map (store.set key)).getD store := by
  cases value with
  | number value =>
    cases value with
    | integer stored =>
      simp only [setValue, StoreOperation.storable?]
      cases word : stored.toInt64? with
      | none =>
        have above : ¬stored.value ≤ 9223372036854775807 := by
          simp only [WordInteger.toInt64?, ite_eq_right_iff, reduceCtorEq, imp_false] at word
          omega
        rw [if_neg above]
        rfl
      | some number =>
        have within : stored.value ≤ 9223372036854775807 := by
          simp only [WordInteger.toInt64?, Option.ite_none_right_eq_some] at word
          omega
        rw [if_pos within, ← WordInteger.ofInt64_of_toInt64? word]
        rfl
    | real value => rfl
  | _ => rfl

theorem get?_perform (operation : StoreOperation) :
    (store.perform operation).get? key = (operation.write? key).getD (store.get? key) := by
  cases operation with
  | setBool written value =>
    rw [perform, setBool, get?_set, StoreOperation.write?]
    split <;> rfl
  | setInt written value =>
    rw [perform, setInt, get?_set, StoreOperation.write?]
    split <;> rfl
  | remove written =>
    rw [perform, get?_remove, StoreOperation.write?]
    split <;> rfl
  | apply preferences =>
    rw [perform, get?_apply, StoreOperation.write?]
    cases preferences.entries.lookup key <;> rfl
  | setValue written value =>
    rw [perform, setValue_eq, StoreOperation.write?]
    cases StoreOperation.storable? value with
    | none => split <;> rfl
    | some stored =>
      rw [Option.map_some, Option.getD_some, get?_set]
      split <;> rfl

theorem after_append (first rest : List StoreOperation) :
    store.after (first ++ rest) = (store.after first).after rest :=
  List.foldl_append

/-- Under a key stands what was last written there. -/
theorem get?_after (operations : List StoreOperation) : (store.after operations).get? key =
    ((operations.filterMap (StoreOperation.write? key)).getLast?).getD (store.get? key) := by
  induction operations using List.reverseRecOn with
  | nil => rfl
  | append_singleton first last ih =>
    have performed : store.after (first ++ [last]) = (store.after first).perform last := store.after_append first [last]
    rw [performed, get?_perform, ih, List.filterMap_append, List.getLast?_append]
    cases written : last.write? key <;> simp [written]

end PreferenceStore

theorem Scenario.store_perform {scenario : Scenario} (world : SimulatedWorld) (request : Request) :
    (scenario.platform.perform world request).store = world.store := by
  cases request with
  | acceptCall | subscribe | unsubscribe =>
    simp only [Platform.perform, platform]
    split <;> rfl
  | _ => rfl

namespace Simulation

variable {scenario : Scenario} {simulation : Simulation}

theorem store_deliver (platform : simulation.platform = scenario.platform) (event : Event) :
    (simulation.deliver event).world.store = simulation.world.store := by
  apply (simulation.makes_deliver event).keeps
  intro request _ world
  rw [platform]
  exact Scenario.store_perform world request

theorem store_prepare (step : ScenarioStep) : (simulation.prepare step).world.store =
    simulation.world.store.after (StoreOperation.ofStep? step).toList := by
  cases step with
  | display id isOn =>
    simp only [prepare]
    split <;> rfl
  | _ => rfl

theorem store_step (platform : simulation.platform = scenario.platform) (step : ScenarioStep) :
    (simulation.step step).world.store = simulation.world.store.after (StoreOperation.ofStep? step).toList := by
  cases skips : simulation.skipsSettling step with
  | true =>
    rw [step_of_skipsSettling skips]
    cases step with
    | accelerometer x y z => rfl
    | _ => cases skips
  | false =>
    let kept (reached : Simulation) := reached.platform = scenario.platform ∧
      reached.world.store = simulation.world.store.after (StoreOperation.ofStep? step).toList
    have told (reached : Simulation) (event : Event) (holds : kept reached) : kept (reached.deliver event) :=
      ⟨holds.1, (store_deliver holds.1 event).trans holds.2⟩
    have prepared : kept (simulation.prepare step) := ⟨(platform_prepare step).trans platform, store_prepare step⟩
    have delivered : kept ((simulation.events step).foldl deliver (simulation.prepare step)) :=
      List.foldlRecOn _ _ prepared fun reached holds event _ => told reached event holds
    have settled : kept ((simulation.events step).foldl deliver (simulation.prepare step)).settle :=
      invariant_settle (fun reached route holds => told _ _ ⟨holds.1, holds.2⟩) delivered
    rw [step_of_settled skips]
    exact settled.2

theorem store_run (scenario : Scenario) (steps : List ScenarioStep) : ((start scenario).run steps).world.store =
    ({} : PreferenceStore).after (.apply scenario.preferences :: steps.filterMap StoreOperation.ofStep?) := by
  induction steps using List.reverseRecOn with
  | nil => rw [run, List.foldl_nil, world_start]; rfl
  | append_singleton first last ih =>
    have platform : ((start scenario).run first).platform = scenario.platform := platform_run first
    rw [run_concat, store_step platform, ih, List.filterMap_append, ← List.cons_append, PreferenceStore.after_append]
    cases last <;> rfl

end Simulation

/-- Loading reads each preference from what was last written under its key. A flag may be written as 0 or 1, a delay
must be a signed word that is not negative, and the default stands in for any other value and for one that cannot
be read. So two stores that agree on a key agree on its preference, whatever else they hold or fail to read. The
stores are those that the text of an object makes, and what is done to them; a simulation's starts with the
preferences of its scenario, and then only preference steps count. -/
theorem load_reads_last_writes (members : List (String × Json)) (operations : List StoreOperation)
    (unreadable : List String) (detail : String) :
    let store := (PreferenceStore.ofMembers members).after operations
    let loaded := Preferences.load (store.sourceWithout unreadable detail)
    (∀ key, store.get? key = ((operations.filterMap (StoreOperation.write? key)).getLast?).getD
        ((members.reverse.lookup key).map Json.canonical)) ∧
      (∀ flag : PreferenceFlag, flag.isOn loaded =
        PreferenceFlag.reading (flag.isOn Preferences.defaults) (store.readable? unreadable flag.key)) ∧
      loaded.autoSpeakerDelay.toNat =
        Preferences.delayReading 3000 (store.readable? unreadable PreferenceKey.autoSpeakerDelay) ∧
      (∀ (other : PreferenceStore) (failing : List String) (reason : String),
        let loadedThere := Preferences.load (other.sourceWithout failing reason)
        (∀ flag : PreferenceFlag, store.readable? unreadable flag.key = other.readable? failing flag.key →
          flag.isOn loaded = flag.isOn loadedThere) ∧
        (store.readable? unreadable PreferenceKey.autoSpeakerDelay =
            other.readable? failing PreferenceKey.autoSpeakerDelay →
          loaded.autoSpeakerDelay = loadedThere.autoSpeakerDelay)) ∧
      (∀ text seed, PreferenceStore.ofText text = .ok seed → ∃ members,
        Json.readText Json.nestingLimit text.toList = .ok (.object members) ∧ seed = .ofMembers members) ∧
      ∀ scenario steps, ((Simulation.start scenario).run steps).world.store =
        ({} : PreferenceStore).after (.apply scenario.preferences :: steps.filterMap StoreOperation.ofStep?) := by
  intro store loaded
  refine ⟨?_, PreferenceStore.isOn_sourceWithout, PreferenceStore.delay_sourceWithout, ?_,
    fun _ _ => PreferenceStore.exists_members_of_ofText, Simulation.store_run⟩
  · intro key
    rw [PreferenceStore.get?_after, PreferenceStore.get?_ofMembers]
  · intro other failing reason loadedThere
    constructor
    · intro flag agrees
      rw [PreferenceStore.isOn_sourceWithout, PreferenceStore.isOn_sourceWithout, agrees]
    · intro agrees
      apply UInt64.toNat_inj.mp
      rw [PreferenceStore.delay_sourceWithout, PreferenceStore.delay_sourceWithout, agrees]

end CallProximity
