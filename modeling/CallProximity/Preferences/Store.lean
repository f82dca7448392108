import CallProximity.Json.Reader
import CallProximity.Preferences.Basic

/-! Preferences kept in memory under their keys, as JSON values. A flag may be stored
as 0 or 1. -/

namespace CallProximity

structure PreferenceStore where
  entries : List (String × Json) := []

namespace PreferenceStore

def get? (store : PreferenceStore) (key : String) : Option Json :=
  store.entries.lookup key

def remove (store : PreferenceStore) (key : String) : PreferenceStore :=
  ⟨store.entries.filter fun entry => entry.1 != key⟩

def set (store : PreferenceStore) (key : String) (value : Json) : PreferenceStore :=
  ⟨(key, value) :: (store.remove key).entries⟩

theorem get?_remove (store : PreferenceStore) (key other : String) :
    (store.remove key).get? other = if other = key then none else store.get? other := by
  obtain ⟨entries⟩ := store
  induction entries with
  | nil => simp [get?, remove]
  | cons entry rest hypothesis =>
    obtain ⟨held, value⟩ := entry
    simp only [get?, remove] at hypothesis ⊢
    by_cases same : held = key
    · subst same
      by_cases asked : other = held
      · simpa [asked] using hypothesis
      · have unequal : (other == held) = false := by simpa using asked
        rw [List.lookup_cons, unequal]
        simpa [asked] using hypothesis
    · rw [List.filter_cons_of_pos (by simpa using same), List.lookup_cons, List.lookup_cons]
      by_cases asked : other = held
      · simp [asked, same]
      · have unequal : (other == held) = false := by simpa using asked
        rw [unequal]
        exact hypothesis

theorem get?_set (store : PreferenceStore) (key other : String) (value : Json) :
    (store.set key value).get? other = if other = key then some value else store.get? other := by
  by_cases same : other = key
  · simp [get?, set, same]
  · have kept := store.get?_remove key other
    have unequal : (other == key) = false := by simpa using same
    simpa [get?, set, List.lookup_cons, unequal, same] using kept

def setBool (store : PreferenceStore) (key : String) (value : Bool) : PreferenceStore :=
  store.set key (.bool value)

def setInt (store : PreferenceStore) (key : String) (value : Int64) : PreferenceStore :=
  store.set key (.ofInt64 value)

def storedBool? : Json → Option Bool
  | .bool value => some value
  | .number (.integer stored) =>
      if stored.value = 0 then some false else if stored.value = 1 then some true else none
  | _ => none

def storedInt? : Json → Option Int64
  | .number (.integer stored) => stored.toInt64?
  | _ => none

def getBool (store : PreferenceStore) (key : String) (default : Bool) :
    Except PreferenceError Bool :=
  match store.get? key with
  | none => .ok default
  | some stored =>
      match storedBool? stored with
      | some value => .ok value
      | none => .error (.typeMismatch key "bool")

def getInt (store : PreferenceStore) (key : String) (default : Int64) :
    Except PreferenceError Int64 :=
  match store.get? key with
  | none => .ok default
  | some stored =>
      match storedInt? stored with
      | some value => .ok value
      | none => .error (.typeMismatch key "integer")

def source (store : PreferenceStore) : PreferenceSource where
  bool := store.getBool
  int := store.getInt

/-- The store with some keys that cannot be read. -/
def sourceWithout (store : PreferenceStore) (unreadable : List String) (detail : String) :
    PreferenceSource where
  bool key default :=
    if key ∈ unreadable then .error (.unavailable detail) else store.getBool key default
  int key default :=
    if key ∈ unreadable then .error (.unavailable detail) else store.getInt key default

/-- Stores a flag or a signed word, and ignores any other value. -/
def setValue (store : PreferenceStore) (key : String) : Json → PreferenceStore
  | .bool flag => store.setBool key flag
  | .number (.integer stored) =>
      match stored.toInt64? with
      | some number => store.setInt key number
      | none => store
  | _ => store

/-- Puts every preference under its key. The delay is stored as a signed word and
wraps. -/
def apply (store : PreferenceStore) (preferences : Preferences) : PreferenceStore :=
  ((((store.setBool PreferenceKey.sensorDisabled preferences.sensorDisabled).setBool
    PreferenceKey.autoSpeaker preferences.autoSpeaker).setBool
    PreferenceKey.autoSpeakerIncallOnly preferences.autoSpeakerIncallOnly).setInt
    PreferenceKey.autoSpeakerDelay preferences.autoSpeakerDelay.toInt64).setBool
    PreferenceKey.autoAnswer preferences.autoAnswer

def ofMembers (members : List (String × Json)) : PreferenceStore :=
  ⟨Json.canonicalMembers members []⟩

end PreferenceStore

/-- Why a text is no preference data. -/
inductive SeedError where
  | json (error : JsonError)
  | notAnObject
deriving DecidableEq

/-- A store from the text of a JSON object. A value of another kind is told by its first
character; a scalar is still read, and its own fault comes first. -/
def PreferenceStore.ofText (text : String) : Except SeedError PreferenceStore :=
  let chars := text.toList
  match Json.skipBlanks chars with
  | '[' :: _ => .error .notAnObject
  | '\x7b' :: _ =>
      match Json.readText Json.nestingLimit chars with
      | .ok (.object members) => .ok (.ofMembers members)
      | .ok _ => .error .notAnObject
      | .error error => .error (.json error)
  | front =>
      match Json.readScalar? front with
      | some (.ok _) => .error .notAnObject
      | some (.error error) => .error (.json error)
      | none => .error (.json (if front.isEmpty then .endOfText else .malformed))

end CallProximity
