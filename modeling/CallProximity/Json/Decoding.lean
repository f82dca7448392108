import CallProximity.Json.Basic

/-! Decoding JSON values into domain types. A record is an object with its fields in
any order, or an array of its fields in the order they are declared. Of several
faults the first in the order of the members counts, and a missing field only when
every member is good. -/

namespace CallProximity

inductive DecodeError where
  | invalidType
  | invalidValue
  | invalidLength
  | unknownVariant (name : String) (expected : List String)
  | missingField (name : String)
  | repeatedField (name : String)
deriving DecidableEq

abbrev Decoder (α : Type) := Json → Except DecodeError α

namespace Decoder

def bool : Decoder Bool
  | .bool value => .ok value
  | _ => .error .invalidType

def string : Decoder String
  | .string value => .ok value
  | _ => .error .invalidType

/-- A float is no integer, whatever its value. -/
def integer (convert : WordInteger → Option α) : Decoder α
  | .number (.integer value) =>
      match convert value with
      | some converted => .ok converted
      | none => .error .invalidValue
  | _ => .error .invalidType

def uint64 : Decoder UInt64 :=
  integer WordInteger.toUInt64?

def uint32 : Decoder UInt32 :=
  integer WordInteger.toUInt32?

def double : Decoder Float
  | .number (.integer value) => .ok (doubleOfInt value.value)
  | .number (.real value) => .ok value
  | _ => .error .invalidType

def single : Decoder Float32
  | .number (.integer value) => .ok (singleOfInt value.value)
  | .number (.real value) => .ok (narrow value)
  | _ => .error .invalidType

/-- Any value, its objects read as maps. -/
def any : Decoder Json :=
  fun json => .ok json.canonical

def option (decode : Decoder α) : Decoder (Option α)
  | .null => .ok none
  | json => (decode json).map some

def list (decode : Decoder α) : Decoder (List α)
  | .array items => items.mapM decode
  | _ => .error .invalidType

end Decoder

/-- A type whose values are written as names. -/
class Labelled (α : Type) where
  values : List α
  label : α → String

export Labelled (label)

namespace Labelled

variable {α : Type} [Labelled α]

def names (α : Type) [Labelled α] : List String :=
  (values (α := α)).map label

def ofLabel (name : String) : Except DecodeError α :=
  match values.find? fun value => label value == name with
  | some value => .ok value
  | none => .error (.unknownVariant name (names α))

/-- A name, or an object with that name as its only key; `isUnit` tells what may
stand under the key. -/
def decodeWith (isUnit : Json → Bool) : Decoder α
  | .string name => ofLabel name
  | .object [(name, content)] => do
      let value ← ofLabel name
      if isUnit content then return value else throw .invalidType
  | .object _ => .error .invalidValue
  | _ => .error .invalidType

def isNull : Json → Bool
  | .null => true
  | _ => false

def isNullOrEmpty : Json → Bool
  | .null | .object [] => true
  | _ => false

def decode : Decoder α :=
  decodeWith isNull

def encode (value : α) : Json :=
  .string (label value)

end Labelled

/-- One field of a record of type `α`: how its value is put into the record. -/
structure RecordField (α : Type) where
  name : String
  isRequired : Bool
  read : Json → α → Except DecodeError α

namespace RecordField

def required (name : String) (decode : Decoder β) (put : β → α → α) : RecordField α :=
  ⟨name, true, fun json record => (decode json).map (put · record)⟩

def optional (name : String) (decode : Decoder β) (put : β → α → α) : RecordField α :=
  ⟨name, false, fun json record => (decode json).map (put · record)⟩

end RecordField

/-- How a record is read: its fields, and the values of fields that may be absent. -/
structure RecordShape (α : Type) where
  start : α
  fields : List (RecordField α)

namespace RecordShape

def readMembers (shape : RecordShape α) (record : α) (seen : List String) :
    List (String × Json) → Except DecodeError α
  | [] =>
      match shape.fields.find? fun field => field.isRequired && !seen.contains field.name with
      | some field => .error (.missingField field.name)
      | none => .ok record
  | (key, json) :: rest =>
      match shape.fields.find? fun field => field.name == key with
      | none => shape.readMembers record seen rest
      | some field =>
          if seen.contains key then .error (.repeatedField key)
          else do
            let record ← field.read json record
            shape.readMembers record (key :: seen) rest

def readItems (record : α) : List (RecordField α) → List Json → Except DecodeError α
  | [], [] => .ok record
  | [], _ :: _ => .error .invalidLength
  | field :: fields, [] =>
      if field.isRequired then .error .invalidLength else readItems record fields []
  | field :: fields, json :: rest => do
      let record ← field.read json record
      readItems record fields rest

def decode (shape : RecordShape α) : Decoder α
  | .object members => shape.readMembers shape.start [] members
  | .array items => readItems shape.start shape.fields items
  | _ => .error .invalidType

end RecordShape

end CallProximity
