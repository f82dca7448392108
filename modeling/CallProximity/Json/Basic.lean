import CallProximity.Binary

/-! JSON values. A number is an integer that one machine word holds, or a double.
An object keeps its members as written, repeated keys included; `canonical` is the
reading as a map, where the last member of a key counts and keys are in order. -/

namespace CallProximity

/-- The integers of a signed or an unsigned 64-bit word. -/
structure WordInteger where
  value : Int
  fits : -9223372036854775808 ≤ value ∧ value < 18446744073709551616
deriving DecidableEq

namespace WordInteger

def ofInt? (value : Int) : Option WordInteger :=
  if fits : -9223372036854775808 ≤ value ∧ value < 18446744073709551616 then some ⟨value, fits⟩
  else none

def ofUInt64 (value : UInt64) : WordInteger :=
  ⟨value.toNat, by have := value.toNat_lt; omega⟩

def ofInt64 (value : Int64) : WordInteger :=
  ⟨value.toInt, by have := value.le_toInt; have := value.toInt_lt; omega⟩

def ofUInt32 (value : UInt32) : WordInteger :=
  ⟨value.toNat, by have := value.toNat_lt; omega⟩

/-- Nothing when the integer has a sign or is past the word. -/
def toUInt64? (integer : WordInteger) : Option UInt64 :=
  if 0 ≤ integer.value then some (.ofNat integer.value.toNat) else none

def toUInt32? (integer : WordInteger) : Option UInt32 :=
  if 0 ≤ integer.value ∧ integer.value < 4294967296 then some (.ofNat integer.value.toNat) else none

def toInt64? (integer : WordInteger) : Option Int64 :=
  if integer.value < 9223372036854775808 then some (.ofInt integer.value) else none

end WordInteger

inductive JsonNumber where
  | integer (value : WordInteger)
  | real (value : Float)

inductive Json where
  | null
  | bool (value : Bool)
  | number (value : JsonNumber)
  | string (value : String)
  | array (items : List Json)
  | object (members : List (String × Json))

namespace Json

/-- JSON has no spelling for NaN and the infinities; they become `null`. -/
def ofDouble (value : Float) : Json :=
  if value.isFinite then .number (.real value) else .null

def ofSingle (value : Float32) : Json :=
  ofDouble (widen value)

def ofUInt64 (value : UInt64) : Json :=
  .number (.integer (.ofUInt64 value))

def ofInt64 (value : Int64) : Json :=
  .number (.integer (.ofInt64 value))

def ofUInt32 (value : UInt32) : Json :=
  .number (.integer (.ofUInt32 value))

/-- Puts a member in the order of keys, in place of an earlier one of its key. -/
def insertMember (key : String) (value : Json) : List (String × Json) → List (String × Json)
  | [] => [(key, value)]
  | (other, held) :: rest =>
      if key < other then (key, value) :: (other, held) :: rest
      else if key = other then (key, value) :: rest
      else (other, held) :: insertMember key value rest

mutual

def canonical : Json → Json
  | .array items => .array (canonicalItems items)
  | .object members => .object (canonicalMembers members [])
  | other => other

def canonicalItems : List Json → List Json
  | [] => []
  | item :: rest => item.canonical :: canonicalItems rest

def canonicalMembers : List (String × Json) → List (String × Json) → List (String × Json)
  | [], sorted => sorted
  | (key, value) :: rest, sorted => canonicalMembers rest (insertMember key value.canonical sorted)

end

end Json

end CallProximity
