import CallProximity.Policy.Decision
import CallProximity.Proofs.JsonScalars
import CallProximity.Session.Basic
import Mathlib.Data.String.Basic

/-! Values return from their encodings. A record is read member by member: with no key twice and no required field
missing, in any order. So it is read from its members as they are written, and from a map, which holds them in the
order of their keys. -/

namespace CallProximity

/-- The value is decoded from the JSON as it is written, and from it as a map. -/
structure Decodes {α : Type} (decode : Decoder α) (value : α) (json : Json) : Prop where
  written : decode json = .ok value
  mapped : decode json.canonical = .ok value

/-- A type in which every value is the first of its label. -/
class LawfulLabelled (α : Type) [Labelled α] : Prop where
  ofLabel_label : ∀ value : α, Labelled.ofLabel (label value) = .ok value

namespace Labelled

variable {α : Type} [Labelled α]

@[simp]
theorem canonical_encode (value : α) : (encode value).canonical = encode value := rfl

variable [LawfulLabelled α]

theorem decodeWith_encode (isUnit : Json → Bool) (value : α) : decodeWith isUnit (encode value) = .ok value :=
  LawfulLabelled.ofLabel_label value

theorem decode_encode (value : α) : decode (encode value) = .ok value :=
  decodeWith_encode isNull value

theorem decodes_encode (value : α) : Decodes decode value (encode value) :=
  ⟨decode_encode value, decode_encode value⟩

end Labelled

instance : LawfulLabelled CallState where
  ofLabel_label value := by cases value <;> rfl

instance : LawfulLabelled AudioRoute where
  ofLabel_label value := by cases value <;> rfl

instance : LawfulLabelled Orientation where
  ofLabel_label value := by cases value <;> rfl

instance : LawfulLabelled Trigger where
  ofLabel_label value := by cases value <;> rfl

instance : LawfulLabelled LockState where
  ofLabel_label value := by cases value <;> rfl

instance : LawfulLabelled SubscriptionReason where
  ofLabel_label value := by cases value <;> rfl

namespace RecordShape

variable {α : Type} {shape : RecordShape α}

def readMember (shape : RecordShape α) (record : α) (member : String × Json) : Except DecodeError α :=
  match shape.fields.find? fun field => field.name == member.1 with
  | some field => field.read member.2 record
  | none => .ok record

/-- No key comes twice, and no required field is missing. -/
def IsComplete (shape : RecordShape α) (keys : List String) : Prop :=
  keys.Nodup ∧ ∀ field ∈ shape.fields, field.isRequired = true → field.name ∈ keys

instance (keys : List String) : Decidable (shape.IsComplete keys) :=
  inferInstanceAs (Decidable (_ ∧ _))

theorem readMembers_eq (record : α) (seen : List String) (members : List (String × Json))
    (apart : (members.map Prod.fst).Nodup) (fresh : ∀ key ∈ members.map Prod.fst, key ∉ seen)
    (complete : ∀ field ∈ shape.fields, field.isRequired = true →
      field.name ∈ seen ∨ field.name ∈ members.map Prod.fst) :
    shape.readMembers record seen members = members.foldlM shape.readMember record := by
  induction members generalizing record seen with
  | nil =>
    have present : (shape.fields.find? fun field => field.isRequired && !seen.contains field.name) = none := by
      simpa using complete
    simp only [readMembers, present]
    rfl
  | cons member members ih =>
    obtain ⟨key, json⟩ := member
    rw [List.map_cons, List.nodup_cons] at apart
    rw [List.foldlM_cons, readMember, readMembers]
    cases known : shape.fields.find? fun field => field.name == key with
    | none =>
      refine ih record seen apart.2 (fun other inside => fresh other (List.mem_cons_of_mem _ inside)) ?_
      intro field inside required
      have other : field.name ≠ key := by simpa using List.find?_eq_none.mp known field inside
      simpa [other] using complete field inside required
    | some field =>
      have unseen : seen.contains key = false := by simpa using fresh key (by simp)
      simp only [unseen, Bool.false_eq_true, ↓reduceIte]
      refine bind_congr fun record => ih record (key :: seen) apart.2 ?_ ?_
      · intro other inside
        have earlier := fresh other (List.mem_cons_of_mem _ inside)
        grind
      · intro other inside required
        have somewhere := complete other inside required
        grind

/-- An object is read member by member, in whatever order they come. -/
theorem decode_object {members : List (String × Json)} (complete : shape.IsComplete (members.map Prod.fst)) :
    shape.decode (.object members) = members.foldlM shape.readMember shape.start :=
  readMembers_eq shape.start [] members complete.1 (by simp) (by simpa using complete.2)

theorem decodes_object {members : List (String × Json)} {record : α}
    (written : shape.IsComplete (members.map Prod.fst) ∧ members.foldlM shape.readMember shape.start = .ok record)
    (mapped : shape.IsComplete ((Json.canonicalMembers members []).map Prod.fst) ∧
      (Json.canonicalMembers members []).foldlM shape.readMember shape.start = .ok record) :
    Decodes shape.decode record (.object members) :=
  ⟨(decode_object written.1).trans written.2, (decode_object mapped.1).trans mapped.2⟩

end RecordShape

attribute [simp] ok_bind map_ok

namespace RecordField

variable {α β : Type} (name : String) (decode : Decoder β) (put : β → α → α) (json : Json) (record : α)

@[simp]
theorem name_required : (required name decode put).name = name := rfl

@[simp]
theorem name_optional : (optional name decode put).name = name := rfl

@[simp]
theorem isRequired_required : (required name decode put).isRequired = true := rfl

@[simp]
theorem isRequired_optional : (optional name decode put).isRequired = false := rfl

@[simp]
theorem read_required : (required name decode put).read json record = (decode json).map (put · record) := rfl

@[simp]
theorem read_optional : (optional name decode put).read json record = (decode json).map (put · record) := rfl

end RecordField

namespace Decoder

@[simp]
theorem bool_bool (value : Bool) : bool (.bool value) = .ok value := rfl

@[simp]
theorem string_string (value : String) : string (.string value) = .ok value := rfl

@[simp]
theorem uint64_ofUInt64 (word : UInt64) : uint64 (.ofUInt64 word) = .ok word := by
  simp [uint64, integer, Json.ofUInt64, WordInteger.toUInt64?, WordInteger.ofUInt64]

theorem toUInt32?_ofUInt32 (word : UInt32) : (WordInteger.ofUInt32 word).toUInt32? = some word := by
  have bound : (word.toNat : Int) < 4294967296 := Int.ofNat_lt.mpr word.toNat_lt
  rw [WordInteger.toUInt32?, if_pos ⟨Int.natCast_nonneg _, bound⟩]
  exact congrArg some UInt32.ofNat_toNat

@[simp]
theorem uint32_ofUInt32 (word : UInt32) : uint32 (.ofUInt32 word) = .ok word := by
  rw [uint32, Json.ofUInt32, integer, toUInt32?_ofUInt32]

theorem double_ofDouble {value : Float} (finite : value.isFinite = true) : double (.ofDouble value) = .ok value := by
  rw [Json.ofDouble, if_pos finite, double]

end Decoder

namespace Json

@[simp]
theorem canonical_bool (value : Bool) : (bool value).canonical = bool value := rfl

@[simp]
theorem canonical_string (text : String) : (string text).canonical = string text := rfl

@[simp]
theorem canonical_ofDouble (value : Float) : (ofDouble value).canonical = ofDouble value := by
  rw [ofDouble]
  split <;> rfl

@[simp]
theorem canonical_ofSingle (value : Float32) : (ofSingle value).canonical = ofSingle value :=
  canonical_ofDouble (widen value)

@[simp]
theorem canonical_ofUInt64 (value : UInt64) : (ofUInt64 value).canonical = ofUInt64 value := rfl

@[simp]
theorem canonical_ofUInt32 (value : UInt32) : (ofUInt32 value).canonical = ofUInt32 value := rfl

end Json

section Records

open RecordShape Json

-- The keys are literals, so their order is computed as it stands: `String.lt_iff_ltb` would hide it from that.

theorem LockAction.decodes_encode (action : LockAction) : Decodes decode action action.encode := by
  cases action <;> exact ⟨rfl, rfl⟩

theorem CallStatus.decodes_encode (status : CallStatus) : Decodes decode status status.encode := by
  apply decodes_object <;>
    simp [-String.lt_iff_ltb, RecordShape.IsComplete, readMember, shape, flags, canonicalMembers, insertMember]

theorem ProximityReading.decodes_encode (reading : ProximityReading) : Decodes decode reading reading.encode := by
  apply decodes_object <;>
    simp [-String.lt_iff_ltb, RecordShape.IsComplete, readMember, shape, canonicalMembers, insertMember]

theorem Preferences.decodes_encode (preferences : Preferences) : Decodes decode preferences preferences.encode := by
  apply decodes_object <;>
    simp [-String.lt_iff_ltb, RecordShape.IsComplete, readMember, shape, canonicalMembers, insertMember]

theorem Snapshot.decodes_encode (snapshot : Snapshot) : Decodes decode snapshot snapshot.encode := by
  apply decodes_object <;>
    simp [-String.lt_iff_ltb, RecordShape.IsComplete, readMember, shape, canonicalMembers, insertMember,
      Labelled.decode_encode]

theorem OrientationConfig.decodes_encode {config : OrientationConfig} (finite : config.uprightAngle.isFinite = true) :
    Decodes decode config config.encode := by
  apply decodes_object <;>
    simp [-String.lt_iff_ltb, RecordShape.IsComplete, readMember, shape, canonicalMembers, insertMember,
      Decoder.double_ofDouble finite]

theorem ActiveCall.decodes_encode (call : ActiveCall) : Decodes decode call call.encode := by
  apply decodes_object <;>
    simp [-String.lt_iff_ltb, RecordShape.IsComplete, readMember, shape, canonicalMembers, insertMember]

/-- No call is encoded as `null`. -/
theorem ActiveCall.option_decodes_encode (call : Option ActiveCall) :
    Decodes (Decoder.option decode) call ((call.map encode).getD .null) := by
  cases call with
  | none => exact ⟨rfl, rfl⟩
  | some call =>
    obtain ⟨written, mapped⟩ := call.decodes_encode
    exact ⟨congrArg (Except.map some) written, congrArg (Except.map some) mapped⟩

theorem Decoder.option_string_decodes (text : Option String) :
    Decodes (Decoder.option Decoder.string) text ((text.map Json.string).getD .null) := by
  cases text <;> exact ⟨rfl, rfl⟩

theorem CallList.decodes_encode (calls : CallList) : Decodes decode calls calls.encode := by
  obtain ⟨callWritten, callMapped⟩ := ActiveCall.option_decodes_encode calls.activeCall
  obtain ⟨idWritten, idMapped⟩ := Decoder.option_string_decodes calls.ringingCallId
  apply decodes_object <;>
    simp [-String.lt_iff_ltb, RecordShape.IsComplete, readMember, shape, canonicalMembers, insertMember,
      callWritten, callMapped, idWritten, idMapped]

end Records

end CallProximity
