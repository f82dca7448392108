import CallProximity.Proofs.JsonMaps
import CallProximity.Proofs.RecordDecoding
import CallProximity.Scenario.Encoding

/-! Steps and scenarios return from their encodings, however a single float is encoded as long as it returns. A step is
read apart from the member that names its kind, and the value of a preference returns when its objects are maps. -/

namespace CallProximity

open Json

variable {single : Float32 → Json}

instance : LawfulLabelled StepKind where
  ofLabel_label value := by cases value <;> rfl

theorem StepKind.decode_encode (style : KindStyle) (kind : StepKind) : decode style (Labelled.encode kind) = .ok kind :=
  LawfulLabelled.ofLabel_label kind

theorem Decodes.map {α β : Type} {decode : Decoder α} {value : α} {json : Json} (decodes : Decodes decode value json)
    (view : α → β) : Decodes (fun json => (decode json).map view) (view value) json where
  written := by rw [decodes.written, map_ok]
  mapped := by rw [decodes.mapped, map_ok]

namespace Decoder

theorem any_decodes {json : Json} (ordered : json.InOrder) : Decodes any json json where
  written := congrArg Except.ok (canonical_eq_self ordered)
  mapped := by rw [any, canonical_eq_self ordered, canonical_eq_self ordered]

theorem bool_decodes (value : Bool) : Decodes bool value (.bool value) := ⟨rfl, rfl⟩

theorem uint64_decodes (word : UInt64) : Decodes uint64 word (.ofUInt64 word) :=
  ⟨uint64_ofUInt64 word, uint64_ofUInt64 word⟩

theorem single_decodes {value : Float32} {json : Json} (read : Decoder.single json = .ok value) :
    Decodes Decoder.single value json := by
  cases json with
  | number number => exact ⟨read, read⟩
  | _ => cases read

theorem mapM_map {α : Type} {decode : Decoder α} {encode : α → Json} {values : List α}
    (each : ∀ value ∈ values, decode (encode value) = .ok value) : (values.map encode).mapM decode = .ok values := by
  induction values with
  | nil => rfl
  | cons value values ih =>
    rw [List.map_cons, List.mapM_cons, each value List.mem_cons_self,
      ih fun other inside => each other (List.mem_cons_of_mem value inside)]
    rfl

theorem list_decodes {α : Type} {decode : Decoder α} {encode : α → Json} {values : List α}
    (each : ∀ value ∈ values, Decodes decode value (encode value)) :
    Decodes (list decode) values (.array (values.map encode)) where
  written := mapM_map fun value inside => (each value inside).written
  mapped := by
    rw [canonical, canonicalItems_eq_map, List.map_map]
    exact mapM_map fun value inside => (each value inside).mapped

end Decoder

namespace ScenarioStep

/-- The members of a step, its single float in some encoding. -/
def membersWith (single : Float32 → Json) : ScenarioStep → List (String × Json)
  | .proximity distance => [("distance", single distance)]
  | step => step.members

def encodeWith (single : Float32 → Json) (step : ScenarioStep) : Json :=
  .object (("type", Labelled.encode step.kind) :: step.membersWith single)

theorem encodeWith_ofSingle (step : ScenarioStep) : step.encodeWith .ofSingle = step.encode := by
  cases step <;> rfl

/-- JSON can hold the step: its single float returns, its double floats are finite, and the objects in its value are
maps. -/
def IsEncodable (returns : Float32 → Prop) : ScenarioStep → Prop
  | .proximity distance => returns distance
  | .accelerometer x y z => x.isFinite ∧ y.isFinite ∧ z.isFinite
  | .preference _ value => value.InOrder
  | _ => True

instance (returns : Float32 → Prop) [DecidablePred returns] :
    ∀ step : ScenarioStep, Decidable (step.IsEncodable returns)
  | .proximity distance => inferInstanceAs (Decidable (returns distance))
  | .accelerometer x y z => inferInstanceAs (Decidable (x.isFinite ∧ y.isFinite ∧ z.isFinite))
  | .preference _ value => inferInstanceAs (Decidable value.InOrder)
  | .callState .. | .audioRoute _ | .uiShowing _ | .dialpad _ | .attemptingVideo _ | .orientation _ | .display .. |
    .wait _ | .teardown => .isTrue trivial

theorem decode_object {members : List (String × Json)} (kind : StepKind) (style : KindStyle)
    (tagged : members.filter (·.1 == "type") = [("type", Labelled.encode kind)]) :
    decode style (.object members) = decodeFields kind (.object (members.filter (·.1 != "type"))) := by
  rw [decode]
  simp only [tagged, StepKind.decode_encode, ok_bind]

/-- The fields of a step are read whether its kind stands in front of them or among them. -/
theorem decodes_object {members : List (String × Json)} {kind : StepKind} {step : ScenarioStep} (style : KindStyle)
    (apart : "type" ∉ members.map Prod.fst) (fields : Decodes (decodeFields kind) step (.object members)) :
    Decodes (decode style) step (.object (("type", Labelled.encode kind) :: members)) := by
  have kept : members.filter (·.1 != "type") = members :=
    List.filter_eq_self.mpr fun member inside =>
      bne_iff_ne.mpr fun same => apart (List.mem_map.mpr ⟨member, inside, same⟩)
  have none : members.filter (·.1 == "type") = [] :=
    List.filter_eq_nil_iff.mpr fun member inside same => apart (List.mem_map.mpr ⟨member, inside, beq_iff_eq.mp same⟩)
  constructor
  · rw [decode_object kind style (by simp [none]), List.filter_cons_of_neg (by simp), kept]
    exact fields.written
  · have tagged : KeysInOrder [("type", Labelled.encode kind)] := List.pairwise_singleton _ _
    rw [canonical, canonicalMembers, insertMember, Labelled.canonical_encode, decode_object kind style,
      filter_canonicalMembers "type" members tagged, kept]
    · exact fields.mapped
    · simp [filter_key_canonicalMembers apart]

theorem decodeName_encode {α : Type} [Labelled α] [LawfulLabelled α] (value : α) :
    decodeName (Labelled.encode value) = .ok value :=
  Labelled.decodeWith_encode _ value

theorem decodeName_decodes {α : Type} [Labelled α] [LawfulLabelled α] (value : α) :
    Decodes decodeName value (Labelled.encode value) :=
  ⟨decodeName_encode value, decodeName_encode value⟩

theorem fieldShape_decodes {α : Type} (name : String) (start : α) {decode : Decoder α} {value : α} {json : Json}
    (field : Decodes decode value json) :
    Decodes (fieldShape name start decode).decode value (.object [(name, json)]) := by
  apply RecordShape.decodes_object <;>
    simp [RecordShape.IsComplete, RecordShape.readMember, fieldShape, canonicalMembers, insertMember, field.written,
      field.mapped]

theorem callState_decodes (old new : CallState) (calls : CallList) : Decodes callStateShape.decode (old, new, calls)
    (.object [("old", Labelled.encode old), ("new", Labelled.encode new), ("calls", calls.encode)]) := by
  apply RecordShape.decodes_object <;>
    simp [-String.lt_iff_ltb, RecordShape.IsComplete, RecordShape.readMember, callStateShape, canonicalMembers,
      insertMember, decodeName_encode, calls.decodes_encode.written, calls.decodes_encode.mapped]

theorem accelerometer_decodes {x y z : Float} (finite : x.isFinite ∧ y.isFinite ∧ z.isFinite) :
    Decodes accelerometerShape.decode (x, y, z)
      (.object [("x", .ofDouble x), ("y", .ofDouble y), ("z", .ofDouble z)]) := by
  apply RecordShape.decodes_object <;>
    simp [-String.lt_iff_ltb, RecordShape.IsComplete, RecordShape.readMember, accelerometerShape, canonicalMembers,
      insertMember, Decoder.double_ofDouble, finite]

theorem display_decodes (id : UInt32) (isOn : Bool) :
    Decodes displayShape.decode (id, isOn) (.object [("display_id", .ofUInt32 id), ("on", .bool isOn)]) := by
  apply RecordShape.decodes_object <;>
    simp [-String.lt_iff_ltb, RecordShape.IsComplete, RecordShape.readMember, displayShape, canonicalMembers,
      insertMember]

theorem preference_decodes (key : String) {value : Json} (ordered : value.InOrder) :
    Decodes preferenceShape.decode (key, value) (.object [("key", .string key), ("value", value)]) := by
  apply RecordShape.decodes_object <;>
    simp [-String.lt_iff_ltb, RecordShape.IsComplete, RecordShape.readMember, preferenceShape, canonicalMembers,
      insertMember, canonical_eq_self ordered, (Decoder.any_decodes ordered).written]

theorem decodeFields_decodes {step : ScenarioStep}
    (encodable : step.IsEncodable fun value => Decoder.single (single value) = .ok value) :
    Decodes (decodeFields step.kind) step (.object (step.membersWith single)) := by
  cases step with
  | proximity distance => exact (fieldShape_decodes "distance" 0 (Decoder.single_decodes encodable)).map proximity
  | callState old new calls => exact (callState_decodes old new calls).map _
  | audioRoute route => exact (fieldShape_decodes "route" .earpiece (decodeName_decodes route)).map audioRoute
  | uiShowing showing => exact (fieldShape_decodes "showing" false (Decoder.bool_decodes showing)).map uiShowing
  | dialpad visible => exact (fieldShape_decodes "visible" false (Decoder.bool_decodes visible)).map dialpad
  | attemptingVideo attempting =>
    exact (fieldShape_decodes "attempting" false (Decoder.bool_decodes attempting)).map attemptingVideo
  | orientation value => exact (fieldShape_decodes "orientation" .unknown (decodeName_decodes value)).map orientation
  | accelerometer x y z => exact (accelerometer_decodes encodable).map _
  | display id isOn => exact (display_decodes id isOn).map _
  | preference key value => exact (preference_decodes key encodable).map _
  | wait milliseconds => exact (fieldShape_decodes "ms" 0 (Decoder.uint64_decodes milliseconds)).map wait
  | teardown => exact ⟨rfl, rfl⟩

theorem type_notMem_membersWith (step : ScenarioStep) : "type" ∉ (step.membersWith single).map Prod.fst := by
  cases step <;> simp [membersWith, members]

theorem decodes_encodeWith {step : ScenarioStep}
    (encodable : step.IsEncodable fun value => Decoder.single (single value) = .ok value) (style : KindStyle) :
    Decodes (decode style) step (step.encodeWith single) :=
  decodes_object style step.type_notMem_membersWith (decodeFields_decodes encodable)

end ScenarioStep

namespace Scenario

def encodeWith (single : Float32 → Json) (scenario : Scenario) : Json :=
  .object [
    ("name", .string scenario.name),
    ("preferences", scenario.preferences.encode),
    ("has_proximity_sensor", .bool scenario.hasProximitySensor),
    ("proximity_max_range", single scenario.proximityMaxRange),
    ("has_telephony", .bool scenario.hasTelephony),
    ("steps", .array (scenario.steps.map (ScenarioStep.encodeWith single)))]

theorem encodeWith_ofSingle (scenario : Scenario) : scenario.encodeWith .ofSingle = scenario.encode := by
  rw [encodeWith, encode, funext ScenarioStep.encodeWith_ofSingle]

/-- JSON can hold the scenario: its maximum range returns, and it can hold the steps. -/
structure IsEncodable (returns : Float32 → Prop) (scenario : Scenario) : Prop where
  maxRange : returns scenario.proximityMaxRange
  steps : ∀ step ∈ scenario.steps, step.IsEncodable returns

instance (returns : Float32 → Prop) [DecidablePred returns] (scenario : Scenario) :
    Decidable (scenario.IsEncodable returns) :=
  decidable_of_iff (returns scenario.proximityMaxRange ∧ ∀ step ∈ scenario.steps, step.IsEncodable returns)
    ⟨fun both => ⟨both.1, both.2⟩, fun encodable => ⟨encodable.maxRange, encodable.steps⟩⟩

theorem decodes_encodeWith {scenario : Scenario}
    (encodable : scenario.IsEncodable fun value => Decoder.single (single value) = .ok value) (style : KindStyle) :
    Decodes (decode style) scenario (scenario.encodeWith single) := by
  obtain ⟨rangeWritten, rangeMapped⟩ := Decoder.single_decodes encodable.maxRange
  obtain ⟨stepsWritten, stepsMapped⟩ := Decoder.list_decodes fun step inside =>
    ScenarioStep.decodes_encodeWith (encodable.steps step inside) style
  obtain ⟨preferencesWritten, preferencesMapped⟩ := scenario.preferences.decodes_encode
  apply RecordShape.decodes_object <;>
    simp [-String.lt_iff_ltb, RecordShape.IsComplete, RecordShape.readMember, shape, canonicalMembers, insertMember,
      rangeWritten, rangeMapped, stepsWritten, stepsMapped, preferencesWritten, preferencesMapped]

end Scenario
end CallProximity
