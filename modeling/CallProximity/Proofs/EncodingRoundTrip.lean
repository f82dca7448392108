import CallProximity.Proofs.JsonWriting
import CallProximity.Proofs.ScenarioDecoding
import CallProximity.Proofs.ScriptForms
import CallProximity.Proofs.Widening

/-! A scenario is the script that its encoding is the text of. A single float may stand there as the double it widens to
or in its own digits. -/

namespace CallProximity

namespace Json

theorem nestingOfMembers_insertMember_le (key : String) (value : Json) (sorted : List (String × Json)) :
    nestingOfMembers (insertMember key value sorted) ≤ max value.nesting (nestingOfMembers sorted) := by
  induction sorted with
  | nil => rfl
  | cons held sorted ih =>
    obtain ⟨other, held⟩ := held
    rw [insertMember]
    split_ifs <;> simp only [nestingOfMembers] <;> omega

mutual

theorem nesting_canonical_le : ∀ json : Json, json.canonical.nesting ≤ json.nesting
  | .array items => Nat.succ_le_succ (nestingOfItems_canonical_le items)
  | .object members => by
    have inside := nestingOfMembers_canonical_le members []
    rw [nestingOfMembers, Nat.max_zero] at inside
    exact Nat.succ_le_succ inside
  | .null | .bool _ | .number _ | .string _ => Nat.le_refl 0

theorem nestingOfItems_canonical_le : ∀ items : List Json, nestingOfItems (canonicalItems items) ≤ nestingOfItems items
  | [] => Nat.le_refl 0
  | item :: items => by
    have first := nesting_canonical_le item
    have rest := nestingOfItems_canonical_le items
    simp only [canonicalItems, nestingOfItems]
    omega

theorem nestingOfMembers_canonical_le : ∀ members sorted : List (String × Json),
    nestingOfMembers (canonicalMembers members sorted) ≤ max (nestingOfMembers members) (nestingOfMembers sorted)
  | [], sorted => Nat.le_max_right _ _
  | (key, value) :: members, sorted => by
    have first := nesting_canonical_le value
    have inserted := nestingOfMembers_insertMember_le key value.canonical sorted
    have rest := nestingOfMembers_canonical_le members (insertMember key value.canonical sorted)
    simp only [canonicalMembers, nestingOfMembers] at *
    omega

end

end Json

theorem Decoder.single_ofSingle {value : Float32} (finite : value.isFinite = true) :
    single (.ofSingle value) = .ok value := by
  obtain ⟨wide, narrowed⟩ := narrow_widen finite
  rw [Json.ofSingle, Json.ofDouble, if_pos wide, single, narrowed]

theorem ClassifierConfig.decodes_encode {config : ClassifierConfig} (finite : config.threshold.isFinite = true) :
    Decodes decode config config.encode := by
  apply RecordShape.decodes_object <;>
    simp [RecordShape.IsComplete, RecordShape.readMember, shape, Json.canonicalMembers, Json.insertMember,
      Decoder.single_ofSingle finite]

theorem ScenarioStep.IsEncodable.imp {first second : Float32 → Prop} (implies : ∀ value, first value → second value)
    {step : ScenarioStep} (encodable : step.IsEncodable first) : step.IsEncodable second := by
  cases step with
  | proximity distance => exact implies distance encodable
  | _ => exact encodable

theorem ScenarioStep.decodes_encode {step : ScenarioStep} (encodable : step.IsEncodable (·.isFinite))
    (style : KindStyle) : Decodes (decode style) step step.encode :=
  step.encodeWith_ofSingle ▸ decodes_encodeWith (encodable.imp fun _ => Decoder.single_ofSingle) style

namespace Scenario

variable {single : Float32 → Json} {scenario : Scenario}

theorem IsEncodable.imp {first second : Float32 → Prop} (implies : ∀ value, first value → second value)
    (encodable : scenario.IsEncodable first) : scenario.IsEncodable second where
  maxRange := implies _ encodable.maxRange
  steps step inside := (encodable.steps step inside).imp implies

theorem decodes_encode (encodable : scenario.IsEncodable (·.isFinite)) (style : KindStyle) :
    Decodes (decode style) scenario scenario.encode :=
  scenario.encodeWith_ofSingle ▸ decodes_encodeWith (encodable.imp fun _ => Decoder.single_ofSingle) style

theorem nesting_encodeWith_of_steps_eq_nil (maxRange : (single scenario.proximityMaxRange).nesting = 0)
    (empty : scenario.steps = []) : (scenario.encodeWith single).nesting = 2 := by
  simp [encodeWith, Preferences.encode, Json.ofUInt64, Json.nesting, Json.nestingOfMembers, Json.nestingOfItems,
    maxRange, empty]

theorem nesting_of_single {value : Float32} {json : Json} (read : Decoder.single json = .ok value) :
    json.nesting = 0 := by
  cases json with
  | number => rfl
  | _ => cases read

theorem ofText_of_spells (encodable : scenario.IsEncodable fun value => Decoder.single (single value) = .ok value)
    {json : Json} (form : json = scenario.encodeWith single ∨ json = (scenario.encodeWith single).canonical)
    (shallow : scenario.steps ≠ [] → (scenario.encodeWith single).nesting ≤ Json.nestingLimit) {text : String}
    (spelled : json.Spells text.toList) :
    ofText text = if scenario.steps.isEmpty then .error .noSteps else .ok scenario := by
  have bounded : (scenario.encodeWith single).nesting ≤ Json.nestingLimit := by
    by_cases empty : scenario.steps = []
    · rw [nesting_encodeWith_of_steps_eq_nil (nesting_of_single encodable.maxRange) empty]
      decide
    · exact shallow empty
  obtain ⟨decoded, holds⟩ : decode .namedOrIndexed json = .ok scenario ∧ json.nesting ≤ Json.nestingLimit := by
    obtain ⟨written, mapped⟩ := decodes_encodeWith encodable .namedOrIndexed
    rcases form with rfl | rfl
    · exact ⟨written, bounded⟩
    · exact ⟨mapped, Nat.le_trans (Json.nesting_canonical_le _) bounded⟩
  have read : Json.readText Json.nestingLimit text.toList = .ok json :=
    Json.readText_eq_ok_iff.mpr ⟨[], Json.readFront_of_spells spelled holds, rfl⟩
  rw [ofText_of_readText read, ofScript?, decoded]

theorem ofText_write (encodable : scenario.IsEncodable fun value => Decoder.single (single value) = .ok value)
    (returns : ∀ value ∈ (scenario.encodeWith single).reals, Json.RealReturns value)
    (shallow : scenario.steps ≠ [] → (scenario.encodeWith single).nesting ≤ Json.nestingLimit) :
    ofText (scenario.encodeWith single).write = if scenario.steps.isEmpty then .error .noSteps else .ok scenario :=
  ofText_of_spells encodable (.inl rfl) shallow (Json.spells_write returns)

end Scenario

/-- Values return from their encodings, read as they are written or as maps. A scenario with steps is the script of
every compact text of its encoding, when that has not too many containers inside each other, and one without steps is
an empty script. In the text a single float is any number that narrows to it, and other floats are read from their
digits; the digits of integers and the escapes of strings always return. -/
theorem decoding_undoes_encoding :
    (∀ state : CallState, Decodes Labelled.decode state (Labelled.encode state)) ∧
      (∀ route : AudioRoute, Decodes Labelled.decode route (Labelled.encode route)) ∧
      (∀ orientation : Orientation, Decodes Labelled.decode orientation (Labelled.encode orientation)) ∧
      (∀ trigger : Trigger, Decodes Labelled.decode trigger (Labelled.encode trigger)) ∧
      (∀ lock : LockState, Decodes Labelled.decode lock (Labelled.encode lock)) ∧
      (∀ reason : SubscriptionReason, Decodes Labelled.decode reason (Labelled.encode reason)) ∧
      (∀ action : LockAction, Decodes LockAction.decode action action.encode) ∧
      (∀ call : ActiveCall, Decodes ActiveCall.decode call call.encode) ∧
      (∀ calls : CallList, Decodes CallList.decode calls calls.encode) ∧
      (∀ status : CallStatus, Decodes CallStatus.decode status status.encode) ∧
      (∀ snapshot : Snapshot, Decodes Snapshot.decode snapshot snapshot.encode) ∧
      (∀ preferences : Preferences, Decodes Preferences.decode preferences preferences.encode) ∧
      (∀ reading : ProximityReading, Decodes ProximityReading.decode reading reading.encode) ∧
      (∀ config : ClassifierConfig, config.threshold.isFinite → Decodes ClassifierConfig.decode config config.encode) ∧
      (∀ config : OrientationConfig, config.uprightAngle.isFinite →
        Decodes OrientationConfig.decode config config.encode) ∧
      (∀ (step : ScenarioStep) (style : KindStyle), step.IsEncodable (·.isFinite) →
        Decodes (ScenarioStep.decode style) step step.encode) ∧
      (∀ (scenario : Scenario) (style : KindStyle), scenario.IsEncodable (·.isFinite) →
        Decodes (Scenario.decode style) scenario scenario.encode) ∧
      (∀ (scenario : Scenario) (single : Float32 → Json) (json : Json) (text : String),
        scenario.IsEncodable (fun value => Decoder.single (single value) = .ok value) →
        json = scenario.encodeWith single ∨ json = (scenario.encodeWith single).canonical →
        (scenario.steps ≠ [] → (scenario.encodeWith single).nesting ≤ 127) → json.Spells text.toList →
          Scenario.ofText text = if scenario.steps.isEmpty then .error .noSteps else .ok scenario) ∧
      ∀ scenario : Scenario, scenario.IsEncodable (·.isFinite) →
        (∀ value ∈ scenario.encode.reals, Json.RealReturns value) →
        (scenario.steps ≠ [] → scenario.encode.nesting ≤ 127) →
          Scenario.ofText scenario.encode.write =
            if scenario.steps.isEmpty then .error .noSteps else .ok scenario := by
  refine ⟨Labelled.decodes_encode, Labelled.decodes_encode, Labelled.decodes_encode, Labelled.decodes_encode,
    Labelled.decodes_encode, Labelled.decodes_encode, LockAction.decodes_encode, ActiveCall.decodes_encode,
    CallList.decodes_encode, CallStatus.decodes_encode, Snapshot.decodes_encode, Preferences.decodes_encode,
    ProximityReading.decodes_encode, fun _ => ClassifierConfig.decodes_encode,
    fun _ => OrientationConfig.decodes_encode, fun _ style encodable => ScenarioStep.decodes_encode encodable style,
    fun _ style encodable => Scenario.decodes_encode encodable style, ?spelled, ?written⟩
  case spelled =>
    intro scenario single json text encodable form shallow spelled
    exact Scenario.ofText_of_spells encodable form shallow spelled
  case written =>
    intro scenario encodable returns shallow
    rw [← scenario.encodeWith_ofSingle] at returns shallow ⊢
    exact Scenario.ofText_write (encodable.imp fun _ => Decoder.single_ofSingle) returns shallow

/-- Floats of both widths, and a preference with containers and escapes in it. -/
def Scenario.sample : Scenario where
  steps := [.proximity 0.1, .accelerometer 0 9.8 0.5,
    .preference "modes" (.object [("loud", .array [.number (.real 1.5), .null]), ("soft", .string "a \"b\"\n")]),
    .display 3 true, .wait 100]

/-- The digits of a tenth are those of the double nearest to it, which its single float does not widen to. -/
def Json.ofDigits (value : Float32) : Json :=
  .number (.real (if value = 0.1 then 0.1 else widen value))

theorem decoding_undoes_encoding_of_sample :
    Decodes ClassifierConfig.decode {} ({} : ClassifierConfig).encode ∧
      Decodes OrientationConfig.decode {} ({} : OrientationConfig).encode ∧
      Decodes (ScenarioStep.decode .named) (.proximity 0.1) (ScenarioStep.proximity 0.1).encode ∧
      Decodes (Scenario.decode .named) .sample Scenario.sample.encode ∧
      Scenario.ofText (Scenario.sample.encodeWith .ofDigits).canonical.write = .ok .sample ∧
      Scenario.ofText Scenario.sample.encode.write = .ok .sample ∧
      Scenario.ofText ({} : Scenario).encode.write = .error .noSteps := by
  obtain ⟨-, -, -, -, -, -, -, -, -, -, -, -, -, classifier, orientation, step, scenario, spelled, written⟩ :=
    decoding_undoes_encoding
  have spells : (Scenario.sample.encodeWith .ofDigits).canonical.Spells
      (Scenario.sample.encodeWith .ofDigits).canonical.write.toList :=
    Json.spells_write (by decide +kernel)
  refine ⟨classifier {} (by decide +kernel), orientation {} (by decide +kernel), step _ .named (by decide +kernel),
    scenario .sample .named (by decide +kernel), ?_, ?_, ?_⟩
  · exact spelled .sample .ofDigits _ _ (by decide +kernel) (.inr rfl) (fun _ => by decide +kernel) spells
  · exact written .sample (by decide +kernel) (by decide +kernel) fun _ => by decide +kernel
  · exact written {} (by decide +kernel) (by decide +kernel) fun filled => absurd rfl filled

end CallProximity
