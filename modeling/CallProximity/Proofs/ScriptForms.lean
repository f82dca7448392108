import CallProximity.Proofs.JsonReading
import CallProximity.Scenario.Script

/-! A script is a list of steps, bare or as the one member of an object. An array with no name in front is no scenario
read by place, so a bare list goes on to be read as steps, and both forms come to the same scenario or the same
error. -/

namespace CallProximity

theorem exists_mem_of_mapM_eq_ok {ε α β : Type} {read : α → Except ε β} {items : List α} {values : List β}
    (done : items.mapM read = .ok values) {item : α} (inside : item ∈ items) :
    ∃ value ∈ values, read item = .ok value := by
  induction items generalizing values with
  | nil => cases inside
  | cons first items ih =>
    rw [List.mapM_cons] at done
    obtain ⟨value, started, others⟩ := bind_eq_ok.mp done
    obtain ⟨rest, left, same⟩ := bind_eq_ok.mp others
    cases same
    rcases List.mem_cons.mp inside with rfl | later
    · exact ⟨value, List.mem_cons_self, started⟩
    · obtain ⟨found, held, reads⟩ := ih left later
      exact ⟨found, List.mem_cons_of_mem value held, reads⟩

theorem RecordShape.decode_member {α : Type} {shape : RecordShape α} {key : String} {field : RecordField α}
    (known : (shape.fields.find? fun field => field.name == key) = some field)
    (optional : ∀ field ∈ shape.fields, field.isRequired = false) (json : Json) :
    shape.decode (.object [(key, json)]) = field.read json shape.start := by
  have complete (record : α) (seen : List String) : shape.readMembers record seen [] = .ok record := by
    rw [readMembers, List.find?_eq_none.mpr]
    intro field inside
    simp [optional field inside]
  rw [decode, readMembers, known]
  simp only [List.contains_nil, Bool.false_eq_true, ↓reduceIte, complete]
  exact bind_pure _

namespace Scenario

variable {items : List Json}

theorem decode_unnamed {style : KindStyle} {item : Json} (unnamed : ∀ name, item ≠ .string name) :
    decode style (.array (item :: items)) = .error .invalidType := by
  cases item with
  | string name => exact absurd rfl (unnamed name)
  | _ => rfl

/-- A name is no step, and what is no name does not start a scenario. -/
theorem decode_excludes {item : Json} {scenario : Scenario} {steps : List ScenarioStep} {style : KindStyle}
    (placed : decode style (.array (item :: items)) = .ok scenario)
    (listed : Decoder.list (ScenarioStep.decode style) (.array (item :: items)) = .ok steps) : False := by
  by_cases named : ∃ name, item = .string name
  · obtain ⟨name, rfl⟩ := named
    obtain ⟨step, -, read⟩ := exists_mem_of_mapM_eq_ok listed List.mem_cons_self
    cases read
  · rw [decode_unnamed (not_exists.mp named)] at placed
    cases placed

theorem ofScript?_array (unnamed : ∀ name, items.head? ≠ some (.string name)) :
    ofScript? (.array items) =
      (items.mapM (ScenarioStep.decode .namedOrIndexed)).toOption.map ({ steps := · }) := by
  cases items with
  | nil => rfl
  | cons item items =>
    rw [ofScript?, decode_unnamed fun name same => unnamed name (congrArg some same), Decoder.list]
    cases (item :: items).mapM (ScenarioStep.decode .namedOrIndexed) <;> rfl

theorem decode_steps {style : KindStyle} :
    decode style (.object [("steps", .array items)]) =
      (items.mapM (ScenarioStep.decode style)).map ({ steps := · }) := by
  have known : ((shape style).fields.find? fun field => field.name == "steps") =
      some (.optional "steps" (Decoder.list (ScenarioStep.decode style)) fun steps scenario =>
        { scenario with steps }) := by
    simp [shape, RecordField.optional]
  rw [decode, RecordShape.decode_member known]
  · rfl
  · simp [shape, RecordField.optional]

theorem ofScript?_steps :
    ofScript? (.object [("steps", .array items)]) =
      (items.mapM (ScenarioStep.decode .namedOrIndexed)).toOption.map ({ steps := · }) := by
  rw [ofScript?, decode_steps]
  cases items.mapM (ScenarioStep.decode .namedOrIndexed) <;> rfl

theorem ofText_of_readText {text : String} {json : Json}
    (read : Json.readText Json.nestingLimit text.toList = .ok json) :
    ofText text = match ofScript? json with
      | none => .error .mismatch
      | some scenario => if scenario.steps.isEmpty then .error .noSteps else .ok scenario := by
  obtain ⟨rest, front, blank⟩ := Json.readText_eq_ok_iff.mp read
  simp only [ofText, front, Except.mapError, Bind.bind, Except.bind]
  cases ofScript? json with
  | none => rfl
  | some scenario =>
    simp only [blank, Bool.not_true, Bool.false_eq_true, ↓reduceIte]
    split <;> rfl

theorem readText_steps {text : String} (read : Json.readText Json.nestingLimit text.toList = .ok (.array items))
    (shallow : (Json.array items).nesting ≤ 126) :
    Json.readText Json.nestingLimit ("\x7b\"steps\":" ++ text ++ "\x7d").toList =
      .ok (.object [("steps", .array items)]) := by
  have named : Json.readString [] ['s', 't', 'e', 'p', 's', '"'] = .ok ("steps", []) := by rfl
  have room : (Json.array items).nesting < Json.nestingLimit := Nat.lt_succ_of_le shallow
  have wrapped := Json.readText_singleton named read (Nat.succ_pos _) room
  simpa only [String.toList_append, String.reduceToList, List.cons_append, List.nil_append] using wrapped

end Scenario

/-- A list of steps is the same script bare and as the steps of an object, whatever the text of the object. No array
with something in it is both a scenario, read by place, and a list of steps. -/
theorem script_forms_agree {text : String} {items : List Json}
    (read : Json.readText Json.nestingLimit text.toList = .ok (.array items))
    (shallow : (Json.array items).nesting ≤ 126) (unnamed : ∀ name, items.head? ≠ some (.string name)) :
    Scenario.ofText ("\x7b\"steps\":" ++ text ++ "\x7d") = Scenario.ofText text ∧
      (∀ wrapped : String,
        Json.readText Json.nestingLimit wrapped.toList = .ok (.object [("steps", .array items)]) →
          Scenario.ofText wrapped = Scenario.ofText text) ∧
      (items = [] → Scenario.ofText text = .error .noSteps) ∧
      ((∃ item ∈ items, ∀ step, ScenarioStep.decode .namedOrIndexed item ≠ .ok step) →
        Scenario.ofText text = .error .mismatch) ∧
      (∀ steps, items ≠ [] → items.mapM (ScenarioStep.decode .namedOrIndexed) = .ok steps →
        Scenario.ofText text = .ok { steps }) ∧
      ∀ (first : Json) (others : List Json) (scenario : Scenario) (steps : List ScenarioStep),
        ¬(Scenario.decode .namedOrIndexed (.array (first :: others)) = .ok scenario ∧
          Decoder.list (ScenarioStep.decode .namedOrIndexed) (.array (first :: others)) = .ok steps) := by
  have bare := Scenario.ofText_of_readText read
  rw [Scenario.ofScript?_array unnamed] at bare
  have agrees : ∀ wrapped : String,
      Json.readText Json.nestingLimit wrapped.toList = .ok (.object [("steps", .array items)]) →
        Scenario.ofText wrapped = Scenario.ofText text := by
    intro wrapped inside
    rw [Scenario.ofText_of_readText inside, Scenario.ofScript?_steps, bare]
  refine ⟨agrees _ (Scenario.readText_steps read shallow), agrees, ?empty, ?stray, ?steps, ?apart⟩
  case empty =>
    rintro rfl
    exact bare
  case stray =>
    rintro ⟨item, inside, strange⟩
    cases listed : items.mapM (ScenarioStep.decode .namedOrIndexed) with
    | error error =>
      rw [listed] at bare
      exact bare
    | ok steps =>
      obtain ⟨step, -, isStep⟩ := exists_mem_of_mapM_eq_ok listed inside
      exact absurd isStep (strange step)
  case steps =>
    intro steps filled listed
    rw [listed] at bare
    obtain ⟨item, inside⟩ := List.exists_mem_of_ne_nil items filled
    obtain ⟨step, held, -⟩ := exists_mem_of_mapM_eq_ok listed inside
    have some_step : ¬steps.isEmpty := by
      rw [List.isEmpty_iff]
      exact List.ne_nil_of_mem held
    exact bare.trans (if_neg some_step)
  case apart =>
    rintro first others scenario steps ⟨placed, listed⟩
    exact Scenario.decode_excludes placed listed

theorem script_forms_agree_of_two_steps :
    Scenario.ofText ("\x7b\"steps\":" ++ "[[\"wait_ms\",1],\x7b\"type\":\"teardown\"\x7d]" ++ "\x7d") =
        Scenario.ofText "[[\"wait_ms\",1],\x7b\"type\":\"teardown\"\x7d]" ∧
      Scenario.ofText "[[\"wait_ms\",1],\x7b\"type\":\"teardown\"\x7d]" = .ok { steps := [.wait 1, .teardown] } := by
  have read : Json.readText Json.nestingLimit "[[\"wait_ms\",1],\x7b\"type\":\"teardown\"\x7d]".toList =
      .ok (.array [.array [.string "wait_ms", .number (.integer ⟨1, by decide⟩)],
        .object [("type", .string "teardown")]]) := by
    simp only [String.reduceToList]
    rfl
  have forms := script_forms_agree read (by decide) (by simp)
  exact ⟨forms.1, forms.2.2.2.2.1 _ (List.cons_ne_nil _ _) (by rfl)⟩

end CallProximity
