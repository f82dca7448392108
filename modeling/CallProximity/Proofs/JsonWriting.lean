import CallProximity.Json.Printer
import CallProximity.Proofs.JsonReading

/-! Reading undoes writing. A value is read from every compact text that spells it, before anything that no number goes
on with. What is written spells its value as long as the floats in it do. -/

namespace CallProximity
namespace Json

mutual

/-- The compact texts of a value. A scalar may be spelled in any way that it is read from. -/
inductive Spells : Json → List Char → Prop
  | scalar {json text} (read : readScalar? text = some (.ok (json, []))) : Spells json text
  | array {items text} (inside : SpellsItems items text) : Spells (.array items) ('[' :: (text ++ [']']))
  | object {members text} (inside : SpellsMembers members text) :
      Spells (.object members) ('\x7b' :: (text ++ ['\x7d']))

inductive SpellsItems : List Json → List Char → Prop
  | none : SpellsItems [] []
  | last {item text} (spelled : Spells item text) : SpellsItems [item] text
  | more {item text next items others} (spelled : Spells item text) (rest : SpellsItems (next :: items) others) :
      SpellsItems (item :: next :: items) (text ++ ',' :: others)

/-- Each key is spelled with its closing quote. -/
inductive SpellsMembers : List (String × Json) → List Char → Prop
  | none : SpellsMembers [] []
  | last {key quoted value text} (name : readString [] quoted = .ok (key, [])) (spelled : Spells value text) :
      SpellsMembers [(key, value)] ('"' :: (quoted ++ ':' :: text))
  | more {key quoted value text next members others} (name : readString [] quoted = .ok (key, []))
      (spelled : Spells value text) (rest : SpellsMembers (next :: members) others) :
      SpellsMembers ((key, value) :: next :: members) ('"' :: (quoted ++ ':' :: (text ++ ',' :: others)))

end

variable {text rest : List Char} {json : Json} {items : List Json} {members : List (String × Json)}

def startsValue (char : Char) : Bool :=
  !isBlank char && char != ']'

theorem readScalar?_front {result : Except JsonError (Json × List Char)} (read : readScalar? text = some result) :
    ∃ char left, text = char :: left ∧ startsValue char := by
  unfold readScalar? at read
  split at read
  · exact ⟨_, _, rfl, rfl⟩
  · exact ⟨_, _, rfl, rfl⟩
  · exact ⟨_, _, rfl, rfl⟩
  · exact ⟨_, _, rfl, rfl⟩
  · exact ⟨_, _, rfl, rfl⟩
  · next char left _ _ _ _ _ =>
    split at read
    · next digit =>
      refine ⟨char, left, rfl, ?_⟩
      rw [← Bool.not_eq_false]
      intro other
      simp only [startsValue, isBlank, Bool.and_eq_false_iff, Bool.not_eq_false', Bool.or_eq_true, decide_eq_true_eq,
        bne_eq_false_iff_eq] at other
      obtain (((rfl | rfl) | rfl) | rfl) | rfl := other <;> cases digit
    · cases read
  · cases read

theorem Spells.front (spelled : Spells json text) : ∃ char left, text = char :: left ∧ startsValue char := by
  cases spelled with
  | scalar read => exact readScalar?_front read
  | array => exact ⟨_, _, rfl, rfl⟩
  | object => exact ⟨_, _, rfl, rfl⟩

theorem SpellsItems.front (spelled : SpellsItems items text) (filled : items ≠ []) :
    ∃ char left, text = char :: left ∧ startsValue char := by
  cases spelled with
  | none => exact absurd rfl filled
  | last spelled => exact spelled.front
  | more spelled rest =>
    obtain ⟨char, left, rfl, starts⟩ := spelled.front
    exact ⟨char, _, List.cons_append, starts⟩

theorem SpellsMembers.front (spelled : SpellsMembers members text) (filled : members ≠ []) :
    ∃ left, text = '"' :: left := by
  cases spelled with
  | none => exact absurd rfl filled
  | last => exact ⟨_, rfl⟩
  | more => exact ⟨_, rfl⟩

theorem skipBlanks_of_starts {char : Char} (starts : startsValue char) (left : List Char) :
    skipBlanks (char :: left) = char :: left := by
  rw [startsValue, Bool.and_eq_true, Bool.not_eq_true'] at starts
  exact List.dropWhile_cons_of_neg (by simp [starts.1])

theorem endsBefore_cons {char : Char} (other : continuesNumber char = false) (left rest : List Char) :
    EndsBefore left (char :: rest) :=
  .inr fun _ same => Option.some.inj same ▸ other

mutual

/-- A value takes no more fuel than two units for each of its characters. -/
theorem Spells.read {json : Json} {text : List Char} : Spells json text → ∀ {fuel depth : Nat} {rest : List Char},
    2 * text.length ≤ fuel → json.nesting ≤ depth → EndsBefore [] rest →
      readValue fuel depth (text ++ rest) = .ok (json, rest)
  | .scalar read, fuel, depth, rest, fueled, _, ends => by
    obtain ⟨char, left, rfl, starts⟩ := readScalar?_front read
    obtain _ | fuel := fuel
    · cases fueled
    rw [readValue_eq_ok_iff, List.cons_append, skipBlanks_of_starts starts]
    exact .scalar (readScalar?_append read ends)
  | @Spells.array items text inside, fuel, depth, rest, fueled, holds, _ => by
    obtain _ | fuel := fuel
    · cases fueled
    rw [nesting] at holds
    simp only [List.length_cons, List.length_append, List.length_nil] at fueled
    rw [readValue_eq_ok_iff, List.cons_append, List.append_assoc]
    by_cases filled : items = []
    · subst filled
      cases inside
      exact .emptyArray (by omega) rfl
    · have read : readItems fuel (depth - 1) (text ++ ']' :: rest) = .ok (items, rest) :=
        inside.read filled (by omega) (by omega)
      obtain ⟨char, left, rfl, starts⟩ := inside.front filled
      refine .array (by omega) (skipBlanks_of_starts starts _) ?_ read
      rintro rfl
      cases starts
  | @Spells.object members text inside, fuel, depth, rest, fueled, holds, _ => by
    obtain _ | fuel := fuel
    · cases fueled
    rw [nesting] at holds
    simp only [List.length_cons, List.length_append, List.length_nil] at fueled
    rw [readValue_eq_ok_iff, List.cons_append, List.append_assoc]
    by_cases filled : members = []
    · subst filled
      cases inside
      exact .emptyObject (by omega) rfl
    · have read : readMembers fuel (depth - 1) (text ++ '\x7d' :: rest) = .ok (members, rest) :=
        inside.read filled (by omega) (by omega)
      obtain ⟨left, rfl⟩ := inside.front filled
      exact .object (by omega) rfl (by decide) read

theorem SpellsItems.read {items : List Json} {text : List Char} : SpellsItems items text → items ≠ [] →
    ∀ {fuel depth : Nat} {rest : List Char}, 2 * text.length + 1 ≤ fuel → nestingOfItems items ≤ depth →
      readItems fuel depth (text ++ ']' :: rest) = .ok (items, rest)
  | .none, filled, _, _, _, _, _ => absurd rfl filled
  | .last spelled, _, fuel + 1, depth, rest, fueled, holds => by
    rw [nestingOfItems, Nat.max_le] at holds
    exact readItems_eq_ok_iff.mpr (.last (spelled.read (by omega) holds.1 (endsBefore_cons rfl _ _)) rfl)
  | @SpellsItems.more item text next items others spelled inside, _, fuel + 1, depth, rest, fueled, holds => by
    rw [nestingOfItems, Nat.max_le] at holds
    simp only [List.length_append, List.length_cons] at fueled
    have first : readValue fuel depth (text ++ ',' :: (others ++ ']' :: rest)) =
        .ok (item, ',' :: (others ++ ']' :: rest)) :=
      spelled.read (by omega) holds.1 (endsBefore_cons rfl _ _)
    have left : readItems fuel depth (others ++ ']' :: rest) = .ok (next :: items, rest) :=
      inside.read (List.cons_ne_nil _ _) (by omega) holds.2
    obtain ⟨char, after, rfl, starts⟩ := inside.front (List.cons_ne_nil _ _)
    rw [List.append_assoc, readItems_eq_ok_iff]
    refine .more first rfl (skipBlanks_of_starts starts _) ?_ left
    rintro rfl
    cases starts

theorem SpellsMembers.read {members : List (String × Json)} {text : List Char} : SpellsMembers members text →
    members ≠ [] → ∀ {fuel depth : Nat} {rest : List Char}, 2 * text.length + 1 ≤ fuel →
      nestingOfMembers members ≤ depth → readMembers fuel depth (text ++ '\x7d' :: rest) = .ok (members, rest)
  | .none, filled, _, _, _, _, _ => absurd rfl filled
  | .last name spelled, _, fuel + 1, depth, rest, fueled, holds => by
    rw [nestingOfMembers, Nat.max_le] at holds
    simp only [List.length_append, List.length_cons] at fueled
    rw [readMembers_eq_ok_iff, List.cons_append, List.append_assoc]
    exact .last (readString_append _ _ name _) rfl (spelled.read (by omega) holds.1 (endsBefore_cons rfl _ _)) rfl
  | @SpellsMembers.more key quoted value text next members others name spelled inside, _, fuel + 1, depth, rest, fueled,
      holds => by
    rw [nestingOfMembers, Nat.max_le] at holds
    simp only [List.length_append, List.length_cons] at fueled
    have first : readValue fuel depth (text ++ ',' :: (others ++ '\x7d' :: rest)) =
        .ok (value, ',' :: (others ++ '\x7d' :: rest)) :=
      spelled.read (by omega) holds.1 (endsBefore_cons rfl _ _)
    have left : readMembers fuel depth (others ++ '\x7d' :: rest) = .ok (next :: members, rest) :=
      inside.read (List.cons_ne_nil _ _) (by omega) holds.2
    obtain ⟨after, rfl⟩ := inside.front (List.cons_ne_nil _ _)
    refine readMembers_eq_ok_iff.mpr ?_
    simp only [List.cons_append, List.append_assoc] at first left ⊢
    exact .more (readString_append _ _ name _) rfl first rfl rfl left

end

theorem readFront_of_spells {depth : Nat} (spelled : json.Spells text) (holds : json.nesting ≤ depth) :
    readFront depth text = .ok (json, []) := by
  have read : readValue (2 * text.length + 2) depth (text ++ []) = .ok (json, []) :=
    spelled.read (by omega) holds (.inr (by simp))
  rwa [List.append_nil] at read

theorem hexUnit?_control : ∀ code < 32, hexUnit? '0' '0' (hexDigit (code / 16)) (hexDigit (code % 16)) = some code := by
  decide

theorem readString_escapeChar (char : Char) (read text : List Char) :
    readString read (escapeChar char ++ text) = readString (char :: read) text := by
  unfold escapeChar
  split
  iterate 7 exact readString_escape (by decide) rfl read text
  next inside bare _ _ _ _ _ =>
    split
    · next control =>
      -- No control character is a surrogate, so the escape stands for it alone.
      have below : char.toNat < 32 := control
      have lone : isTrailingSurrogate char.toNat = false ∧ isLeadingSurrogate char.toNat = false := by
        simp [isTrailingSurrogate, isLeadingSurrogate]
        omega
      simp only [List.cons_append, List.nil_append, readString, hexUnit?_control char.toNat below, lone.1, lone.2,
        Bool.false_eq_true, ↓reduceIte, Char.ofNat_toNat]
    · next shows => exact readString_plain inside bare shows read text

theorem readString_escaped (chars read rest : List Char) :
    readString read (chars.flatMap escapeChar ++ '"' :: rest) = .ok (.ofList (read.reverse ++ chars), rest) := by
  induction chars generalizing read with
  | nil => rw [List.flatMap_nil, List.nil_append, readString, List.append_nil]
  | cons char chars ih =>
    rw [List.flatMap_cons, List.append_assoc, readString_escapeChar, ih, List.reverse_cons, List.append_assoc]
    rfl

theorem readString_quote (text : String) :
    readString [] (text.toList.flatMap escapeChar ++ ['"']) = .ok (text, []) := by
  rw [readString_escaped, List.reverse_nil, List.nil_append, String.ofList_toList]

theorem toList_quote (text : String) : (quote text).toList = '"' :: (text.toList.flatMap escapeChar ++ ['"']) := by
  rw [quote, String.toList_ofList, List.cons_append]

theorem natOfDigits_toDigits (number : Nat) : natOfDigits (digitsOf (Nat.toDigits 10 number)) = number := by
  have same (digits : List Char) : natOfDigits (digitsOf digits) = Nat.ofDigitChars 10 digits 0 := by
    simp only [natOfDigits, digitsOf, List.foldl_map, Nat.ofDigitChars_eq_foldl, Nat.mul_comm]
  rw [same, Nat.ofDigitChars_ten_toDigits]

theorem front_toDigits {number : Nat} (positive : 0 < number) :
    ∃ front digits, Nat.toDigits 10 number = front :: digits ∧ front.toNat - '0'.toNat ≠ 0 := by
  induction number using Nat.strongRecOn with
  | ind number ih =>
    by_cases short : number < 10
    · refine ⟨number.digitChar, [], Nat.toDigits_of_lt_base short, ?_⟩
      have same : number.digitChar.toNat - '0'.toNat = number := Nat.toNat_digitChar_sub_48_of_lt_ten short
      omega
    · obtain ⟨front, digits, written, nonzero⟩ := ih (number / 10) (by omega) (by omega)
      refine ⟨front, digits ++ [(number % 10).digitChar], ?_, nonzero⟩
      rw [Nat.toDigits_of_base_le (by omega) (by omega), written, List.cons_append]

theorem readWhole_toDigits (number : Nat) :
    readWhole (Nat.toDigits 10 number) = .ok (digitsOf (Nat.toDigits 10 number), []) := by
  have digits : ∀ char ∈ Nat.toDigits 10 number, char.isDigit := fun char inside =>
    Nat.isDigit_of_mem_toDigits (by omega) (by omega) inside
  have read : readDigits (Nat.toDigits 10 number) = .ok (digitsOf (Nat.toDigits 10 number), []) := by
    rw [readDigits, List.takeWhile_eq_self_iff.mpr digits, List.dropWhile_eq_nil_iff.mpr digits]
    split
    · next none => exact absurd none Nat.toDigits_ne_nil
    · rfl
  rw [readWhole, read, ok_bind]
  rcases Nat.eq_zero_or_pos number with rfl | positive
  · rfl
  · obtain ⟨front, digits, written, nonzero⟩ := front_toDigits positive
    rw [written]
    dsimp only
    split
    · next zero => exact absurd (List.cons.inj zero).1 nonzero
    · rfl

theorem readNumber_toDigits {negative : Bool} {number : Nat} {value : JsonNumber}
    (same : numberOf negative (digitsOf (Nat.toDigits 10 number)) none none = some value) :
    readNumber negative (Nat.toDigits 10 number) = .ok (value, []) := by
  rw [readNumber, readWhole_toDigits, ok_bind]
  simp only [readFraction, readExponent, ok_bind, same]
  rfl

theorem numberOf_integer {negative : Bool} {magnitude : Nat} {integer : WordInteger} (signed : negative → magnitude ≠ 0)
    (same : integer.value = if negative then -(magnitude : Int) else magnitude) :
    numberOf negative (digitsOf (Nat.toDigits 10 magnitude)) none none = some (.integer integer) := by
  have held : WordInteger.ofInt? (if negative then -(magnitude : Int) else magnitude) = some integer := by
    rw [← same, WordInteger.ofInt?, dif_pos integer.fits]
  have plain : (negative && decide (magnitude = 0)) = false := by
    simpa using signed
  simp only [numberOf, natOfDigits_toDigits, plain, held, Option.isSome_none, Bool.or_self, Bool.false_eq_true,
    ↓reduceIte]

theorem readScalar?_integer (integer : WordInteger) :
    readScalar? (toString integer.value).toList = some (.ok (.number (.integer integer), [])) := by
  cases sign : integer.value with
  | ofNat number =>
    have written : (toString (Int.ofNat number)).toList = Nat.toDigits 10 number := Nat.toList_repr
    have read : readNumber false (Nat.toDigits 10 number) = .ok (.integer integer, []) :=
      readNumber_toDigits (numberOf_integer nofun sign)
    obtain ⟨front, digits, starts⟩ := List.exists_cons_of_ne_nil (@Nat.toDigits_ne_nil number 10)
    have digit : front.isDigit := Nat.isDigit_of_mem_toDigits (by omega) (by omega) (starts ▸ List.mem_cons_self)
    rw [written, starts, readScalar?, if_pos digit, ← starts, read]
    · rfl
    all_goals
      rintro rfl
      cases digit
  | negSucc number =>
    have written : (toString (Int.negSucc number)).toList = '-' :: Nat.toDigits 10 (number + 1) := by
      rw [show toString (Int.negSucc number) = "-" ++ (number + 1).repr from rfl, String.toList_append, Nat.toList_repr]
      rfl
    have read : readNumber true (Nat.toDigits 10 (number + 1)) = .ok (.integer integer, []) :=
      readNumber_toDigits (numberOf_integer (fun _ => Nat.succ_ne_zero number) sign)
    rw [written, readScalar?, read]
    rfl

mutual

def reals : Json → List Float
  | .number (.real value) => [value]
  | .array items => realsOfItems items
  | .object members => realsOfMembers members
  | _ => []

def realsOfItems : List Json → List Float
  | [] => []
  | item :: rest => item.reals ++ realsOfItems rest

def realsOfMembers : List (String × Json) → List Float
  | [] => []
  | (_, value) :: rest => value.reals ++ realsOfMembers rest

end

deriving instance DecidableEq for JsonNumber

def number? (text : List Char) : Option JsonNumber :=
  match readScalar? text with
  | some (.ok (.number value, [])) => some value
  | _ => none

theorem number?_eq_some {value : JsonNumber} (same : number? text = some value) :
    readScalar? text = some (.ok (.number value, [])) := by
  rw [number?] at same
  split at same
  · next read => rw [read, Option.some.inj same]
  · cases same

/-- A float that is read from its digits. -/
def RealReturns (value : Float) : Prop :=
  number? (writeNumber (.real value)).toList = some (.real value)

instance (value : Float) : Decidable (RealReturns value) :=
  inferInstanceAs (Decidable (_ = _))

theorem toList_intercalate_cons (first next : String) (others : List String) :
    (",".intercalate (first :: next :: others)).toList =
      first.toList ++ ',' :: (",".intercalate (next :: others)).toList := by
  rw [String.intercalate_cons_cons, String.toList_append, String.toList_append, List.append_assoc]
  rfl

theorem toList_member (key : String) (value : Json) : (quote key ++ ":" ++ value.write).toList =
    '"' :: (key.toList.flatMap escapeChar ++ ['"'] ++ ':' :: value.write.toList) := by
  rw [String.toList_append, String.toList_append, toList_quote, List.append_assoc]
  rfl

mutual

theorem spells_write : ∀ {json : Json}, (∀ value ∈ json.reals, RealReturns value) → json.Spells json.write.toList
  | .null, _ => .scalar rfl
  | .bool true, _ => .scalar rfl
  | .bool false, _ => .scalar rfl
  | .number (.integer integer), _ => .scalar (readScalar?_integer integer)
  | .number (.real value), returns => .scalar (number?_eq_some (returns value (List.mem_singleton_self value)))
  | .string value, _ => by
    refine .scalar ?_
    rw [write, toList_quote, readScalar?, readString_quote, map_ok]
  | .array items, returns => by
    rw [write, String.toList_append, String.toList_append]
    exact .array (spellsItems_write returns)
  | .object members, returns => by
    rw [write, String.toList_append, String.toList_append]
    exact .object (spellsMembers_write returns)

theorem spellsItems_write : ∀ {items : List Json}, (∀ value ∈ realsOfItems items, RealReturns value) →
    SpellsItems items (",".intercalate (writeItems items)).toList
  | [], _ => .none
  | [item], returns => by
    rw [writeItems, writeItems, String.intercalate_singleton]
    exact .last (spells_write fun value inside => returns value (List.mem_append_left _ inside))
  | item :: next :: items, returns => by
    rw [writeItems, writeItems, toList_intercalate_cons]
    exact .more (spells_write fun value inside => returns value (List.mem_append_left _ inside))
      (spellsItems_write fun value inside => returns value (List.mem_append_right _ inside))

theorem spellsMembers_write : ∀ {members : List (String × Json)},
    (∀ value ∈ realsOfMembers members, RealReturns value) →
      SpellsMembers members (",".intercalate (writeMembers members)).toList
  | [], _ => .none
  | [(key, held)], returns => by
    rw [writeMembers, writeMembers, String.intercalate_singleton, toList_member]
    exact .last (readString_quote key) (spells_write fun value inside => returns value (List.mem_append_left _ inside))
  | (key, held) :: (other, next) :: members, returns => by
    rw [writeMembers, writeMembers, toList_intercalate_cons, toList_member, List.cons_append, List.append_assoc]
    exact .more (readString_quote key) (spells_write fun value inside => returns value (List.mem_append_left _ inside))
      (spellsMembers_write fun value inside => returns value (List.mem_append_right _ inside))

end

end Json
end CallProximity
