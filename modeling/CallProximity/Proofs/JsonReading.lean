import CallProximity.Proofs.JsonScalars

/-! What is read at the front of a text is read again when the text goes on, with any more fuel, and with any depth
that holds the value: fuel and depth are bounds, and no reading turns on them otherwise. -/

namespace CallProximity
namespace Json

mutual

/-- The most containers of a value that are inside each other. -/
def nesting : Json → Nat
  | .array items => nestingOfItems items + 1
  | .object members => nestingOfMembers members + 1
  | _ => 0

def nestingOfItems : List Json → Nat
  | [] => 0
  | item :: rest => max item.nesting (nestingOfItems rest)

def nestingOfMembers : List (String × Json) → Nat
  | [] => 0
  | (_, value) :: rest => max value.nesting (nestingOfMembers rest)

end

/-- How a value is read from its first character on, with some fuel for what is inside it. -/
inductive ValueAt (fuel depth : Nat) (rest : List Char) : Json → List Char → Prop
  | emptyArray {inner} (opens : 0 < depth) (closes : skipBlanks inner = ']' :: rest) :
      ValueAt fuel depth rest (.array []) ('[' :: inner)
  | array {inner front text items} (opens : 0 < depth) (inside : skipBlanks inner = front :: text)
      (filled : front ≠ ']') (read : readItems fuel (depth - 1) (front :: text) = .ok (items, rest)) :
      ValueAt fuel depth rest (.array items) ('[' :: inner)
  | emptyObject {inner} (opens : 0 < depth) (closes : skipBlanks inner = '\x7d' :: rest) :
      ValueAt fuel depth rest (.object []) ('\x7b' :: inner)
  | object {inner front text members} (opens : 0 < depth) (inside : skipBlanks inner = front :: text)
      (filled : front ≠ '\x7d') (read : readMembers fuel (depth - 1) (front :: text) = .ok (members, rest)) :
      ValueAt fuel depth rest (.object members) ('\x7b' :: inner)
  | scalar {json text} (read : readScalar? text = some (.ok (json, rest))) : ValueAt fuel depth rest json text

inductive ItemsAt (fuel depth : Nat) (rest : List Char) : List Json → List Char → Prop
  | last {item text left} (read : readValue fuel depth text = .ok (item, left))
      (closes : skipBlanks left = ']' :: rest) : ItemsAt fuel depth rest [item] text
  | more {item items text left afterComma front next} (read : readValue fuel depth text = .ok (item, left))
      (comma : skipBlanks left = ',' :: afterComma) (inside : skipBlanks afterComma = front :: next)
      (filled : front ≠ ']') (others : readItems fuel depth (front :: next) = .ok (items, rest)) :
      ItemsAt fuel depth rest (item :: items) text

inductive MembersAt (fuel depth : Nat) (rest : List Char) : List (String × Json) → List Char → Prop
  | last {key value quoted afterKey afterColon left} (name : readString [] quoted = .ok (key, afterKey))
      (colon : skipBlanks afterKey = ':' :: afterColon)
      (read : readValue fuel depth afterColon = .ok (value, left)) (closes : skipBlanks left = '\x7d' :: rest) :
      MembersAt fuel depth rest [(key, value)] ('"' :: quoted)
  | more {key value members quoted afterKey afterColon left afterComma front next}
      (name : readString [] quoted = .ok (key, afterKey)) (colon : skipBlanks afterKey = ':' :: afterColon)
      (read : readValue fuel depth afterColon = .ok (value, left)) (comma : skipBlanks left = ',' :: afterComma)
      (inside : skipBlanks afterComma = front :: next)
      (others : readMembers fuel depth (front :: next) = .ok (members, rest)) :
      MembersAt fuel depth rest ((key, value) :: members) ('"' :: quoted)

variable {fuel depth : Nat} {text rest left : List Char} {json : Json} {items : List Json}
  {members : List (String × Json)}

theorem skipBlanks_append {char : Char} (front : skipBlanks text = char :: left)
    (more : List Char) : skipBlanks (text ++ more) = char :: (left ++ more) := by
  rw [skipBlanks, List.dropWhile_append, ← skipBlanks, front]
  rfl

theorem readScalar?_nesting (read : readScalar? text = some (.ok (json, rest))) :
    json.nesting = 0 := by
  unfold readScalar? at read
  split at read
  · rw [readKeyword_value (Option.some.inj read)]
    rfl
  · rw [readKeyword_value (Option.some.inj read)]
    rfl
  · rw [readKeyword_value (Option.some.inj read)]
    rfl
  · obtain ⟨_, -, same⟩ := map_eq_ok.mp (Option.some.inj read)
    cases same
    rfl
  · obtain ⟨_, -, same⟩ := map_eq_ok.mp (Option.some.inj read)
    cases same
    rfl
  · split at read
    · obtain ⟨_, -, same⟩ := map_eq_ok.mp (Option.some.inj read)
      cases same
      rfl
    · cases read
  · cases read

theorem readValue_eq_ok_iff :
    readValue (fuel + 1) depth text = .ok (json, rest) ↔ ValueAt fuel depth rest json (skipBlanks text) := by
  rw [readValue]
  generalize skipBlanks text = front
  constructor
  · intro read
    split at read
    · cases read
    · split at read
      · cases read
      · next opens =>
        split at read
        · next closes =>
          cases read
          exact .emptyArray (Nat.pos_of_ne_zero opens) closes
        · cases read
        · next starts filled =>
          obtain ⟨⟨items, left⟩, done, same⟩ := map_eq_ok.mp read
          cases same
          obtain ⟨front, text, inside⟩ := List.exists_cons_of_ne_nil filled
          rw [inside] at starts done
          exact .array (Nat.pos_of_ne_zero opens) inside (fun closes => starts text (closes ▸ rfl)) done
    · split at read
      · cases read
      · next opens =>
        split at read
        · next closes =>
          cases read
          exact .emptyObject (Nat.pos_of_ne_zero opens) closes
        · cases read
        · next starts filled =>
          obtain ⟨⟨members, left⟩, done, same⟩ := map_eq_ok.mp read
          cases same
          obtain ⟨front, text, inside⟩ := List.exists_cons_of_ne_nil filled
          rw [inside] at starts done
          exact .object (Nat.pos_of_ne_zero opens) inside (fun closes => starts text (closes ▸ rfl)) done
    · cases scalar : readScalar? front with
      | none => simp [scalar] at read
      | some result =>
        rw [scalar] at read
        exact .scalar (scalar.trans (congrArg some read))
  · intro shape
    cases shape with
    | emptyArray opens closes => simp [Nat.ne_of_gt opens, closes]
    | emptyObject opens closes => simp [Nat.ne_of_gt opens, closes]
    | array opens inside filled read =>
      simp only [Nat.ne_of_gt opens, ↓reduceIte, inside]
      split
      · next closes => exact absurd (List.cons.inj closes).1 filled
      · contradiction
      · rw [read]
        rfl
    | object opens inside filled read =>
      simp only [Nat.ne_of_gt opens, ↓reduceIte, inside]
      split
      · next closes => exact absurd (List.cons.inj closes).1 filled
      · contradiction
      · rw [read]
        rfl
    | scalar read =>
      split
      · cases read
      · cases read
      · cases read
      · rw [read]
        rfl

theorem readItems_eq_ok_iff :
    readItems (fuel + 1) depth text = .ok (items, rest) ↔ ItemsAt fuel depth rest items text := by
  rw [readItems, bind_eq_ok]
  constructor
  · rintro ⟨⟨item, left⟩, read, goesOn⟩
    dsimp only at goesOn
    split at goesOn
    · next closes =>
      cases goesOn
      exact .last read closes
    · next afterComma comma =>
      split at goesOn
      · cases goesOn
      · cases goesOn
      · next filled starts =>
        obtain ⟨⟨others, after⟩, done, same⟩ := bind_eq_ok.mp goesOn
        cases same
        obtain ⟨front, next, inside⟩ := List.exists_cons_of_ne_nil filled
        rw [inside] at starts done
        exact .more read comma inside (fun closes => starts next (closes ▸ rfl)) done
    · cases goesOn
    · cases goesOn
  · intro shape
    cases shape with
    | last read closes =>
      refine ⟨_, read, ?_⟩
      simp only [closes]
      rfl
    | more read comma inside filled others =>
      refine ⟨_, read, ?_⟩
      simp only [comma, inside]
      split
      · contradiction
      · next closes => exact absurd (List.cons.inj closes).1 filled
      · rw [others]
        rfl

theorem readMembers_eq_ok_iff :
    readMembers (fuel + 1) depth text = .ok (members, rest) ↔ MembersAt fuel depth rest members text := by
  unfold readMembers
  dsimp only
  constructor
  · intro read
    split at read
    · obtain ⟨⟨key, afterKey⟩, name, afterName⟩ := bind_eq_ok.mp read
      dsimp only at afterName
      split at afterName
      · cases afterName
      · next afterColon colon =>
        obtain ⟨⟨value, left⟩, valued, goesOn⟩ := bind_eq_ok.mp afterName
        dsimp only at goesOn
        split at goesOn
        · next closes =>
          cases goesOn
          exact .last name colon valued closes
        · next afterComma comma =>
          split at goesOn
          · cases goesOn
          · next filled =>
            obtain ⟨⟨others, after⟩, done, same⟩ := bind_eq_ok.mp goesOn
            cases same
            obtain ⟨front, next, inside⟩ := List.exists_cons_of_ne_nil filled
            rw [inside] at done
            exact .more name colon valued comma inside done
        · cases goesOn
        · cases goesOn
      · cases afterName
    · cases read
    · cases read
  · intro shape
    cases shape with
    | last name colon read closes =>
      refine bind_eq_ok.mpr ⟨_, name, ?_⟩
      simp only [colon]
      refine bind_eq_ok.mpr ⟨_, read, ?_⟩
      simp only [closes]
      rfl
    | more name colon read comma inside others =>
      refine bind_eq_ok.mpr ⟨_, name, ?_⟩
      simp only [colon]
      refine bind_eq_ok.mpr ⟨_, read, ?_⟩
      simp only [comma, inside]
      rw [others]
      rfl

/-- What is read with this fuel is read from any longer text, with any more fuel and any depth that holds it. Items and
members end with a bracket, so only a scalar has to leave something. -/
structure ReadsOn (fuel : Nat) : Prop where
  value : ∀ {depth text json rest}, readValue fuel depth text = .ok (json, rest) → rest ≠ [] ∨ 0 < json.nesting →
    ∀ {enough room}, fuel ≤ enough → json.nesting ≤ room → ∀ more,
      readValue enough room (text ++ more) = .ok (json, rest ++ more)
  items : ∀ {depth text items rest}, readItems fuel depth text = .ok (items, rest) →
    ∀ {enough room}, fuel ≤ enough → nestingOfItems items ≤ room → ∀ more,
      readItems enough room (text ++ more) = .ok (items, rest ++ more)
  members : ∀ {depth text members rest}, readMembers fuel depth text = .ok (members, rest) →
    ∀ {enough room}, fuel ≤ enough → nestingOfMembers members ≤ room → ∀ more,
      readMembers enough room (text ++ more) = .ok (members, rest ++ more)

theorem ne_nil_of_skipBlanks {char : Char} (front : skipBlanks text = char :: left) :
    text ≠ [] := by
  rintro rfl
  cases front

theorem ValueAt.exists_front (shape : ValueAt fuel depth rest json text) : ∃ char left, text = char :: left := by
  cases shape with
  | scalar read =>
    cases text with
    | nil => cases read
    | cons char left => exact ⟨char, left, rfl⟩
  | _ => exact ⟨_, _, rfl⟩

theorem ValueAt.append (shape : ValueAt fuel depth rest json text) (readsOn : ReadsOn fuel)
    (bounded : rest ≠ [] ∨ 0 < json.nesting) {enough room : Nat} (fueled : fuel ≤ enough)
    (holds : json.nesting ≤ room) (more : List Char) :
    ValueAt enough room (rest ++ more) json (text ++ more) := by
  cases shape with
  | emptyArray opens closes =>
    exact .emptyArray holds (skipBlanks_append closes more)
  | emptyObject opens closes =>
    exact .emptyObject holds (skipBlanks_append closes more)
  | array opens inside filled read =>
    rw [nesting] at holds
    exact .array (by omega) (skipBlanks_append inside more) filled
      (readsOn.items read fueled (by omega) more)
  | object opens inside filled read =>
    rw [nesting] at holds
    exact .object (by omega) (skipBlanks_append inside more) filled
      (readsOn.members read fueled (by omega) more)
  | scalar read =>
    have leaves := bounded.resolve_right (by rw [readScalar?_nesting read]; exact Nat.lt_irrefl 0)
    exact .scalar (readScalar?_append read (.inl leaves))

theorem ItemsAt.append (shape : ItemsAt fuel depth rest items text) (readsOn : ReadsOn fuel) {enough room : Nat}
    (fueled : fuel ≤ enough) (holds : nestingOfItems items ≤ room) (more : List Char) :
    ItemsAt enough room (rest ++ more) items (text ++ more) := by
  cases shape with
  | last read closes =>
    rw [nestingOfItems, Nat.max_le] at holds
    exact .last (readsOn.value read (.inl (ne_nil_of_skipBlanks closes)) fueled holds.1 more)
      (skipBlanks_append closes more)
  | more read comma inside filled others =>
    rw [nestingOfItems, Nat.max_le] at holds
    exact .more (readsOn.value read (.inl (ne_nil_of_skipBlanks comma)) fueled holds.1 more)
      (skipBlanks_append comma more) (skipBlanks_append inside more) filled (readsOn.items others fueled holds.2 more)

theorem MembersAt.append (shape : MembersAt fuel depth rest members text) (readsOn : ReadsOn fuel) {enough room : Nat}
    (fueled : fuel ≤ enough) (holds : nestingOfMembers members ≤ room) (more : List Char) :
    MembersAt enough room (rest ++ more) members (text ++ more) := by
  cases shape with
  | last name colon read closes =>
    rw [nestingOfMembers, Nat.max_le] at holds
    exact .last (readString_append _ _ name more) (skipBlanks_append colon more)
      (readsOn.value read (.inl (ne_nil_of_skipBlanks closes)) fueled holds.1 more) (skipBlanks_append closes more)
  | more name colon read comma inside others =>
    rw [nestingOfMembers, Nat.max_le] at holds
    exact .more (readString_append _ _ name more) (skipBlanks_append colon more)
      (readsOn.value read (.inl (ne_nil_of_skipBlanks comma)) fueled holds.1 more) (skipBlanks_append comma more)
      (skipBlanks_append inside more) (readsOn.members others fueled holds.2 more)

theorem readsOn (fuel : Nat) : ReadsOn fuel := by
  induction fuel with
  | zero =>
    exact {
      value := by simp [readValue]
      items := by simp [readItems]
      members := by simp [readMembers] }
  | succ fuel ih =>
    -- Each reader spends one unit here, and what it reads inside has the rest.
    refine ⟨?_, ?_, ?_⟩
    · intro depth text json rest read bounded enough room fueled holds more
      obtain _ | enough := enough
      · exact absurd fueled (Nat.not_succ_le_zero fuel)
      have shape := readValue_eq_ok_iff.mp read
      obtain ⟨char, left, front⟩ := shape.exists_front
      rw [readValue_eq_ok_iff, skipBlanks_append front more, ← List.cons_append, ← front]
      exact shape.append ih bounded (Nat.le_of_succ_le_succ fueled) holds more
    · intro depth text items rest read enough room fueled holds more
      obtain _ | enough := enough
      · exact absurd fueled (Nat.not_succ_le_zero fuel)
      have shape := readItems_eq_ok_iff.mp read
      exact readItems_eq_ok_iff.mpr (shape.append ih (Nat.le_of_succ_le_succ fueled) holds more)
    · intro depth text members rest read enough room fueled holds more
      obtain _ | enough := enough
      · exact absurd fueled (Nat.not_succ_le_zero fuel)
      have shape := readMembers_eq_ok_iff.mp read
      exact readMembers_eq_ok_iff.mpr (shape.append ih (Nat.le_of_succ_le_succ fueled) holds more)

theorem readText_eq_ok_iff :
    readText depth text = .ok json ↔ ∃ rest, readFront depth text = .ok (json, rest) ∧ endsHere rest := by
  rw [readText, bind_eq_ok]
  constructor
  · rintro ⟨⟨value, rest⟩, read, ended⟩
    dsimp only at ended
    split at ended
    · next blank =>
      cases ended
      exact ⟨rest, read, blank⟩
    · cases ended
  · rintro ⟨rest, read, blank⟩
    exact ⟨_, read, if_pos blank⟩

/-- The text of a container is read as the member of an object, one container deeper. `quoted` is the key with its
closing quote. -/
theorem readText_singleton {room : Nat} {quoted : List Char} {key : String}
    (named : readString [] quoted = .ok (key, [])) (read : readText depth text = .ok json) (filled : 0 < json.nesting)
    (holds : json.nesting < room) :
    readText room ('\x7b' :: '"' :: quoted ++ ':' :: text ++ ['\x7d']) = .ok (.object [(key, json)]) := by
  obtain ⟨rest, front, blank⟩ := readText_eq_ok_iff.mp read
  have closes : skipBlanks (rest ++ ['\x7d']) = ['\x7d'] := by
    rw [skipBlanks, List.dropWhile_append]
    exact (if_pos blank).trans rfl
  simp only [List.cons_append, List.append_assoc]
  refine readText_eq_ok_iff.mpr ⟨[], ?_, rfl⟩
  refine readValue_eq_ok_iff.mpr (.object (by omega) rfl (by decide) ?_)
  refine readMembers_eq_ok_iff.mpr (.last (readString_append [] quoted named _) rfl ?_ closes)
  refine (readsOn _).value front (.inr filled) ?_ (by omega) _
  simp only [List.length_cons, List.length_append]
  omega

end Json
end CallProximity
