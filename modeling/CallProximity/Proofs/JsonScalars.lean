import CallProximity.Json.Reader
import Mathlib.Data.List.TakeWhile

/-! A scalar is read the same when its text goes on, as long as something was left after it: a number at the very
end of a text could take more digits, but nothing else. Keywords and strings end by themselves. -/

namespace CallProximity

theorem ok_bind {ε α β : Type} (value : α) (next : α → Except ε β) : (Except.ok value >>= next) = next value := rfl

theorem map_ok {ε α β : Type} (value : α) (view : α → β) : (Except.ok value : Except ε α).map view = .ok (view value) :=
  rfl

theorem bind_eq_ok {ε α β : Type} {first : Except ε α} {next : α → Except ε β} {result : β} :
    (first >>= next) = .ok result ↔ ∃ value, first = .ok value ∧ next value = .ok result := by
  cases first <;> simp [Bind.bind, Except.bind]

theorem map_eq_ok {ε α β : Type} {first : Except ε α} {view : α → β} {result : β} :
    first.map view = .ok result ↔ ∃ value, first = .ok value ∧ view value = result := by
  cases first <;> simp [Except.map]

namespace Json

def continuesNumber (char : Char) : Bool :=
  char.isDigit || char = '.' || char = 'e' || char = 'E' || char = '+' || char = '-'

/-- It is seen where a value ends that leaves the rest of a text: no number goes on where more follows. -/
def EndsBefore (rest more : List Char) : Prop :=
  rest ≠ [] ∨ ∀ char ∈ more.head?, continuesNumber char = false

/-- A reader of the front of a text. It leaves no more than it was given, and when it is seen where its value ends, it
reads the same from a longer text. -/
structure IsFrontReader {α : Type} (read : List Char → Except JsonError (α × List Char)) : Prop where
  length_le : ∀ {text value rest}, read text = .ok (value, rest) → rest.length ≤ text.length
  append : ∀ {text value rest more}, read text = .ok (value, rest) → EndsBefore rest more →
    read (text ++ more) = .ok (value, rest ++ more)

namespace IsFrontReader

variable {α β : Type} {first : List Char → Except JsonError (α × List Char)}

theorem pure (result : Except JsonError α) : IsFrontReader fun text => result.map (·, text) where
  length_le := by
    intro text value rest read
    cases result <;> cases read
    exact Nat.le_refl _
  append := by
    intro text value rest more read ends
    cases result <;> cases read
    rfl

theorem bind {second : α → List Char → Except JsonError (β × List Char)} (starts : IsFrontReader first)
    (goesOn : ∀ value, IsFrontReader (second value)) :
    IsFrontReader fun text => first text >>= fun (value, rest) => second value rest where
  length_le := by
    intro text value rest read
    obtain ⟨⟨middle, left⟩, started, ended⟩ := bind_eq_ok.mp read
    exact Nat.le_trans ((goesOn middle).length_le ended) (starts.length_le started)
  append := by
    intro text value rest more read ends
    obtain ⟨⟨middle, left⟩, started, ended⟩ := bind_eq_ok.mp read
    have leaves : rest ≠ [] → left ≠ [] := by
      rintro filled rfl
      exact filled (List.length_eq_zero_iff.mp (Nat.le_zero.mp ((goesOn middle).length_le ended)))
    exact bind_eq_ok.mpr ⟨_, starts.append started (ends.imp_left leaves), (goesOn middle).append ended ends⟩

theorem of_eq {read other : List Char → Except JsonError (α × List Char)} (reads : IsFrontReader other)
    (same : ∀ text, read text = other text) : IsFrontReader read :=
  funext same ▸ reads

theorem marked (isMark : Char → Bool) (marks : ∀ char, isMark char → continuesNumber char)
    (absent : α) (starts : IsFrontReader first) : IsFrontReader fun text =>
    match text with
    | char :: text => if isMark char then first text else .ok (absent, char :: text)
    | [] => .ok (absent, []) where
  length_le := by
    intro text value rest read
    cases text with
    | nil =>
      cases read
      exact Nat.le_refl _
    | cons char text =>
      dsimp only at read
      split at read
      · exact Nat.le_succ_of_le (starts.length_le read)
      · cases read
        exact Nat.le_refl _
  append := by
    intro text value rest more read ends
    cases text with
    | nil =>
      cases read
      cases more with
      | nil => rfl
      | cons char more =>
        have other : continuesNumber char = false := ends.resolve_left (· rfl) char rfl
        have plain : ¬isMark char := fun mark => Bool.false_ne_true (other.symm.trans (marks char mark))
        exact if_neg plain
    | cons char text =>
      dsimp only [List.cons_append] at read ⊢
      split at read
      · next mark => rw [if_pos mark, starts.append read ends]
      · next plain =>
        cases read
        rw [if_neg plain]
        rfl

end IsFrontReader

theorem readDigits_isFrontReader : IsFrontReader readDigits where
  length_le := by
    intro text digits rest read
    simp only [readDigits] at read
    split at read <;> cases read
    exact (List.dropWhile_sublist _).length_le
  append := by
    intro text digits rest more read ends
    simp only [readDigits] at read ⊢
    split at read
    · cases read
    next some_digits =>
    obtain ⟨same, left⟩ := Prod.mk.inj (Except.ok.inj read)
    obtain ⟨taken, dropped⟩ : (text ++ more).takeWhile Char.isDigit = text.takeWhile Char.isDigit ∧
        (text ++ more).dropWhile Char.isDigit = rest ++ more := by
      rw [List.takeWhile_append, List.dropWhile_append, left]
      cases rest with
      | cons char rest =>
        -- A character that is no digit was left, so the digits end where they ended.
        rw [if_neg, if_neg (by simp)]
        · exact ⟨rfl, rfl⟩
        · intro all
          have whole := congrArg List.length (List.takeWhile_append_dropWhile (p := Char.isDigit) (l := text))
          rw [List.length_append, all, left, List.length_cons] at whole
          omega
      | nil =>
        have whole : text.takeWhile Char.isDigit = text :=
          List.takeWhile_eq_self_iff.mpr (List.dropWhile_eq_nil_iff.mp left)
        rw [if_pos (congrArg List.length whole), if_pos List.isEmpty_nil, whole]
        cases more with
        | nil => exact ⟨List.append_nil text, rfl⟩
        | cons char more =>
          have other := ends.resolve_left (· rfl) char rfl
          have plain : ¬char.isDigit := by
            simp only [continuesNumber, Bool.or_eq_false_iff] at other
            simp [other]
          rw [List.takeWhile_cons_of_neg plain, List.dropWhile_cons_of_neg plain]
          exact ⟨List.append_nil text, rfl⟩
    rw [taken, dropped, ← same]
    split
    · contradiction
    · rfl

def wholeOf : List Nat → Except JsonError (List Nat)
  | 0 :: _ :: _ => .error .malformed
  | digits => .ok digits

theorem readWhole_isFrontReader : IsFrontReader readWhole := by
  refine (readDigits_isFrontReader.bind fun digits => .pure (wholeOf digits)).of_eq fun text => bind_congr ?_
  rintro ⟨digits, rest⟩
  rcases digits with _ | ⟨_ | digit, _ | ⟨next, digits⟩⟩ <;> rfl

theorem readFraction_isFrontReader : IsFrontReader readFraction := by
  refine (IsFrontReader.marked (· = '.') (by simp [continuesNumber]) none
    (readDigits_isFrontReader.bind fun digits => .pure (.ok (some digits)))).of_eq fun text => ?_
  cases text with
  | nil => rfl
  | cons char text =>
    by_cases mark : char = '.'
    · subst mark
      rfl
    · rw [readFraction]
      · simp [mark]
      · simpa using mark

def readSign : List Char → Bool × List Char
  | '+' :: rest => (false, rest)
  | '-' :: rest => (true, rest)
  | text => (false, text)

theorem readSign_cons (char : Char) (text : List Char) : readSign (char :: text) =
    if char = '+' then (false, text) else if char = '-' then (true, text) else (false, char :: text) := by
  split
  · next plus => rw [plus, readSign]
  · next unsigned =>
    split
    · next minus => rw [minus, readSign]
    · next plain => rw [readSign] <;> simp [unsigned, plain]

theorem readSign_isFrontReader : IsFrontReader fun text => .ok (readSign text) where
  length_le := by
    intro text negative rest read
    cases text with
    | nil =>
      cases read
      exact Nat.le_refl _
    | cons char text =>
      have shorter : (readSign (char :: text)).2.length ≤ (char :: text).length := by
        rw [readSign_cons]
        split_ifs <;> simp
      rw [Except.ok.inj read] at shorter
      exact shorter
  append := by
    intro text negative rest more read ends
    cases text with
    | nil =>
      cases read
      cases more with
      | nil => rfl
      | cons char more =>
        have other := ends.resolve_left (· rfl) char rfl
        simp only [continuesNumber, Bool.or_eq_false_iff, decide_eq_false_iff_not] at other
        rw [List.nil_append, readSign_cons, if_neg other.1.2, if_neg other.2]
    | cons char text =>
      have longer : readSign (char :: text ++ more) =
          ((readSign (char :: text)).1, (readSign (char :: text)).2 ++ more) := by
        rw [List.cons_append, readSign_cons, readSign_cons]
        split_ifs <;> rfl
      rw [longer, Except.ok.inj read]

theorem readExponent_isFrontReader : IsFrontReader readExponent := by
  refine (IsFrontReader.marked (fun char => char = 'e' ∨ char = 'E') (by simp [continuesNumber]) none
    (readSign_isFrontReader.bind fun negative => readDigits_isFrontReader.bind fun digits =>
      .pure (.ok (some (negative, digits))))).of_eq fun text => ?_
  cases text with
  | nil => rfl
  | cons char text =>
    simp only [readExponent, decide_eq_true_eq]
    split
    · change _ = readDigits (readSign text).2 >>= fun read => .ok (some ((readSign text).1, read.1), read.2)
      split
      · rfl
      · rfl
      · next plus minus =>
        rw [readSign]
        · rfl
        · exact plus
        · exact minus
    · rfl

theorem readNumber_isFrontReader (negative : Bool) : IsFrontReader (readNumber negative) := by
  refine (readWhole_isFrontReader.bind fun whole => readFraction_isFrontReader.bind fun fraction =>
    readExponent_isFrontReader.bind fun exponent => IsFrontReader.pure
      ((numberOf negative whole fraction exponent).elim (.error .malformed) .ok)).of_eq fun text => bind_congr ?_
  rintro ⟨whole, afterWhole⟩
  refine bind_congr ?_
  rintro ⟨fraction, afterFraction⟩
  refine bind_congr ?_
  rintro ⟨exponent, rest⟩
  dsimp only
  cases numberOf negative whole fraction exponent <;> rfl

theorem readKeyword_value {value json : Json} {keyword text rest : List Char}
    (read : readKeyword value keyword text = .ok (json, rest)) : json = value := by
  fun_induction readKeyword value keyword text with
  | case1 =>
    cases read
    rfl
  | case3 _ _ _ ih => exact ih read
  | _ => cases read

theorem readKeyword_append (value : Json) (keyword text : List Char) {json : Json} {rest : List Char}
    (read : readKeyword value keyword text = .ok (json, rest)) (more : List Char) :
    readKeyword value keyword (text ++ more) = .ok (json, rest ++ more) := by
  fun_induction readKeyword value keyword text with
  | case1 =>
    cases read
    rw [readKeyword]
  | case3 keyword char text ih =>
    rw [List.cons_append, readKeyword, if_pos rfl]
    exact ih read
  | _ => cases read

theorem readString_escape {char escaped : Char} (letter : char ≠ 'u') (escapes : simpleEscape? char = some escaped)
    (read text : List Char) : readString read ('\\' :: char :: text) = readString (escaped :: read) text := by
  rw [readString]
  · rw [escapes]
  all_goals simp [letter]

theorem readString_plain {char : Char} (inside : char ≠ '"') (bare : char ≠ '\\') (shows : ¬char < ' ')
    (read text : List Char) : readString read (char :: text) = readString (char :: read) text := by
  rw [readString]
  · rw [if_neg shows]
  all_goals simp [inside, bare]

theorem readString_append (read text : List Char) {value : String} {rest : List Char}
    (done : readString read text = .ok (value, rest)) (more : List Char) :
    readString read (text ++ more) = .ok (value, rest ++ more) := by
  fun_induction readString read text with
  | case2 =>
    cases done
    rfl
  -- A surrogate pair of two escapes.
  | case8 read a b c d unit first plain leading e f g h text trailing second closing code ih =>
    simp only [List.cons_append, readString, first, plain, leading, second, closing, Bool.false_eq_true, ↓reduceIte]
    exact ih done
  -- An escape that is a character by itself.
  | case12 read a b c d text unit first plain single ih =>
    simp only [List.cons_append, readString, first, plain, single, Bool.false_eq_true, ↓reduceIte]
    exact ih done
  | case15 read char text unicode letter escaped escapes ih =>
    exact (readString_escape letter escapes _ _).trans (ih done)
  | case18 read char text inside unicode short last escape shows ih =>
    have bare : char ≠ '\\' := by
      intro same
      cases text with
      | nil => exact last same rfl
      | cons next text => exact escape next text same rfl
    exact (readString_plain inside bare shows _ _).trans (ih done)
  | _ => cases done

theorem readScalar?_append {text : List Char} {json : Json} {rest more : List Char}
    (read : readScalar? text = some (.ok (json, rest))) (ends : EndsBefore rest more) :
    readScalar? (text ++ more) = some (.ok (json, rest ++ more)) := by
  unfold readScalar? at read
  split at read
  · rw [List.cons_append, readScalar?, readKeyword_append _ _ _ (Option.some.inj read)]
  · rw [List.cons_append, readScalar?, readKeyword_append _ _ _ (Option.some.inj read)]
  · rw [List.cons_append, readScalar?, readKeyword_append _ _ _ (Option.some.inj read)]
  · obtain ⟨⟨string, left⟩, done, same⟩ := map_eq_ok.mp (Option.some.inj read)
    cases same
    rw [List.cons_append, readScalar?, readString_append _ _ done]
    rfl
  · obtain ⟨⟨number, left⟩, done, same⟩ := map_eq_ok.mp (Option.some.inj read)
    cases same
    rw [List.cons_append, readScalar?, (readNumber_isFrontReader true).append done ends]
    rfl
  · split at read
    · next digit =>
      obtain ⟨⟨number, left⟩, done, same⟩ := map_eq_ok.mp (Option.some.inj read)
      cases same
      rw [List.cons_append, readScalar?, if_pos digit, ← List.cons_append,
        (readNumber_isFrontReader false).append done ends]
      · rfl
      all_goals assumption
    · cases read
  · cases read

end Json
end CallProximity
