import CallProximity.Decimal.Scaled
import CallProximity.Json.Basic

/-! Reading JSON text. The grammar is the strict one: no comment, no comma at the
end, no bare control character in a string, surrogates only in pairs, and a bound on
nested containers. A text that could still be continued to a value ends early;
any other bad text is malformed. -/

namespace CallProximity

inductive JsonError where
  | endOfText
  | malformed
deriving DecidableEq, Repr

namespace Json

def isBlank (char : Char) : Bool :=
  char = ' ' || char = '\n' || char = '\t' || char = '\r'

def skipBlanks (text : List Char) : List Char :=
  text.dropWhile isBlank

/-- The rest of a keyword. -/
def readKeyword (value : Json) : List Char → List Char → Except JsonError (Json × List Char)
  | [], text => .ok (value, text)
  | _ :: _, [] => .error .endOfText
  | expected :: more, char :: text =>
      if char = expected then readKeyword value more text else .error .malformed

def hexDigit? (char : Char) : Option Nat :=
  if '0' ≤ char ∧ char ≤ '9' then some (char.toNat - '0'.toNat)
  else if 'a' ≤ char ∧ char ≤ 'f' then some (char.toNat - 'a'.toNat + 10)
  else if 'A' ≤ char ∧ char ≤ 'F' then some (char.toNat - 'A'.toNat + 10)
  else none

def hexUnit? (first second third fourth : Char) : Option Nat := do
  let first ← hexDigit? first
  let second ← hexDigit? second
  let third ← hexDigit? third
  let fourth ← hexDigit? fourth
  return ((first * 16 + second) * 16 + third) * 16 + fourth

/-- The error of an escape whose four hexadecimal digits are not there: the text
ends early when less than four bytes are left. -/
def hexError (text : List Char) : JsonError :=
  if (String.ofList text).utf8ByteSize < 4 then .endOfText else .malformed

def isLeadingSurrogate (unit : Nat) : Bool :=
  0xD800 ≤ unit && unit ≤ 0xDBFF

def isTrailingSurrogate (unit : Nat) : Bool :=
  0xDC00 ≤ unit && unit ≤ 0xDFFF

def simpleEscape? : Char → Option Char
  | '"' => some '"'
  | '\\' => some '\\'
  | '/' => some '/'
  | 'b' => some '\x08'
  | 'f' => some '\x0c'
  | 'n' => some '\n'
  | 'r' => some '\r'
  | 't' => some '\t'
  | _ => none

/-- A string after its opening quote; `read` holds its characters so far, last
first. -/
def readString (read : List Char) : List Char → Except JsonError (String × List Char)
  | [] => .error .endOfText
  | '"' :: text => .ok (.ofList read.reverse, text)
  | '\\' :: 'u' :: a :: b :: c :: d :: text =>
      match hexUnit? a b c d with
      | none => .error .malformed
      | some unit =>
          if isTrailingSurrogate unit then .error .malformed
          else if isLeadingSurrogate unit then
            match text with
            | [] | ['\\'] => .error .endOfText
            | '\\' :: 'u' :: e :: f :: g :: h :: text =>
                match hexUnit? e f g h with
                | none => .error .malformed
                | some trailing =>
                    if isTrailingSurrogate trailing then
                      let code := 0x10000 + (unit - 0xD800) * 0x400 + (trailing - 0xDC00)
                      readString (.ofNat code :: read) text
                    else .error .malformed
            | '\\' :: 'u' :: text => .error (hexError text)
            | _ => .error .malformed
          else readString (.ofNat unit :: read) text
  | '\\' :: 'u' :: text => .error (hexError text)
  | ['\\'] => .error .endOfText
  | '\\' :: char :: text =>
      match simpleEscape? char with
      | some escaped => readString (escaped :: read) text
      | none => .error .malformed
  | char :: text =>
      if char < ' ' then .error .malformed else readString (char :: read) text

def digitsOf (text : List Char) : List Nat :=
  text.map fun char => char.toNat - '0'.toNat

/-- Digits at the front of the text, at least one. -/
def readDigits (text : List Char) : Except JsonError (List Nat × List Char) :=
  match text.takeWhile Char.isDigit with
  | [] => .error (if text.isEmpty then .endOfText else .malformed)
  | digits => .ok (digitsOf digits, text.dropWhile Char.isDigit)

/-- Digits with no zero before another digit. -/
def readWhole (text : List Char) : Except JsonError (List Nat × List Char) := do
  let (digits, rest) ← readDigits text
  match digits with
  | 0 :: _ :: _ => throw .malformed
  | _ => return (digits, rest)

def readFraction : List Char → Except JsonError (Option (List Nat) × List Char)
  | '.' :: text => do
      let (digits, rest) ← readDigits text
      return (some digits, rest)
  | text => .ok (none, text)

/-- The exponent with its sign, `true` for a negative one. -/
def readExponent : List Char → Except JsonError (Option (Bool × List Nat) × List Char)
  | char :: text =>
      if char = 'e' ∨ char = 'E' then do
        let (negative, text) :=
          match text with
          | '+' :: rest => (false, rest)
          | '-' :: rest => (true, rest)
          | _ => (false, text)
        let (digits, rest) ← readDigits text
        return (some (negative, digits), rest)
      else .ok (none, char :: text)
  | [] => .ok (none, [])

def natOfDigits (digits : List Nat) : Nat :=
  digits.foldl (fun value digit => value * 10 + digit) 0

/-- An integer that a word holds stays one, but for a negative zero. -/
def numberOf (negative : Bool) (whole : List Nat) (fraction : Option (List Nat))
    (exponent : Option (Bool × List Nat)) : Option JsonNumber :=
  let magnitude := natOfDigits whole
  let integer? : Option WordInteger :=
    if fraction.isSome || exponent.isSome || (negative && magnitude = 0) then none
    else WordInteger.ofInt? (if negative then -magnitude else magnitude)
  match integer? with
  | some integer => some (.integer integer)
  | none =>
      let (negativeExponent, exponentDigits) := exponent.getD (false, [])
      let written : WrittenDecimal :=
        { negative, whole, fraction := fraction.getD [], negativeExponent
          exponent := natOfDigits exponentDigits }
      written.toDouble?.map .real

def readNumber (negative : Bool) (text : List Char) : Except JsonError (JsonNumber × List Char) := do
  let (whole, text) ← readWhole text
  let (fraction, text) ← readFraction text
  let (exponent, text) ← readExponent text
  match numberOf negative whole fraction exponent with
  | some value => return (value, text)
  | none => throw .malformed

/-- A keyword, number or string; nothing when the text starts with no scalar. -/
def readScalar? : List Char → Option (Except JsonError (Json × List Char))
  | 'n' :: text => some (readKeyword .null "ull".toList text)
  | 't' :: text => some (readKeyword (.bool true) "rue".toList text)
  | 'f' :: text => some (readKeyword (.bool false) "alse".toList text)
  | '"' :: text => some ((readString [] text).map fun (value, rest) => (.string value, rest))
  | '-' :: text => some ((readNumber true text).map fun (value, rest) => (.number value, rest))
  | char :: text =>
      if char.isDigit then
        some ((readNumber false (char :: text)).map fun (value, rest) => (.number value, rest))
      else none
  | [] => none

mutual

/-- One value with at most `depth` nested containers. Each step spends one unit of
fuel, and reads a character or goes one container deeper at most twice per
character. -/
def readValue : (fuel depth : Nat) → List Char → Except JsonError (Json × List Char)
  | 0, _, _ => .error .malformed
  | fuel + 1, depth, text =>
      match skipBlanks text with
      | [] => .error .endOfText
      | '[' :: text =>
          if depth = 0 then .error .malformed
          else
            match skipBlanks text with
            | ']' :: rest => .ok (.array [], rest)
            | [] => .error .endOfText
            | text => (readItems fuel (depth - 1) text).map fun (items, rest) => (.array items, rest)
      | '\x7b' :: text =>
          if depth = 0 then .error .malformed
          else
            match skipBlanks text with
            | '\x7d' :: rest => .ok (.object [], rest)
            | [] => .error .endOfText
            | text =>
                (readMembers fuel (depth - 1) text).map fun (members, rest) => (.object members, rest)
      | text => (readScalar? text).getD (.error .malformed)

/-- The items of an array from the first on, and its closing bracket. -/
def readItems : (fuel depth : Nat) → List Char → Except JsonError (List Json × List Char)
  | 0, _, _ => .error .malformed
  | fuel + 1, depth, text => do
      let (item, text) ← readValue fuel depth text
      match skipBlanks text with
      | ']' :: rest => return ([item], rest)
      | ',' :: text =>
          match skipBlanks text with
          | [] => throw .endOfText
          | ']' :: _ => throw .malformed
          | text => do
              let (items, rest) ← readItems fuel depth text
              return (item :: items, rest)
      | [] => throw .endOfText
      | _ => throw .malformed

/-- The members of an object from the first key on, and its closing brace. -/
def readMembers : (fuel depth : Nat) → List Char → Except JsonError (List (String × Json) × List Char)
  | 0, _, _ => .error .malformed
  | fuel + 1, depth, text =>
      match text with
      | '"' :: text => do
          let (key, text) ← readString [] text
          match skipBlanks text with
          | [] => throw .endOfText
          | ':' :: text => do
              let (value, text) ← readValue fuel depth text
              match skipBlanks text with
              | '\x7d' :: rest => return ([(key, value)], rest)
              | ',' :: text =>
                  match skipBlanks text with
                  | [] => throw .endOfText
                  | text => do
                      let (members, rest) ← readMembers fuel depth text
                      return ((key, value) :: members, rest)
              | [] => throw .endOfText
              | _ => throw .malformed
          | _ => throw .malformed
      | [] => .error .endOfText
      | _ => .error .malformed

end

/-- The containers that may be open at once. -/
def nestingLimit : Nat := 127

/-- One value at the front of the text. -/
def readFront (depth : Nat) (text : List Char) : Except JsonError (Json × List Char) :=
  readValue (2 * text.length + 2) depth text

/-- Only blanks may follow a document. -/
def endsHere (text : List Char) : Bool :=
  (skipBlanks text).isEmpty

/-- The text as one value. -/
def readText (depth : Nat) (text : List Char) : Except JsonError Json := do
  let (value, rest) ← readFront depth text
  if endsHere rest then return value else throw .malformed

end Json

end CallProximity
