import CallProximity.Decimal.Layout
import CallProximity.Json.Basic

/-! Compact JSON text: no blanks, members in the order they are held. -/

namespace CallProximity

/-- A number is written without an exponent from `0.00001` up to sixteen digits, and
a whole one ends in `.0`. Halves go to the even digit. -/
def DecimalLayout.json : DecimalLayout where
  tie := .even
  positional lead := -5 ≤ lead && lead ≤ 15
  wholeEnding := ".0"
  nan := "null"
  infinity := "null"

namespace Json

def hexDigit (value : Nat) : Char :=
  if value < 10 then .ofNat ('0'.toNat + value) else .ofNat ('a'.toNat + value - 10)

/-- Quotes, backslashes and control characters are escaped, nothing else. -/
def escapeChar (char : Char) : List Char :=
  match char with
  | '"' => ['\\', '"']
  | '\\' => ['\\', '\\']
  | '\x08' => ['\\', 'b']
  | '\x0c' => ['\\', 'f']
  | '\n' => ['\\', 'n']
  | '\r' => ['\\', 'r']
  | '\t' => ['\\', 't']
  | char =>
      if char < ' ' then
        ['\\', 'u', '0', '0', hexDigit (char.toNat / 16), hexDigit (char.toNat % 16)]
      else [char]

def quote (text : String) : String :=
  .ofList ('"' :: text.toList.flatMap escapeChar ++ ['"'])

def writeNumber : JsonNumber → String
  | .integer integer => toString integer.value
  | .real value => DecimalLayout.json.writeDouble value

mutual

def write : Json → String
  | .null => "null"
  | .bool value => toString value
  | .number value => writeNumber value
  | .string value => quote value
  | .array items => "[" ++ ",".intercalate (writeItems items) ++ "]"
  | .object members => "\x7b" ++ ",".intercalate (writeMembers members) ++ "\x7d"

def writeItems : List Json → List String
  | [] => []
  | item :: rest => item.write :: writeItems rest

def writeMembers : List (String × Json) → List String
  | [] => []
  | (key, value) :: rest => (quote key ++ ":" ++ value.write) :: writeMembers rest

end

end Json

end CallProximity
