import CallProximity.Text.Hidden

/-! Text written as a quoted literal in log lines. A character that would not show
by itself is written by its code. -/

namespace CallProximity.Text

def escapeChar (char : Char) : List Char :=
  match char with
  | '\x00' => ['\\', '0']
  | '\t' => ['\\', 't']
  | '\r' => ['\\', 'r']
  | '\n' => ['\\', 'n']
  | '"' => ['\\', '"']
  | '\\' => ['\\', '\\']
  | char =>
      if isHidden char then
        "\\u\x7b".toList ++ Nat.toDigits 16 char.toNat ++ "\x7d".toList
      else [char]

def quote (text : String) : String :=
  .ofList ('"' :: text.toList.flatMap escapeChar ++ ['"'])

/-- A text that may be absent. -/
def quoteOption : Option String → String
  | none => "None"
  | some text => "Some(" ++ quote text ++ ")"

end CallProximity.Text
