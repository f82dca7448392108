/-! Reading the text of a file, and the faults of reading one. -/

namespace CallProximity

inductive FileError where
  | notFound
  | isDirectory
  | badText
  | other (detail : String)

def FileError.message : FileError → String
  | .notFound => "No such file or directory (os error 2)"
  | .isDirectory => "Is a directory (os error 21)"
  | .badText => "stream did not contain valid UTF-8"
  | .other detail => detail

/-- The text of a file. -/
def textOf (content : Except FileError ByteArray) : Except FileError String :=
  match content with
  | .ok bytes =>
      match String.fromUTF8? bytes with
      | some text => .ok text
      | none => .error .badText
  | .error error => .error error

end CallProximity
