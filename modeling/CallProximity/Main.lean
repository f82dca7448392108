import CallProximity.Command

/-! The command line: an optional path of a scenario file. -/

namespace CallProximity

/-- The content of a file, its faults in the library's terms. -/
def readContent (path : String) : IO (Except FileError ByteArray) := do
  try
    return .ok (← IO.FS.readBinFile path)
  catch
    | .noFileOrDirectory .. => return .error .notFound
    | .inappropriateType .. => return .error .isDirectory
    | error => return .error (.other error.toString)

/-- An error with its causes, numbered when there are several. -/
def failureLines : List String → List String
  | [] => []
  | [outermost] => ["Error: " ++ outermost]
  | [outermost, cause] => ["Error: " ++ outermost, "", "Caused by:", "    " ++ cause]
  | outermost :: causes =>
      ["Error: " ++ outermost, "", "Caused by:"] ++
        causes.mapIdx fun index cause => "    " ++ toString index ++ ": " ++ cause

end CallProximity

open CallProximity in
def main (arguments : List String) : IO UInt32 := do
  let source ← arguments.head?.mapM fun path => do return (path, ← readContent path)
  let result := Command.run source
  for line in result.lines do
    IO.println line
  for line in failureLines result.failure do
    IO.eprintln line
  return if result.failure.isEmpty then 0 else 1
