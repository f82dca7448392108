import CallProximity.Files
import CallProximity.Scenario.Script
import CallProximity.Simulation

/-! The command: plays the scenario in a file, or the built-in one, and prints each step
with what the devices were asked. -/

namespace CallProximity

/-- The fault by itself. -/
def ScriptError.detail : ScriptError → String
  | .json .malformed => "syntax"
  | .json .endOfText => "eof"
  | .mismatch => "data did not match any variant of untagged enum ScriptFile"
  | .noSteps => "scenario has no steps"

def ScriptError.message : ScriptError → String
  | .noSteps => ScriptError.noSteps.detail
  | error => "invalid scenario: " ++ error.detail

/-- A fault with its causes, the outermost first. -/
def ScriptError.chain : ScriptError → List String
  | .noSteps => [ScriptError.noSteps.message]
  | error => [error.message, error.detail]

inductive LoadError where
  | file (path : String) (error : FileError)
  | script (error : ScriptError)

def LoadError.chain : LoadError → List String
  | .file path error => ["failed to read " ++ path ++ ": " ++ error.message, error.message]
  | .script error => error.chain

def Scenario.load (path : String) (content : Except FileError ByteArray) : Except LoadError Scenario :=
  match textOf content with
  | .error error => .error (.file path error)
  | .ok text => (Scenario.ofText text).mapError .script

/-- What the command prints, and the chain of causes when it fails. -/
structure CommandResult where
  lines : List String := []
  failure : List String := []

namespace Command

def padLeft (width : Nat) (text : String) : String :=
  "".pushn ' ' (width - text.length) ++ text

def heading (number : Nat) (step : ScenarioStep) : String :=
  "[" ++ padLeft 2 (toString number) ++ "] " ++ step.describe

/-- Plays steps from a number on. -/
def playSteps (number : Nat) (simulation : Simulation) : List ScenarioStep → List String × Simulation
  | [] => ([], simulation)
  | step :: rest =>
      let (lines, after) := simulation.perform step
      let (more, final) := playSteps (number + 1) after rest
      (heading number step :: lines ++ more, final)

def play (scenario : Scenario) : List String :=
  let (lines, simulation) := playSteps 1 (.start scenario) scenario.steps
  ("=== " ++ scenario.name ++ " ===") :: lines ++
    ["", toString simulation.transcript.length ++ " actuator calls."] ++ simulation.finish.1

/-- A name or key may itself hold line ends. -/
def splitLines (lines : List String) : List String :=
  lines.flatMap fun line => line.splitOn "\n"

/-- Runs the scenario whose file has the given content, or the built-in one. -/
def run (source : Option (String × Except FileError ByteArray)) : CommandResult :=
  match source with
  | none => { lines := splitLines (play .builtIn) }
  | some (path, content) =>
      match Scenario.load path content with
      | .ok scenario => { lines := splitLines (play scenario) }
      | .error error =>
          { failure := ("failed to load scenario " ++ path) :: error.chain }

end Command

end CallProximity
