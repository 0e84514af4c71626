import Reckoner.Evaluation.Statement
import Reckoner.Json.Compact
import Reckoner.Path
import Reckoner.Script
import Reckoner.Value.Document

namespace Reckoner

namespace Script

/-- Runs steps in order. Each one sets its name to its value and its result to the value of the
declared type. The first failure ends the run with its message. -/
def runSteps : List Step → Environment → Environment
  | [], env => env
  | step :: rest, env =>
    match step.body.run env with
    | (.ok v, env) =>
      runSteps rest ((env.setSibling step.name v).setResult step.name (step.type.coerce v))
    | (.error e, env) => env.setError e.message

/-- Runs all steps. -/
def run (script : Script) (env : Environment) : Environment := runSteps script.steps env

end Script

/-- The outcome of a run. -/
structure Record where
  moduleName : String
  segment : String
  calculations : Value
  error : Option String

/-- A failure as it is handed on. No failure has a code. -/
structure Fault where
  code : String
  message : String
deriving DecidableEq, Repr

namespace Record

def isFaulted (r : Record) : Bool := r.error.isSome

def fault? (r : Record) : Option Fault := r.error.map fun message => ⟨"", message⟩

/-- The value of a name; none if it is not calculated. -/
def calculation? (r : Record) (name : String) : Option Value :=
  match r.calculations with
  | .object fields => fields.lookup name
  | _ => none

/-- The error is left out where there is none. -/
def toJson (r : Record) : Json :=
  .object ([("type", .string "Calculations"), ("name", .string r.moduleName),
    ("segment", .string r.segment), ("calculations", r.calculations.toJson)] ++
    (r.error.map fun message => ("error", Json.string message)).toList)

end Record

/-- A configuration that is ready to run on any number of states. -/
structure Calculator where
  moduleName : String
  segment : String
  template : Template
  script : Script
  builtins : Bool

namespace Calculator

def create (configuration : Configuration) (settings : Settings) :
    Except CompileError Calculator :=
  (Script.compile configuration.definitions settings.rejectDuplicates).map fun script =>
    { moduleName := settings.moduleName
      segment := configuration.name
      template := .ofNames (configuration.definitions.map Definition.name)
      script
      builtins := settings.builtins }

/-- Runs all calculations on a state. No error message means no error. -/
def evaluate (c : Calculator) (state : State) : Record :=
  let env := c.script.run (c.template.instantiate c.script.declarations state c.builtins)
  { moduleName := c.moduleName
    segment := c.segment
    calculations := unflatten env.results
    error := if env.error = "" then none else some env.error }

/-- Runs all calculations on a document. What is no object is an empty state. -/
def evaluateJson (c : Calculator) (document : Json) : Record :=
  match Value.ofJson document with
  | .object fields => c.evaluate fields
  | _ => c.evaluate []

end Calculator

end Reckoner
