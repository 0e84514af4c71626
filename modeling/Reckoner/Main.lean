import Reckoner.Calculator
import Reckoner.CommandLine
import Reckoner.Configuration.Reading
import Reckoner.Error
import Reckoner.Json.Indented

namespace Reckoner

/-- The reason of a failure to read. -/
def reasonOf : IO.Error → String
  | .noFileOrDirectory .. => Error.missingFile
  | e => toString e

/-- What a reading action gives for a path. -/
def reading (path : String) (action : IO String) : ExceptT Error IO String :=
  ExceptT.mk do
    try return .ok (← action)
    catch e => return .error (.unreadable path (reasonOf e))

/-- The text of a file. -/
def readText (path : String) : ExceptT Error IO String := reading path (IO.FS.readFile path)

/-- The text of standard input. -/
def readInput : ExceptT Error IO String :=
  reading "<stdin>" do (← IO.getStdin).readToEnd

/-- What a text holds, in the way that `read` reads it. -/
def parseText {α : Type} (read : String → Option α) (text : String) : Except Error α :=
  match read text with
  | some a => .ok a
  | none => .error .invalidJson

/-- What the program prints. -/
def answer (o : Options) (configuration : String) : ExceptT Error IO String := do
  let settings ← match o.settings with
    | some path => do parseText Settings.read? (← readText path)
    | none => pure Settings.default
  let settings := { settings with moduleName := o.moduleName.getD settings.moduleName }
  let configuration ← parseText Configuration.read? (← readText configuration)
  match Calculator.create configuration settings with
  | .error e => throw (.compile e)
  | .ok calculator =>
    if o.emitScript then return calculator.script.text
    else
      let text ← match o.state with
        | some path => readText path
        | none => readInput
      let record := (calculator.evaluateJson (← parseText Json.read? text)).toJson
      return if o.isPretty then record.indented else record.compact

end Reckoner

open Reckoner

/-- Runs the calculations of a configuration on a state. -/
def main (args : List String) : IO UInt32 := do
  match Options.read? args with
  | some o =>
    match o.configuration with
    | some configuration =>
      match ← (answer o configuration).run with
      | .ok text => IO.println text; return 0
      | .error e => IO.eprintln ("Error: " ++ e.message); return 1
    | none => IO.eprintln Options.usage; return 2
  | none => IO.eprintln Options.usage; return 2
