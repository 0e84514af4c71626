namespace Reckoner

/-- What a command line asks for. -/
structure Options where
  /-- The file of the configuration. -/
  configuration : Option String
  /-- The file of the state; standard input if there is none. -/
  state : Option String
  /-- The name that the result carries, in place of the one in the settings. -/
  moduleName : Option String
  /-- The file of the settings. -/
  settings : Option String
  /-- Whether the script is printed and nothing is calculated. -/
  emitScript : Bool
  /-- Whether the result is printed on indented lines. -/
  isPretty : Bool
deriving DecidableEq, Repr

namespace Options

def none : Options := ⟨.none, .none, .none, .none, false, false⟩

/-- The arguments behind other options; none if one is unknown or lacks its value. -/
def readFrom? (o : Options) : List String → Option Options
  | [] => some o
  | "--emit-script" :: rest => readFrom? { o with emitScript := true } rest
  | "-p" :: rest | "--pretty" :: rest => readFrom? { o with isPretty := true } rest
  | "-c" :: path :: rest | "--config" :: path :: rest =>
    readFrom? { o with configuration := some path } rest
  | "-s" :: path :: rest | "--state" :: path :: rest =>
    readFrom? { o with state := some path } rest
  | "-m" :: name :: rest | "--module-name" :: name :: rest =>
    readFrom? { o with moduleName := some name } rest
  | "-e" :: path :: rest | "--engine-config" :: path :: rest =>
    readFrom? { o with settings := some path } rest
  | _ => .none

/-- Reads a command line. -/
def read? : List String → Option Options := readFrom? none

/-- How the program is called. -/
def usage : String :=
  "Usage: reckoner --config <FILE> [--state <FILE>] [--module-name <NAME>] " ++
    "[--engine-config <FILE>] [--emit-script] [--pretty]"

end Options

end Reckoner
