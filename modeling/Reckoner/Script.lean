import Reckoner.Coercion
import Reckoner.Grammar.Statement
import Reckoner.Text.Lines
import Reckoner.Token.Placed

namespace Reckoner

/-- What is wrong with the statements of a calculation. -/
inductive Malformation where
  | unrecognized (found : String)
  | unexpected (token : Token)
  | endOfInput
deriving DecidableEq

def Malformation.message : Malformation → String
  | unrecognized found => ScanError.reason ++ " `" ++ found ++ "`"
  | unexpected token => "Unexpected token `" ++ token.text ++ "`"
  | endOfInput => "Unexpected end of input"

/-- Why a list of definitions has no script. -/
inductive CompileError where
  | malformed (variableName : String) (cause : Malformation) (line column : Nat)
  | invalidName (name : String)
  | duplicate (name : String)
deriving DecidableEq

def CompileError.message : CompileError → String
  | malformed name cause line column =>
    "Malformed calculation for `" ++ name ++ "`: " ++ cause.message ++ " at line " ++
      toString line ++ ", column " ++ toString column
  | invalidName name => "Invalid variable name `" ++ name ++ "`"
  | duplicate name => "Variable `" ++ name ++ "` is defined more than once"

/-- The line and column behind the last character, counted by line feeds. -/
def endOfText (source : String) : Nat × Nat :=
  let text := source.toList
  (text.count '\n' + 1, (text.reverse.takeWhile (· != '\n')).length + 1)

/-- The error at a position among the tokens of a source. -/
def malformedAt (name source : String) (tokens : Array PlacedToken) (position : Nat) :
    CompileError :=
  match tokens[position]? with
  | some placed => .malformed name (.unexpected placed.token) placed.start.line placed.start.column
  | none => .malformed name .endOfInput (endOfText source).1 (endOfText source).2

/-- Parses the statements of a calculation. All tokens have to belong to statements; else the error
is where the statement behind the last complete one fails. -/
def compileBody (name source : String) : Except CompileError Body :=
  match Token.significant source with
  | .error e => .error (.malformed name (.unrecognized e.found) e.place.line e.place.column)
  | .ok placed =>
    let tokens := placed.map (·.token)
    match Grammar.body tokens 0 with
    | .error e => .error (malformedAt name source placed e.position)
    | .ok (pos, body) =>
      if pos = tokens.size then .ok body
      else
        match Grammar.statement tokens pos with
        | .error e => .error (malformedAt name source placed e.position)
        | .ok _ => .error (malformedAt name source placed pos)

/-- ASCII letters, the underscore and the dollar sign begin a name. -/
def isNameStart (c : Char) : Bool := c.isAlpha || c == '_' || c == '$'

/-- An ASCII word that is no keyword. -/
def isValidName (name : String) : Bool :=
  match name.toList with
  | [] => false
  | c :: rest =>
    isNameStart c && rest.all (fun c => isNameStart c || c.isDigit) &&
      (Keyword.ofWord? name).isNone

/-- A calculation that is ready to run. -/
structure Step where
  name : String
  type : ResultType
  body : Body
  source : String

/-- Calculations in the order in which they run, and the names that are calculated. -/
structure Script where
  declarations : List String
  steps : List Step

namespace Script

/-- Adds a name that is not there yet. -/
def declare (seen : List String) (name : String) : List String :=
  if name ∈ seen then seen else seen ++ [name]

/-- The first occurrence of every name. -/
def distinct (names : List String) : List String := names.foldl declare []

/-- Makes a step of one definition. The name is checked before it is compared with the names before
it, and that before the statements are parsed. -/
def stepOf (rejectDuplicates : Bool) (seen : List String) (d : Definition) :
    Except CompileError Step :=
  if !isValidName d.name then .error (.invalidName d.name)
  else if rejectDuplicates && d.name ∈ seen then .error (.duplicate d.name)
  else (compileBody d.name d.operation).map fun body => ⟨d.name, d.type, body, d.operation⟩

/-- Declares the name of a definition behind those of a script, and adds its step. -/
def add (rejectDuplicates : Bool) (script : Script) (d : Definition) :
    Except CompileError Script := do
  let step ← stepOf rejectDuplicates script.declarations d
  return ⟨declare script.declarations d.name, script.steps ++ [step]⟩

/-- Makes a script of definitions. -/
def compile (definitions : List Definition) (rejectDuplicates : Bool) :
    Except CompileError Script :=
  definitions.foldlM (add rejectDuplicates) ⟨[], []⟩

/-- The source of a step as a function, and the assignments of its result. -/
def stepText (step : Step) : String :=
  "  " ++ step.name ++ " = (function () \x7b\n" ++
    String.join ((Text.lines step.source).map fun line => "    " ++ line ++ "\n") ++
    "  \x7d)();\n" ++
    "  _global.calculations['" ++ step.name ++ "'] = coerce(" ++ step.name ++ ", '" ++
    step.type.name ++ "');\n"

/-- The script as a program text. -/
def text (script : Script) : String :=
  let names := match script.declarations with
    | [] => "test"
    | names => ", ".intercalate names
  "\"use strict\";\ntry \x7b\n  let " ++ names ++ ";\n" ++
    String.join (script.steps.map stepText) ++
    "\x7d catch (e) \x7b\n  _global.error = e.message;\n\x7d"

end Script

end Reckoner
