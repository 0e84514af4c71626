import Reckoner.Configuration.Basic
import Reckoner.Json.Reading

namespace Reckoner

namespace Json

open Text Text.Reader

/-- The members of an object from one on. `step` reads the value of a member that it knows. -/
def recordMembers {σ : Type} (step : String → σ → Option (Reader σ)) : Nat → σ → Reader σ
  | 0, _ => failure
  | limit + 1, draft => do
    blanks
    let name ← stringLiteral
    mark ':'
    blanks
    let draft ← match step name draft with
      | some reader => reader
      | none => do skip; pure draft
    blanks
    match ← peek? with
    | some ',' => char ','; recordMembers step limit draft
    | _ => char '\x7d'; pure draft

/-- The items of an array from one on, as the values of the members of the given names. -/
def recordItems {σ : Type} (step : String → σ → Option (Reader σ)) : List String → σ → Reader σ
  | [], _ => failure
  | name :: names, draft => do
    blanks
    let draft ← (step name draft).getD failure
    blanks
    match ← peek? with
    | some ',' => char ','; recordItems step names draft
    | _ => char ']'; pure draft

/-- A record: an object, of which unknown members are skipped, or an array of the values of its
first members in order. -/
def record {σ : Type} (names : List String) (step : String → σ → Option (Reader σ)) (start : σ) :
    Reader σ := do
  blanks
  match ← peek? with
  | some '[' =>
    char '['
    blanks
    match ← peek? with
    | some ']' => char ']'; pure start
    | _ => recordItems step names start
  | _ =>
    char '\x7b'
    blanks
    match ← peek? with
    | some '\x7d' => char '\x7d'; pure start
    | _ => fun text => recordMembers step (text.length + 1) start text

/-- The items of an array from one on. -/
def listItems {α : Type} (item : Reader α) : Nat → Reader (List α)
  | 0 => failure
  | limit + 1 => do
    let a ← item
    blanks
    match ← peek? with
    | some ',' => char ','; return a :: (← listItems item limit)
    | _ => char ']'; pure [a]

/-- An array of items of one kind. -/
def list {α : Type} (item : Reader α) : Reader (List α) := do
  mark '['
  blanks
  match ← peek? with
  | some ']' => char ']'; pure []
  | _ => fun text => listItems item (text.length + 1) text

def boolean : Reader Bool := do
  match ← peek? with
  | some 't' => chars "true".toList; pure true
  | _ => chars "false".toList; pure false

/-- A string or `null`. -/
def optionalString : Reader (Option String) := do
  match ← peek? with
  | some 'n' => chars "null".toList; pure none
  | _ => some <$> stringLiteral

/-- Reads a text that holds one item and blanks. -/
def readDocument? {α : Type} (item : Reader α) (s : String) : Option α :=
  (do blanks; let a ← item; blanks; pure a : Reader α).readAll? s.toList

/-- Reads a member that must not have been read before. -/
def once {α σ : Type} (reader : Reader α) (earlier : Option α) (set : Option α → σ) : Reader σ := do
  check earlier.isNone
  return set (some (← reader))

end Json

open Text Text.Reader

namespace ResultType

def reader : Reader ResultType := ofName <$> Json.optionalString

/-- Reads a type from a JSON text. -/
def read? : String → Option ResultType := Json.readDocument? reader

end ResultType

namespace Definition

/-- The members of a definition that have been read. -/
structure Draft where
  name : Option String
  operation : Option String
  type : Option ResultType

def Draft.step (member : String) (d : Draft) : Option (Reader Draft) :=
  match member with
  | "variable_name" => some (Json.once Json.stringLiteral d.name ({ d with name := · }))
  | "calculation_operation" =>
    some (Json.once Json.stringLiteral d.operation ({ d with operation := · }))
  | "variable_type" => some (Json.once ResultType.reader d.type ({ d with type := · }))
  | _ => none

/-- The type may be missing. -/
def reader : Reader Definition := do
  let d ← Json.record ["variable_name", "calculation_operation", "variable_type"] Draft.step
    ⟨none, none, none⟩
  match d.name, d.operation with
  | some name, some operation => pure ⟨name, operation, d.type.getD .untyped⟩
  | _, _ => failure

/-- Reads a definition from a JSON text. -/
def read? : String → Option Definition := Json.readDocument? reader

end Definition

namespace Configuration

/-- The members of a configuration that have been read. -/
structure Draft where
  name : Option String
  definitions : Option (List Definition)

def Draft.step (member : String) (d : Draft) : Option (Reader Draft) :=
  match member with
  | "name" => some (Json.once Json.stringLiteral d.name ({ d with name := · }))
  | "variables" =>
    some (Json.once (Json.list Definition.reader) d.definitions ({ d with definitions := · }))
  | _ => none

/-- The variables may be missing. -/
def reader : Reader Configuration := do
  let d ← Json.record ["name", "variables"] Draft.step ⟨none, none⟩
  match d.name with
  | some name => pure ⟨name, d.definitions.getD []⟩
  | none => failure

/-- Reads a configuration from a JSON text. -/
def read? : String → Option Configuration := Json.readDocument? reader

end Configuration

namespace Settings

/-- The members of the settings that have been read. -/
structure Draft where
  moduleName : Option String
  builtins : Option Bool
  rejectDuplicates : Option Bool

def Draft.step (member : String) (d : Draft) : Option (Reader Draft) :=
  match member with
  | "module_name" => some (Json.once Json.stringLiteral d.moduleName ({ d with moduleName := · }))
  | "builtins" => some (Json.once Json.boolean d.builtins ({ d with builtins := · }))
  | "reject_duplicate_variables" =>
    some (Json.once Json.boolean d.rejectDuplicates ({ d with rejectDuplicates := · }))
  | _ => none

/-- Members that are missing have their defaults. -/
def reader : Reader Settings := do
  let d ← Json.record ["module_name", "builtins", "reject_duplicate_variables"] Draft.step
    ⟨none, none, none⟩
  pure ⟨d.moduleName.getD default.moduleName, d.builtins.getD default.builtins,
    d.rejectDuplicates.getD default.rejectDuplicates⟩

/-- Reads settings from a JSON text. -/
def read? : String → Option Settings := Json.readDocument? reader

end Settings

end Reckoner
