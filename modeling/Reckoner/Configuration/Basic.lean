import Reckoner.Json.Basic

namespace Reckoner

/-- The declared type of a result. -/
inductive ResultType where
  | date
  | string
  | number
  | boolean
  | untyped
deriving DecidableEq, Repr

namespace ResultType

def name : ResultType → String
  | date => "Date"
  | string => "String"
  | number => "Number"
  | boolean => "Boolean"
  | untyped => "untyped"

/-- The type of a name. Other names, and none, mean no type. -/
def ofName : Option String → ResultType
  | some "Date" => date
  | some "String" => string
  | some "Number" => number
  | some "Boolean" => boolean
  | _ => untyped

def toJson : ResultType → Json
  | untyped => .null
  | type => .string type.name

end ResultType

/-- A variable: its name, the statements that calculate it, and the type of its result. -/
structure Definition where
  name : String
  operation : String
  type : ResultType
deriving DecidableEq, Repr

def Definition.toJson (d : Definition) : Json :=
  .object [("variable_name", .string d.name), ("calculation_operation", .string d.operation),
    ("variable_type", d.type.toJson)]

/-- A named list of variables, which are calculated in its order. -/
structure Configuration where
  name : String
  definitions : List Definition
deriving DecidableEq, Repr

def Configuration.toJson (c : Configuration) : Json :=
  .object [("name", .string c.name), ("variables", .array (c.definitions.map Definition.toJson))]

/-- How calculations are run. -/
structure Settings where
  /-- The name that results carry. -/
  moduleName : String
  /-- Whether calculations see the built-in functions. -/
  builtins : Bool
  /-- Whether no two variables may have one name. -/
  rejectDuplicates : Bool
deriving DecidableEq, Repr

namespace Settings

def default : Settings := ⟨"calculations", true, false⟩

def toJson (s : Settings) : Json :=
  .object [("module_name", .string s.moduleName), ("builtins", .bool s.builtins),
    ("reject_duplicate_variables", .bool s.rejectDuplicates)]

end Settings

end Reckoner
