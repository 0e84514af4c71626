import Reckoner.Script

namespace Reckoner

/-- Why the calculations of a configuration cannot be run. -/
inductive Error where
  | compile (cause : CompileError)
  | unreadable (path reason : String)
  | invalidJson

namespace Error

/-- Why a file that does not exist cannot be read. -/
def missingFile : String := "No such file or directory (os error 2)"

def message : Error → String
  | compile cause => "Compile error: " ++ cause.message
  | unreadable path reason => "Failed to read " ++ path ++ ": " ++ reason
  | invalidJson => "Invalid JSON"

end Error

end Reckoner
