import Reckoner.Json.Compact

namespace Reckoner.Json

/-- A new line that is indented by two blanks for each level. -/
def newLine (level : Nat) : List Char := '\n' :: List.replicate (2 * level) ' '

mutual

/-- The text of a document on a level, with every item and member on a line of its own. -/
def indentedChars (level : Nat) : Json → List Char
  | .array [] => ['[', ']']
  | .array items => '[' :: commas (itemLines (level + 1) items) ++ newLine level ++ [']']
  | .object [] => ['\x7b', '\x7d']
  | .object members =>
    '\x7b' :: commas (memberLines (level + 1) members) ++ newLine level ++ ['\x7d']
  | document => compactChars document

def itemLines (level : Nat) : List Json → List (List Char)
  | [] => []
  | item :: rest => (newLine level ++ indentedChars level item) :: itemLines level rest

def memberLines (level : Nat) : List (String × Json) → List (List Char)
  | [] => []
  | (name, value) :: rest =>
    (newLine level ++ stringText name ++ ':' :: ' ' :: indentedChars level value) ::
      memberLines level rest

end

/-- The text of a document on indented lines. -/
def indented (document : Json) : String := String.ofList (indentedChars 0 document)

end Reckoner.Json
