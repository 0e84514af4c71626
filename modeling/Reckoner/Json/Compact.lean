import Reckoner.Json.Basic
import Reckoner.Number.Text
import Reckoner.Text.Quoted

namespace Reckoner.Json

/-- One character of a JSON string. Only the quotation mark, the backslash and the controls are
escaped. -/
def escapeChar (c : Char) : List Char :=
  if c = '\x22' then ['\\', '\x22']
  else if c = '\\' then ['\\', '\\']
  else if c = '\x08' then ['\\', 'b']
  else if c = '\x0c' then ['\\', 'f']
  else if c = '\n' then ['\\', 'n']
  else if c = '\r' then ['\\', 'r']
  else if c = '\t' then ['\\', 't']
  else if c.toNat < 0x20 then
    let hex := Text.hexDigits c.toNat
    '\\' :: 'u' :: List.replicate (4 - hex.length) '0' ++ hex
  else [c]

/-- A JSON string. -/
def stringText (s : String) : List Char :=
  '\x22' :: s.toList.flatMap escapeChar ++ ['\x22']

/-- Whole numbers in decimal, others in the layout of JSON. -/
def numberText : JsonNumber → List Char
  | .integer n => Number.signed (n < 0) (Number.decimalDigits n.natAbs)
  | .float x => (Number.Layout.json.render x).toList

/-- Texts with commas between them. -/
def commas : List (List Char) → List Char
  | [] => []
  | [text] => text
  | text :: rest => text ++ ',' :: commas rest

mutual

/-- The text of a document without blanks. -/
def compactChars : Json → List Char
  | .null => "null".toList
  | .bool b => (if b then "true" else "false").toList
  | .number n => numberText n
  | .string s => stringText s
  | .array items => '[' :: commas (itemTexts items) ++ [']']
  | .object members => '\x7b' :: commas (memberTexts members) ++ ['\x7d']

def itemTexts : List Json → List (List Char)
  | [] => []
  | item :: rest => compactChars item :: itemTexts rest

def memberTexts : List (String × Json) → List (List Char)
  | [] => []
  | (name, value) :: rest => (stringText name ++ ':' :: compactChars value) :: memberTexts rest

end

/-- The text of a document without blanks. -/
def compact (document : Json) : String := String.ofList (compactChars document)

end Reckoner.Json
