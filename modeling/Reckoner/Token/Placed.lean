import Reckoner.Token.Scanning

namespace Reckoner

/-- A place in a text: bytes before it, and its line and column counted from one. -/
structure Cursor where
  offset : Nat
  line : Nat
  column : Nat
deriving DecidableEq, Repr

namespace Cursor

def start : Cursor := ⟨0, 1, 1⟩

/-- The place behind one more character. -/
def next (cursor : Cursor) (c : Char) : Cursor :=
  if c = '\n' then ⟨cursor.offset + c.utf8Size, cursor.line + 1, 1⟩
  else ⟨cursor.offset + c.utf8Size, cursor.line, cursor.column + 1⟩

/-- The place behind a text. -/
def advance (cursor : Cursor) (text : List Char) : Cursor := text.foldl next cursor

end Cursor

/-- A token, where it starts, and the offset at which it ends. -/
structure PlacedToken where
  token : Token
  start : Cursor
  stop : Nat
deriving DecidableEq

/-- No token begins at a place; the first characters there are shown. -/
structure ScanError where
  found : String
  place : Cursor
deriving DecidableEq, Repr

namespace ScanError

def reason : String := "unrecognized character"

def message (e : ScanError) : String :=
  reason ++ " `" ++ e.found ++ "` at line " ++ toString e.place.line ++ ", column " ++
    toString e.place.column

end ScanError

namespace Token

/-- Cuts a text into at most `limit` tokens. The last cursor stands behind the last token, also if
the rest of the text holds none. -/
def scanFrom (cursor : Cursor) : Nat → List Char → Except ScanError (List PlacedToken) × Cursor
  | _, [] => (.ok [], cursor)
  | 0, text => (.error ⟨String.ofList (text.take 20), cursor⟩, cursor)
  | limit + 1, text =>
    match scan text with
    | none => (.error ⟨String.ofList (text.take 20), cursor⟩, cursor)
    | some (token, rest) =>
      let behind := cursor.advance (text.take (text.length - rest.length))
      let (tail, last) := scanFrom behind limit rest
      (tail.map (⟨token, cursor, behind.offset⟩ :: ·), last)

/-- Cuts a whole text into tokens from a place on. Every token takes a character at least. -/
def scanAll (cursor : Cursor) (source : String) : Except ScanError (List PlacedToken) × Cursor :=
  scanFrom cursor source.toList.length source.toList

/-- The tokens of a text that carry meaning. -/
def significant (source : String) : Except ScanError (Array PlacedToken) :=
  (scanAll .start source).1.map fun tokens => (tokens.filter (·.token.isSignificant)).toArray

end Token

end Reckoner
