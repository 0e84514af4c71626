namespace Reckoner.Text

/-- A reader takes characters off the front of a text, or fails. -/
abbrev Reader := StateT (List Char) Option

namespace Reader

/-- The next character, which stays. -/
def peek? : Reader (Option Char) := fun text => some (text.head?, text)

/-- Takes one character of a class. -/
def satisfy (p : Char → Bool) : Reader Char := fun
  | c :: rest => if p c then some (c, rest) else none
  | [] => none

/-- Takes the given character. -/
def char (c : Char) : Reader Unit := do discard (satisfy (· == c))

/-- Takes the given characters one after the other. -/
def chars : List Char → Reader Unit
  | [] => pure ()
  | c :: rest => do char c; chars rest

/-- Takes the longest run of characters of a class. -/
def takeWhile (p : Char → Bool) : Reader (List Char) := fun text =>
  some (text.takeWhile p, text.dropWhile p)

/-- Takes the longest run of characters of a class, one at least. -/
def takeWhile1 (p : Char → Bool) : Reader (List Char) := fun text =>
  match text.takeWhile p with
  | [] => none
  | run => some (run, text.dropWhile p)

/-- Requires a condition. -/
def check (holds : Bool) : Reader Unit := if holds then pure () else failure

/-- What a reader reads if it takes the whole text. -/
def readAll? {α : Type} (reader : Reader α) (text : List Char) : Option α :=
  match reader text with
  | some (a, []) => some a
  | _ => none

end Reader

end Reckoner.Text
