import Reckoner.Number.Reading
import Reckoner.Text.Alphabetic
import Reckoner.Text.Blank
import Reckoner.Text.Digit
import Reckoner.Text.Reader
import Reckoner.Token.Basic

namespace Reckoner.Token

open Text Text.Reader

/-- A run of spaces and tabs. -/
def scanWhitespace : Reader Token := do
  let run ← takeWhile1 fun c => c == ' ' || c == '\t'
  pure (.whitespace (String.ofList run))

/-- A line feed, a carriage return, or both. -/
def scanNewline : Reader Token := fun
  | '\r' :: '\n' :: rest | '\n' :: rest | '\r' :: rest => some (.newline, rest)
  | _ => none

def isLineEnd (c : Char) : Bool := c == '\r' || c == '\n'

/-- Two slashes and the rest of the line, without blanks around it. A carriage return that no line
feed follows does not end the line, and there is no such comment then. -/
def scanLineComment : Reader Token := fun
  | '/' :: '/' :: text =>
    let token := Token.lineComment (String.ofList (trim (text.takeWhile (!isLineEnd ·))))
    match text.dropWhile (!isLineEnd ·) with
    | '\r' :: '\n' :: rest => some (token, '\r' :: '\n' :: rest)
    | '\r' :: _ => none
    | rest => some (token, rest)
  | _ => none

/-- The content of a comment up to its end, and what follows the end. -/
def blockContent? : List Char → Option (List Char × List Char)
  | '*' :: '/' :: rest => some ([], rest)
  | c :: rest => (blockContent? rest).map fun (content, rest) => (c :: content, rest)
  | [] => none

/-- A comment between `/*` and the next `*/`. -/
def scanBlockComment : Reader Token := fun
  | '/' :: '*' :: text =>
    (blockContent? text).map fun (content, rest) => (.blockComment (String.ofList content), rest)
  | _ => none

def scanComment : Reader Token := scanBlockComment <|> scanLineComment

/-- What a backslash and a character stand for, apart from `\u` and a line feed. -/
def unescape : Char → Char
  | 'n' => '\n'
  | 't' => '\t'
  | 'r' => '\r'
  | '0' => '\x00'
  | 'b' => '\x08'
  | 'f' => '\x0c'
  | 'v' => '\x0b'
  | c => c

/-- The character of a code point. -/
def ofCodePoint? (n : Nat) : Option Char :=
  if n.isValidChar then some (Char.ofNat n) else none

/-- The content of a string from behind its opening quote up to the closing one, and what follows
that. -/
def stringContent? (quote : Char) : List Char → Option (List Char × List Char)
  | [] => none
  | '\\' :: 'u' :: a :: b :: c :: d :: rest => do
    let denoted ← Number.readNatural? 16 [a, b, c, d] >>= ofCodePoint?
    let (content, rest) ← stringContent? quote rest
    pure (denoted :: content, rest)
  | '\\' :: '\n' :: rest => stringContent? quote rest
  | '\\' :: c :: rest => do
    if c = 'u' then none
    let (content, rest) ← stringContent? quote rest
    pure (unescape c :: content, rest)
  | c :: rest => do
    if c = quote then return ([], rest)
    if isLineEnd c ∨ c = '\\' then none
    let (content, rest) ← stringContent? quote rest
    pure (c :: content, rest)

/-- A string between two quotation marks or two apostrophes on one line. -/
def scanString : Reader Token := fun
  | quote :: text =>
    if quote = '\x22' ∨ quote = '\x27' then
      (stringContent? quote text).map fun (content, rest) => (.string (String.ofList content), rest)
    else none
  | [] => none

def scanNumber : Reader Token := fun text =>
  (Number.readLiteral? text).map fun (literal, rest) => (.number literal.value, rest)

def scanLiteral : Reader Token := scanString <|> scanNumber

/-- Letters of all scripts, the underscore and the dollar sign begin a word. -/
def isWordStart (c : Char) : Bool := isAlphabetic c || c == '_' || c == '$'

/-- Numerals of all scripts may follow in a word. -/
def isWordPart (c : Char) : Bool := isAlphabetic c || isNumeral c || c == '_' || c == '$'

/-- A whole word: a keyword or an identifier. -/
def scanWord : Reader Token := do
  let first ← satisfy isWordStart
  let word := String.ofList (first :: (← takeWhile isWordPart))
  match Keyword.ofWord? word with
  | some reserved => pure (.keyword reserved)
  | none => pure (.identifier word)

/-- The operator with the longest symbol. -/
def scanOperator : Reader Token := fun text =>
  Operator.longestFirst.findSome? fun op =>
    (chars op.symbol.toList text).map fun (_, rest) => (.operator op, rest)

def scanDelimiter : Reader Token := fun
  | c :: rest => (Delimiter.all.find? (·.char == c)).map fun d => (.delimiter d, rest)
  | [] => none

/-- The next token. Comments precede operators, so that two slashes are no division, and literals
precede operators, so that a point before digits belongs to a number. -/
def scan : Reader Token :=
  scanWhitespace <|> scanNewline <|> scanComment <|> scanLiteral <|> scanWord <|> scanOperator <|>
    scanDelimiter

end Reckoner.Token
