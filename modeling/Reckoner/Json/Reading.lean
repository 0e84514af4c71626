import Reckoner.Json.Basic
import Reckoner.Number.Reading
import Reckoner.Text.Reader

namespace Reckoner.Json

open Text Text.Reader

/-- Takes the blanks of JSON. -/
def blanks : Reader Unit := do
  discard (takeWhile fun c => c == ' ' || c == '\n' || c == '\r' || c == '\t')

/-- Takes blanks and the given character. -/
def mark (c : Char) : Reader Unit := do blanks; char c

/-- Four hexadecimal digits. -/
def codeUnit : Reader Nat := fun text =>
  match (text.take 4).mapM (Number.digitValue? 16) with
  | some values => if values.length = 4 then some (Number.ofDigits 16 values, text.drop 4) else none
  | none => none

/-- The character of a code unit, or of a pair of surrogates of which the second follows. -/
def unicodeEscape : Reader Char := do
  let unit ← codeUnit
  if 0xd800 ≤ unit ∧ unit ≤ 0xdbff then
    chars ['\\', 'u']
    let second ← codeUnit
    check (0xdc00 ≤ second && second ≤ 0xdfff)
    pure (Char.ofNat (0x10000 + (unit - 0xd800) * 0x400 + (second - 0xdc00)))
  else
    check (!(0xdc00 ≤ unit && unit ≤ 0xdfff))
    pure (Char.ofNat unit)

/-- The characters that stand for another after a backslash. -/
def simpleEscape? : Char → Option Char
  | '\x22' => some '\x22'
  | '\\' => some '\\'
  | '/' => some '/'
  | 'b' => some '\x08'
  | 'f' => some '\x0c'
  | 'n' => some '\n'
  | 'r' => some '\r'
  | 't' => some '\t'
  | _ => none

/-- What follows a backslash. -/
def escape : Reader Char := do
  let c ← satisfy fun _ => true
  if c = 'u' then unicodeEscape
  else match simpleEscape? c with
    | some denoted => pure denoted
    | none => failure

/-- The rest of a string of at most `limit` characters after its opening quotation mark. -/
def stringBody : Nat → Reader (List Char)
  | 0 => failure
  | limit + 1 => do
    let c ← satisfy fun c => 0x20 ≤ c.toNat
    if c = '\x22' then pure []
    else if c = '\\' then
      let denoted ← escape
      return denoted :: (← stringBody limit)
    else return c :: (← stringBody limit)

/-- A string. -/
def stringLiteral : Reader String := do
  char '\x22'
  fun text => (do return String.ofList (← stringBody (text.length + 1)) : Reader String) text

/-- Takes the rest of a string without asking whether its escapes denote characters. -/
def skipStringBody : Nat → Reader Unit
  | 0 => failure
  | limit + 1 => do
    let c ← satisfy fun c => 0x20 ≤ c.toNat
    if c = '\x22' then pure ()
    else if c = '\\' then
      let c ← satisfy fun _ => true
      if c = 'u' then discard codeUnit
      else check (simpleEscape? c).isSome
      skipStringBody limit
    else skipStringBody limit

/-- Takes a string without asking whether its escapes denote characters. -/
def skipString : Reader Unit := do
  char '\x22'
  fun text => skipStringBody (text.length + 1) text

/-- The parts of a number as they are written. -/
structure Numeral where
  negative : Bool
  whole : List Char
  fraction : Option (List Char)
  exponent : Option (Bool × List Char)

/-- A number as it is written: no zero stands in front of other digits. -/
def numeral : Reader Numeral := do
  let negative ← match ← peek? with
    | some '-' => char '-'; pure true
    | _ => pure false
  let whole ← takeWhile1 Char.isDigit
  check (whole.length = 1 || whole.head? != some '0')
  let fraction ← match ← peek? with
    | some '.' => char '.'; some <$> takeWhile1 Char.isDigit
    | _ => pure none
  let exponent ← match ← peek? with
    | some c =>
      if c = 'e' ∨ c = 'E' then
        char c
        let down ← match ← peek? with
          | some '-' => char '-'; pure true
          | some '+' => char '+'; pure false
          | _ => pure false
        some <$> (down, ·) <$> takeWhile1 Char.isDigit
      else pure none
    | none => pure none
  pure ⟨negative, whole, fraction, exponent⟩

/-- Appends digits to a coefficient as long as it stays below `2 ^ 64`, and gives the digits that
are left. -/
def appendDigits (coefficient : Nat) : List Char → Nat × List Char
  | [] => (coefficient, [])
  | c :: rest =>
    let longer := coefficient * 10 + (c.toNat - '0'.toNat)
    if longer < Number.twoTo 64 then appendDigits longer rest else (coefficient, c :: rest)

/-- The number `x * 10 ^ exponent` by one multiplication or division, after divisions by `10 ^ 308`
as long as the exponent is below -308. There is none beyond the range of binary64. -/
def scale? : Nat → Float → Int → Option Float
  | 0, x, _ => some x
  | steps + 1, x, exponent =>
    if exponent.natAbs ≤ 308 then
      let power := Float.ofScientific 1 false exponent.natAbs
      if 0 ≤ exponent then
        let scaled := x * power
        if scaled.isInf then none else some scaled
      else some (x / power)
    else if x == 0.0 then some x
    else if 0 ≤ exponent then none
    else scale? steps (x / 1e308) (exponent + 308)

/-- The number that a numeral denotes. It is an integer if it is written like one and fits; else it
is computed from the digits that fit a coefficient below `2 ^ 64` and a power of ten. -/
def Numeral.number? (n : Numeral) : Option JsonNumber :=
  let (coefficient, left) := appendDigits 0 n.whole
  let float (x : Float) : JsonNumber := .float (Number.withSign n.negative x)
  if n.fraction.isNone && n.exponent.isNone && left.isEmpty then
    if !n.negative then some (.integer coefficient)
    else if 0 < coefficient ∧ coefficient ≤ Number.twoTo 63 then some (.integer (-coefficient))
    else some (float (Float.ofNat coefficient))
  else
    let fraction := n.fraction.getD []
    let (coefficient, unused) := appendDigits coefficient fraction
    let shift : Int := (left.length : Int) - (fraction.length - unused.length : Nat)
    match n.exponent with
    | none => (scale? 4 (Float.ofNat coefficient) shift).map float
    | some (down, digits) =>
      let size := Number.ofDecimalDigits digits
      if Number.twoTo 31 ≤ size then
        if coefficient ≠ 0 ∧ !down then none else some (float 0.0)
      else
        let exponent := if down then shift - size else shift + size
        (scale? 4 (Float.ofNat coefficient) exponent).map float

mutual

/-- A document, with at most `limit` steps of nesting and sequence. -/
def value : Nat → Reader Json
  | 0 => failure
  | limit + 1 => do
    blanks
    match ← peek? with
    | some 'n' => chars "null".toList; pure .null
    | some 't' => chars "true".toList; pure (.bool true)
    | some 'f' => chars "false".toList; pure (.bool false)
    | some '\x22' => return .string (← stringLiteral)
    | some '[' =>
      char '['
      blanks
      match ← peek? with
      | some ']' => char ']'; pure (.array [])
      | _ => return .array (← items limit)
    | some '\x7b' =>
      char '\x7b'
      blanks
      match ← peek? with
      | some '\x7d' => char '\x7d'; pure (.object [])
      | _ => return .object (← members limit)
    | _ =>
      let n ← numeral
      match n.number? with
      | some n => pure (.number n)
      | none => failure

/-- The rest of an array from an item on. -/
def items : Nat → Reader (List Json)
  | 0 => failure
  | limit + 1 => do
    let item ← value limit
    blanks
    match ← peek? with
    | some ',' => char ','; return item :: (← items limit)
    | _ => char ']'; pure [item]

/-- The rest of an object from a member on. -/
def members : Nat → Reader (List (String × Json))
  | 0 => failure
  | limit + 1 => do
    blanks
    let name ← stringLiteral
    mark ':'
    let value ← value limit
    blanks
    match ← peek? with
    | some ',' => char ','; return (name, value) :: (← members limit)
    | _ => char '\x7d'; pure [(name, value)]

end

mutual

/-- Takes a document of which only the form matters: numbers may be out of range and escapes may
denote no character. -/
def skipValue : Nat → Reader Unit
  | 0 => failure
  | limit + 1 => do
    blanks
    match ← peek? with
    | some 'n' => chars "null".toList
    | some 't' => chars "true".toList
    | some 'f' => chars "false".toList
    | some '\x22' => skipString
    | some '[' =>
      char '['
      blanks
      match ← peek? with
      | some ']' => char ']'
      | _ => skipItems limit
    | some '\x7b' =>
      char '\x7b'
      blanks
      match ← peek? with
      | some '\x7d' => char '\x7d'
      | _ => skipMembers limit
    | _ => discard numeral

/-- Takes the rest of an array from an item on. -/
def skipItems : Nat → Reader Unit
  | 0 => failure
  | limit + 1 => do
    skipValue limit
    blanks
    match ← peek? with
    | some ',' => char ','; skipItems limit
    | _ => char ']'

/-- Takes the rest of an object from a member on. -/
def skipMembers : Nat → Reader Unit
  | 0 => failure
  | limit + 1 => do
    blanks
    skipString
    mark ':'
    skipValue limit
    blanks
    match ← peek? with
    | some ',' => char ','; skipMembers limit
    | _ => char '\x7d'

end

/-- Takes a document of which only the form matters. -/
def skip : Reader Unit := fun text => skipValue (text.length + 1) text

/-- Reads a document with blanks around it. -/
def read? (s : String) : Option Json :=
  let text := s.toList
  (do let document ← value (text.length + 1); blanks; pure document : Reader Json).readAll? text

end Reckoner.Json
