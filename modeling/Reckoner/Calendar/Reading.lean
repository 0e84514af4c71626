import Reckoner.Calendar.Instant
import Reckoner.Number.Reading
import Reckoner.Text.Blank
import Reckoner.Text.Reader

namespace Reckoner.Calendar

open Text Text.Reader

/-- Takes the longest run of at least `least` and at most `most` digits. -/
def number (least : Nat) (most : Option Nat) : Reader Nat := fun text =>
  let run := text.takeWhile Char.isDigit
  let run := match most with
    | some n => run.take n
    | none => run
  if run.length < least then none
  else some (Number.ofDecimalDigits run, text.drop run.length)

/-- The number of digits at the front of the text. -/
def runLength : Reader Nat := fun text => some ((text.takeWhile Char.isDigit).length, text)

/-- Takes blanks, if there are any. -/
def blanks : Reader Unit := fun text => some ((), trimStart text)

/-- Takes one or more blanks. -/
def space : Reader Unit := do
  discard (satisfy isBlank)
  blanks

/-- Up to nine digits of a fraction of a second, as nanoseconds; more are ignored. -/
def nanoseconds : Reader Nat := do
  let length := min 9 (← runLength)
  let value ← number 1 (some 9)
  discard (number 0 none)
  pure (value * Number.tenTo (9 - length))

/-- The fraction of a second, if a point follows. -/
def fraction : Reader Nat := do
  match ← peek? with
  | some '.' => char '.'; nanoseconds
  | _ => pure 0

/-- A number in a field of limited width, after blanks. -/
def field (width : Nat) : Reader Nat := do
  blanks
  number 1 (some width)

/-- A year of up to four digits, or of any length after a sign. -/
def year : Reader Int := do
  blanks
  match ← peek? with
  | some '-' => char '-'; return -(← number 1 none : Nat)
  | some '+' => char '+'; return (← number 1 none : Nat)
  | _ => return (← number 1 (some 4) : Nat)

/-- A date and a time of day before they are checked. -/
structure Moment where
  date : Date
  hour : Nat
  minute : Nat
  second : Nat
  nanos : Nat
deriving DecidableEq, Repr

/-- The instant of a moment at an offset east of Greenwich in seconds. Second 60 is a leap second.
The date has to lie in range before and after the offset is taken off. -/
def Moment.instant? (m : Moment) (offset : Int) : Option Instant :=
  if m.date.IsValid ∧ m.hour < 24 ∧ m.minute < 60 ∧ m.second ≤ 60 then
    let second := min m.second 59
    let nanos := if m.second = 60 then 1000000000 + m.nanos else m.nanos
    let local_ := m.date.toDays * 86400 + (m.hour * 3600 + m.minute * 60 + second : Nat)
    Instant.inRange? ⟨local_ - offset, nanos⟩
  else none

/-- A sign, two digits of hours, and two digits of minutes after what `between` takes, as seconds.
The minus sign U+2212 counts where `mathMinus` is set. -/
def offset (between : Reader Unit) (mathMinus : Bool) : Reader Int := do
  let sign ← satisfy fun c => c == '+' || c == '-' || (mathMinus && c == '−')
  let hours ← number 2 (some 2)
  between
  let minutes ← number 2 (some 2)
  check (minutes < 60)
  let seconds : Int := (hours * 3600 + minutes * 60 : Nat)
  pure (if sign == '+' then seconds else -seconds)

/-- The internet date format `2020-02-29T12:30:00.5+01:00`. -/
def internetFormat : Reader (Option Instant) := do
  let year ← number 4 (some 4)
  char '-'
  let month ← number 2 (some 2)
  char '-'
  let day ← number 2 (some 2)
  discard (satisfy fun c => c == 'T' || c == 't' || c == ' ')
  let hour ← number 2 (some 2)
  char ':'
  let minute ← number 2 (some 2)
  char ':'
  let second ← number 2 (some 2)
  let nanos ← fraction
  let east ← match ← peek? with
    | some 'Z' => char 'Z'; pure 0
    | some 'z' => char 'z'; pure 0
    | _ => offset (char ':') true
  check (east.natAbs < 86400)
  pure ((Moment.mk ⟨year, month, day⟩ hour minute second nanos).instant? east)

/-- The position in a list of names of the first three characters, in either case. -/
def nameIndex (names : List String) : Reader Nat := fun text =>
  let name := String.ofList ((text.take 3).map Char.toLower)
  (names.findIdx? (· == name)).map (·, text.drop 3)

def monthNames : List String :=
  ["jan", "feb", "mar", "apr", "may", "jun", "jul", "aug", "sep", "oct", "nov", "dec"]

def dayNames : List String := ["sun", "mon", "tue", "wed", "thu", "fri", "sat"]

/-- Hours east of Greenwich of a zone name in lower case. The military letters count as zero. -/
def zoneHours? (name : String) : Option Int :=
  match name with
  | "gmt" | "ut" | "z" => some 0
  | "edt" => some (-4)
  | "est" | "cdt" => some (-5)
  | "cst" | "mdt" => some (-6)
  | "mst" | "pdt" => some (-7)
  | "pst" => some (-8)
  | _ =>
    match name.toList with
    | [c] => if c ≠ 'j' then some 0 else none
    | _ => none

/-- A zone name, or a sign and four digits. -/
def mailZone : Reader Int := fun text =>
  let name := text.takeWhile Char.isAlpha
  if name.isEmpty then offset (pure ()) false text
  else (zoneHours? (String.ofList (name.map Char.toLower))).map fun hours =>
    (hours * 3600, text.drop name.length)

/-- What follows the comment whose opening parentheses are `depth` deep; a backslash protects the
next character. -/
def afterComment (depth : Nat) : List Char → Option (List Char)
  | [] => none
  | ['\\'] => none
  | '\\' :: _ :: rest => afterComment depth rest
  | '(' :: rest => afterComment (depth + 1) rest
  | ')' :: rest => if depth ≤ 1 then some rest else afterComment (depth - 1) rest
  | _ :: rest => afterComment depth rest

/-- Takes as many comments as follow, up to `limit`. A comment that does not close stays. -/
def skipComments : Nat → List Char → List Char
  | 0, text => text
  | limit + 1, text =>
    match trimStart text with
    | '(' :: rest =>
      match afterComment 1 rest with
      | some rest => skipComments limit rest
      | none => text
    | _ => text

/-- Years of two or three digits belong to the decades from 1950 on. -/
def mailYear (length year : Nat) : Int :=
  if length = 2 then if year < 50 then year + 2000 else year + 1900
  else if length = 3 then year + 1900
  else year

/-- The mail date format `Tue, 1 Jul 2003 10:52:37 +0200`. A day name, if there is one, has to be
that of the date. -/
def mailFormat : Reader (Option Instant) := do
  blanks
  let dayName ← fun text => match nameIndex dayNames text with
    | some (index, rest) => some (some index, rest)
    | none => some (none, text)
  if dayName.isSome then char ','
  blanks
  let day ← number 1 (some 2)
  space
  let month ← nameIndex monthNames
  space
  let length ← runLength
  let year ← number 2 none
  space
  let hour ← number 2 (some 2)
  blanks
  char ':'
  blanks
  let minute ← number 2 (some 2)
  let second ← fun text => match trimStart text with
    | ':' :: rest => number 2 (some 2) rest
    | _ => some (0, text)
  space
  let east ← mailZone
  modify fun text => skipComments text.length text
  check (east.natAbs < 86400)
  let date : Date := ⟨mailYear length year, month + 1, day⟩
  check (dayName.all (· == weekday date.toDays))
  pure ((Moment.mk date hour minute second 0).instant? east)

def dashedDate : Reader Date := do
  let year ← year
  char '-'
  let month ← field 2
  char '-'
  let day ← field 2
  pure ⟨year, month, day⟩

def clock : Reader (Nat × Nat) := do
  let hour ← field 2
  char ':'
  let minute ← field 2
  pure (hour, minute)

/-- A date, a separator, hours and minutes, and seconds with an optional fraction. -/
def secondsFormat (separator : Reader Unit) : Reader (Option Instant) := do
  let date ← dashedDate
  separator
  let (hour, minute) ← clock
  char ':'
  let second ← field 2
  let nanos ← fraction
  pure ((Moment.mk date hour minute second nanos).instant? 0)

/-- A date, a separator, hours and minutes. -/
def minutesFormat (separator : Reader Unit) : Reader (Option Instant) := do
  let date ← dashedDate
  separator
  let (hour, minute) ← clock
  pure ((Moment.mk date hour minute 0 0).instant? 0)

/-- A date alone is its first instant. -/
def dateFormat (date : Reader Date) : Reader (Option Instant) := do
  pure ((Moment.mk (← date) 0 0 0 0).instant? 0)

/-- The date `2020/2/29`. -/
def slashedDate : Reader Date := do
  let year ← year
  char '/'
  let month ← field 2
  char '/'
  let day ← field 2
  pure ⟨year, month, day⟩

/-- The date `2/29/2020`. -/
def monthFirstDate : Reader Date := do
  let month ← field 2
  char '/'
  let day ← field 2
  char '/'
  let year ← year
  pure ⟨year, month, day⟩

/-- The spellings of an instant, in the order in which they are tried. Without an offset a time is
universal time. -/
def formats : List (Reader (Option Instant)) :=
  [internetFormat, mailFormat,
    secondsFormat (char 'T'), minutesFormat (char 'T'), secondsFormat blanks, minutesFormat blanks,
    dateFormat dashedDate, dateFormat slashedDate, dateFormat monthFirstDate]

/-- Reads an instant, apart from blanks around it, in the first format that fits. -/
def read? (s : String) : Option Instant :=
  let text := trim s.toList
  formats.findSome? fun format => (format.readAll? text).join

end Reckoner.Calendar
