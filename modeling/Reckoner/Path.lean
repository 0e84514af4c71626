import Reckoner.Number.Reading
import Reckoner.Text.Digit
import Reckoner.Value.Basic

namespace Reckoner

/-- A step into an object or an array. -/
inductive Segment where
  | key (name : String)
  | index (i : Nat)
deriving DecidableEq, Repr

/-- A path into nested objects and arrays. -/
abbrev Path := List Segment

namespace Path

/-- A point or a square bracket. -/
def isMark (c : Char) : Bool := c == '.' || c == '[' || c == ']'

/-- The step that digits in brackets spell: an index, if they are ASCII digits and it fits 64
bits. -/
def bracketed (digits : List Char) : Segment :=
  let i := Number.ofDecimalDigits digits
  if digits.all Char.isDigit && i < Number.twoTo 64 then .index i else .key (String.ofList digits)

/-- The steps in a text of at most `limit` characters: runs without marks, and digits of any script
in brackets. Other marks are skipped. -/
def stepsFrom : Nat → List Char → Path
  | 0, _ | _, [] => []
  | limit + 1, c :: rest =>
    if isMark c then
      let digits := rest.takeWhile Text.isDecimalDigit
      match c, rest.dropWhile Text.isDecimalDigit with
      | '[', ']' :: behind =>
        if digits.isEmpty then stepsFrom limit rest else bracketed digits :: stepsFrom limit behind
      | _, _ => stepsFrom limit rest
    else
      .key (String.ofList (c :: rest.takeWhile (!isMark ·))) ::
        stepsFrom limit (rest.dropWhile (!isMark ·))

/-- The path that a text spells. A text without points and opening brackets, or without steps, is a
single key. -/
def ofText (s : String) : Path :=
  let text := s.toList
  if text.any fun c => c == '.' || c == '[' then
    match stepsFrom text.length text with
    | [] => [.key s]
    | path => path
  else [.key s]

end Path

namespace Value

/-- Sets an item of an array. Missing items before it become `null`. -/
def setItem (items : List Value) (i : Nat) (v : Value) : List Value :=
  (items ++ List.replicate (i + 1 - items.length) Value.null).set i v

/-- Sets the value at a path. A key turns what is no object into one, and an index what is neither
object nor array into an array; in an object an index is a key. The length of an array has no bound
here, which is exact as long as the number behind each index fits a word; `setAt?` is for all indices. -/
def setAt (target : Value) : Path → Value → Value
  | [], v => v
  | .key name :: rest, v =>
    let fields : Dict Value := match target with
      | .object fields => fields
      | _ => []
    .object (fields.insert name (setAt ((fields.find? name).getD Value.null) rest v))
  | .index i :: rest, v =>
    match target with
    | .object fields =>
      let fields : Dict Value := fields
      let name := toString i
      .object (fields.insert name (setAt ((fields.find? name).getD Value.null) rest v))
    | .array items => .array (setItem items i (setAt (items[i]?.getD Value.null) rest v))
    | _ => .array (setItem [] i (setAt Value.null rest v))

/-- Sets an item of an array whose length is counted in a word of 64 bits. None if the item lies
outside of the array that is made. -/
def setItem? (items : List Value) (i : Nat) (v : Value) : Option (List Value) :=
  let length := (UInt64.ofNat i + 1).toNat
  let missing := List.replicate (length - items.length) Value.null
  let grown := if items.length ≤ i then items.take length ++ missing else items
  if i < grown.length then some (grown.set i v) else none

/-- Sets the value at a path as `setAt` does, with array lengths in words of 64 bits. None if some
item on the way lies outside of its array. -/
def setAt? (target : Value) : Path → Value → Option Value
  | [], v => some v
  | .key name :: rest, v => do
    let fields : Dict Value := match target with
      | .object fields => fields
      | _ => []
    let part ← setAt? ((fields.find? name).getD Value.null) rest v
    return .object (fields.insert name part)
  | .index i :: rest, v =>
    match target with
    | .object fields => do
      let fields : Dict Value := fields
      let name := toString i
      let part ← setAt? ((fields.find? name).getD Value.null) rest v
      return .object (fields.insert name part)
    | .array items => do
      let part ← setAt? (items[i]?.getD Value.null) rest v
      (setItem? items i part).map .array
    | _ => do
      let part ← setAt? Value.null rest v
      (setItem? [] i part).map .array

end Value

/-- The nested object of a flat one, whose keys are paths. They are set in ascending order, so that
later ones replace what earlier ones left. As for `setAt`, lengths of arrays have no bound. -/
def unflatten (flat : Dict Value) : Value :=
  flat.foldl (fun target (path, v) => target.setAt (Path.ofText path) v) (.object [])

/-- The nested object of a flat one, with array lengths in words of 64 bits. -/
def unflatten? (flat : Dict Value) : Option Value :=
  flat.foldlM (fun target (path, v) => target.setAt? (Path.ofText path) v) (.object [])

end Reckoner
