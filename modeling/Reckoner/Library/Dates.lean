import Reckoner.Calendar.Reading
import Reckoner.Library.Vector

namespace Reckoner.Value

open Calendar

/-- The instant that a value stands for: a time value, a text, or the text of a container. -/
def toInstant? : Value → Option Instant
  | .date t => some t
  | .null => Instant.ofTimeValue? 0.0
  | .bool b => Instant.ofTimeValue? (if b then 1.0 else 0.0)
  | .number x => Instant.ofTimeValue? x
  | .string s => read? s
  | .array items => read? (text (.array items))
  | .object fields => read? (text (.object fields))
  | .undefined | .function _ | .library _ => none

/-- The remainder of a floored division by a positive number. -/
def floorRemainder (x y : Float) : Float :=
  let r := Number.remainder x y
  if r < 0.0 then r + y else r

/-- The first instant of a month, counted from zero and in any number of years. Years from 0 to 99
belong to the twentieth century. -/
def monthStart? (year month : Float) : Option Instant :=
  let year := if 0.0 ≤ year ∧ year ≤ 99.0 then 1900.0 + year else year
  let months := year * 12.0 + month
  match Number.toInt? (Number.floor (months / 12.0)),
    Number.toInt? (floorRemainder months 12.0) with
  | some year, some month =>
    if firstYear ≤ year ∧ year ≤ lastYear then
      some ⟨(Date.mk year (month.toNat + 1) 1).toDays * 86400, 0⟩
    else none
  | _, _ => none

/-- The date of a year, a month from zero, a day, hours, minutes, seconds and milliseconds, of which
the later ones may be missing. -/
def dateOfParts (parts : List Float) : Except EvalError Value :=
  let part (i : Nat) (missing : Float) : Float := parts[i]?.getD missing
  let fields := [part 0 Number.notANumber, part 1 0.0, part 2 1.0, part 3 0.0, part 4 0.0,
    part 5 0.0, part 6 0.0]
  if fields.any fun x => x.isNaN || x.isInf then .error .invalidTime
  else match fields.map Number.trunc with
    | [year, month, day, hours, minutes, seconds, millis] =>
      match monthStart? year month with
      | none => .error .invalidTime
      | some start =>
        let time := start.timeValue + (day - 1.0) * 86400000.0 + hours * 3600000.0 +
          minutes * 60000.0 + seconds * 1000.0 + millis
        match Instant.ofTimeValue? time with
        | some t => .ok (.date t)
        | none => .error .invalidTime
    | _ => .error .invalidTime

/-- The date that `new Date` makes. There is no clock, so arguments are needed. -/
def makeDate : List Value → Except EvalError Value
  | [] => .error .missingTime
  | [v] =>
    match v.toInstant? with
    | some t => .ok (.date t)
    | none => .error .invalidTime
  | parts => dateOfParts (parts.map toNumber)

end Reckoner.Value
