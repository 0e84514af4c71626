import Reckoner.Library.Arithmetic

namespace Reckoner.Value

mutual

/-- All numbers in nested arrays, in their order. -/
def numbers : Value → List Float
  | .array items => itemNumbers items
  | v => [v.toNumber]

def itemNumbers : List Value → List Float
  | [] => []
  | item :: rest => numbers item ++ itemNumbers rest

end

mutual

/-- Applies a function to all numbers in nested arrays. -/
def mapNumbers (f : Float → Float) : Value → Value
  | .array items => .array (mapItemNumbers f items)
  | v => .number (f v.toNumber)

def mapItemNumbers (f : Float → Float) : List Value → List Value
  | [] => []
  | item :: rest => mapNumbers f item :: mapItemNumbers f rest

end

mutual

/-- Applies an operation to the numbers at equal places. Arrays that meet have to be of one length;
a single number meets every item of an array. -/
def zipNumbers (op : Float → Float → Float) : Value → Value → Except EvalError Value
  | .array xs, .array ys =>
    if xs.length ≠ ys.length then .error (.dimensionMismatch xs.length ys.length)
    else (zipItemNumbers op xs ys).map .array
  | .array xs, w => .ok (mapNumbers (op · w.toNumber) (.array xs))
  | v, w => .ok (mapNumbers (op v.toNumber) w)

def zipItemNumbers (op : Float → Float → Float) :
    List Value → List Value → Except EvalError (List Value)
  | x :: xs, y :: ys =>
    match zipNumbers op x y with
    | .error e => .error e
    | .ok z => (zipItemNumbers op xs ys).map (z :: ·)
  | _, _ => .ok []

end

/-- Combines all arguments from the first to the last. -/
def foldNumbers (op : Float → Float → Float) : List Value → Except EvalError Value
  | [] => .ok (.number Number.notANumber)
  | first :: rest => rest.foldlM (zipNumbers op) first

/-- Zero for a single number, one for a vector, two for an array that begins with an array. -/
def rank : Value → Nat
  | .array (.array _ :: _) => 2
  | .array _ => 1
  | _ => 0

/-- The items as numbers. -/
def vector : Value → List Float
  | .array items => items.map toNumber
  | v => [v.toNumber]

/-- The rows as vectors. -/
def matrix : Value → List (List Float)
  | .array rows => rows.map vector
  | v => [[v.toNumber]]

def ofNumbers (xs : List Float) : Value := .array (xs.map .number)

/-- The inner product of two vectors of one length. -/
def innerProduct (xs ys : List Float) : Except EvalError Float :=
  if xs.length ≠ ys.length then .error (.dimensionMismatch xs.length ys.length)
  else .ok (Number.sum (List.zipWith (· * ·) xs ys))

/-- The columns of a matrix, as many as its first row has items; rows that are shorter have NaN in
the places they lack. -/
def columns (rows : List (List Float)) : List (List Float) :=
  (List.range ((rows.head?.map List.length).getD 0)).map fun j =>
    rows.map fun row => row[j]?.getD Number.notANumber

/-- The product of numbers, vectors and matrices. -/
def dot (v w : Value) : Except EvalError Value :=
  match rank v, rank w with
  | 0, _ | _, 0 => zipNumbers (· * ·) v w
  | 1, 1 => (innerProduct (vector v) (vector w)).map .number
  | 2, 1 => ((matrix v).mapM (innerProduct · (vector w))).map ofNumbers
  | 1, _ =>
    if (vector v).length ≠ (matrix w).length then
      .error (.dimensionMismatch (vector v).length (matrix w).length)
    else ((columns (matrix w)).mapM (innerProduct (vector v))).map ofNumbers
  | _, _ =>
    ((matrix v).mapM fun row => ((columns (matrix w)).mapM (innerProduct row)).map ofNumbers).map
      .array

/-- The integer part of a number; zero for NaN. -/
def integerPart (x : Float) : Float := if x.isNaN then 0.0 else Number.trunc x

/-- Evenly spaced numbers from one to another. Without a count they are about one apart. -/
def linspace (start stop : Float) (count : Value) : Except EvalError Value :=
  let count := match count with
    | .undefined =>
      let n := Number.round (stop - start) + 1.0
      if n.isNaN then 1.0 else Number.greater n 1.0
    | v => integerPart v.toNumber
  if count.isNaN || count.isInf || count > 1e7 then .error .pointCount
  else if count < 2.0 then .ok (ofNumbers (if count == 1.0 then [start] else []))
  else
    let n := ((Number.toInt? count).getD 0).toNat
    let step := (stop - start) / Float.ofNat (n - 1)
    .ok (ofNumbers ((List.range n).map fun i => start + step * Float.ofNat i))

end Reckoner.Value
