import Reckoner.Number.Binary

namespace Reckoner.Number

def cube (n : Nat) : Nat := n * n * n

/-- The greatest number with a cube of at most `n` among `root` and the `2 ^ bits - 1` numbers behind
it, if the cube of `root` is at most `n`. The binary digits are settled from the highest one on. -/
def wholeCubeRootFrom (n : Nat) : Nat → Nat → Nat
  | 0, root => root
  | bits + 1, root =>
    let larger := root + twoTo bits
    wholeCubeRootFrom n bits (if cube larger ≤ n then larger else root)

/-- The number nearest to the cube root. The radicand is taken as `n * 8 ^ e` with `n` from `2 ^ 156`
up and below `2 ^ 159`, so that the integer part of the root of `n` has 53 binary digits. No root
lies halfway between two numbers. -/
def cubeRoot (x : Float) : Float :=
  match exact x with
  | .finite negative significand exponent =>
    if significand = 0 then x
    else
      let e := Int.fdiv (significand.log2 + exponent) 3 - 52
      let n := significand * twoTo (exponent - 3 * e).toNat
      let root := wholeCubeRootFrom n 53 0
      ofParts negative (if cube (2 * root + 1) < 8 * n then root + 1 else root) e
  | _ => x

end Reckoner.Number
