namespace Reckoner.Text

/-- Closed intervals of code points. -/
abbrev CodeRanges := Array (Nat × Nat)

/-- Some interval holds the character. -/
def CodeRanges.contains (table : CodeRanges) (c : Char) : Bool :=
  table.any fun (low, high) => low ≤ c.toNat && c.toNat ≤ high

/-- A character below U+0080. -/
def isAscii (c : Char) : Bool := c.toNat < 0x80

end Reckoner.Text
