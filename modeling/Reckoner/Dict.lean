namespace Reckoner

/-- Values by name, in ascending order of the names. -/
abbrev Dict (α : Type) := List (String × α)

namespace Dict

variable {α : Type}

def find? (d : Dict α) (key : String) : Option α := d.lookup key

def contains (d : Dict α) (key : String) : Bool := (d.find? key).isSome

def keys (d : Dict α) : List String := d.map (·.1)

/-- Sets the value of a name, in its place in the order. -/
def insert (key : String) (value : α) : Dict α → Dict α
  | [] => [(key, value)]
  | (k, v) :: rest =>
    if key < k then (key, value) :: (k, v) :: rest
    else if key = k then (key, value) :: rest
    else (k, v) :: insert key value rest

/-- The last value of each name. -/
def ofList (entries : List (String × α)) : Dict α :=
  entries.foldl (fun d (key, value) => d.insert key value) []

/-- The names ascend, and each occurs once. -/
def Sorted (d : Dict α) : Prop := d.Pairwise (·.1 < ·.1)

end Dict

end Reckoner
