import Reckoner.Library.Call

namespace Reckoner

namespace Builtin

/-- The function of `Math` in place of one that does the same with every number in nested arrays. -/
def plainForm : Builtin → Builtin
  | elementwise f => scalar f
  | pairwise .pow => power
  | f => f

/-- All functions that scripts reach: those of the two libraries and the global ones. -/
def catalogue : List Builtin :=
  Library.math.functions ++ Library.numeric.functions ++ globals.filterMap fun entry =>
    match entry.2 with
    | .function f => some f
    | _ => none

/-- The first function of a name is the plain form of any function of that name. -/
theorem find?_name (f : Builtin) : catalogue.find? (·.name == f.name) = some f.plainForm := by
  cases f with
  | scalar e => cases e <;> rfl
  | elementwise e => cases e <;> rfl
  | pairwise op => cases op <;> rfl
  | _ => rfl

/-- Functions of one name differ in their plain forms at most. -/
theorem name_eq_iff (f g : Builtin) : f.name = g.name ↔ f.plainForm = g.plainForm := by
  constructor
  · intro named
    have found := find?_name f
    rw [named, find?_name g] at found
    exact (Option.some.inj found).symm
  · intro same
    have plain (f : Builtin) : f.plainForm.name = f.name := by
      cases f with
      | pairwise op => cases op <;> rfl
      | _ => rfl
    rw [← plain f, ← plain g, same]

/-- Arguments that do not tell a function from its namesake in the other library: no array where an array would be gone
through, and two arguments for powers. -/
def Undivided (args : List Value) : Builtin → Prop
  | scalar _ | elementwise _ => ∀ items, argument args 0 ≠ .array items
  | power | pairwise .pow => ∃ v w, args = [v, w] ∧ ∀ items, v ≠ .array items ∧ w ≠ .array items
  | _ => True

theorem mapNumbers_of_ne_array (f : Float → Float) {v : Value} (single : ∀ items, v ≠ .array items) :
    v.mapNumbers f = .number (f v.toNumber) := by
  cases v with
  | array items => exact absurd rfl (single items)
  | _ => rfl

theorem zipNumbers_of_ne_array (op : Float → Float → Float) {v w : Value} (left : ∀ items, v ≠ .array items)
    (right : ∀ items, w ≠ .array items) : Value.zipNumbers op v w = .ok (.number (op v.toNumber w.toNumber)) := by
  rw [Value.zipNumbers, mapNumbers_of_ne_array _ right]
  · exact left
  · exact fun xs _ array _ => left xs array

theorem call_plainForm {f : Builtin} {args : List Value} (undivided : f.Undivided args) :
    f.plainForm.call args = f.call args := by
  cases f with
  | elementwise e =>
    simp only [plainForm, call]
    rw [mapNumbers_of_ne_array _ undivided]
  | pairwise op =>
    cases op with
    | pow =>
      obtain ⟨v, w, rfl, single⟩ := undivided
      have left (items : List Value) := (single items).1
      have right (items : List Value) := (single items).2
      simp only [plainForm, call, Value.foldNumbers, List.foldlM_cons, List.foldlM_nil, bind_pure,
        zipNumbers_of_ne_array _ left right]
      rfl
    | _ => rfl
  | _ => rfl

end Builtin

end Reckoner
