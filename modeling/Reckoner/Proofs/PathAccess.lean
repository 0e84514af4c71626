import Mathlib.Algebra.Group.Nat.Defs
import Reckoner.Proofs.Dictionary
import Reckoner.Path

namespace Reckoner

/-- The name that a step has in an object. -/
def Segment.name : Segment → String
  | .key name => name
  | .index i => toString i

namespace Value

/-- The part of a value that a step leads to: a field of an object, where an index is a name, or an item of an array. -/
def child? : Value → Segment → Option Value
  | .object fields, step => Dict.find? fields step.name
  | .array items, .index i => items[i]?
  | _, _ => none

/-- The value at a path. -/
def getAt? (target : Value) : Path → Option Value
  | [] => some target
  | step :: rest => (target.child? step).bind (getAt? · rest)

/-- The container that a step writes to. -/
def opened (target : Value) : Segment → Value
  | .key _ =>
    match target with
    | .object fields => .object fields
    | _ => .object []
  | .index _ =>
    match target with
    | .object fields => .object fields
    | .array items => .array items
    | _ => .array []

/-- Replaces a part of a container, or adds it. -/
def setChild : Value → Segment → Value → Value
  | .object fields, step, v => .object (Dict.insert step.name v fields)
  | .array items, .index i, v => .array (setItem items i v)
  | other, _, _ => other

/-- Two steps lead to the same part of a value. -/
def SameSlot : Value → Segment → Segment → Prop
  | .object _, s, t => s.name = t.name
  | _, s, t => s = t

/-- Two paths lead to the same place of a value by the same parts of it. -/
inductive SamePlace : Value → Path → Path → Prop
  | nil (target : Value) : SamePlace target [] []
  | cons {target part : Value} {s t : Segment} {p q : Path} :
      target.SameSlot s t → target.child? t = some part → SamePlace part p q → SamePlace target (s :: p) (t :: q)

/-- A path leads to a place on the way of another one, or to its end. -/
def Precedes (target : Value) (p q : Path) : Prop := ∃ front behind, q = front ++ behind ∧ target.SamePlace p front

/-- A path leaves another one at an array, and goes on with a key there. -/
def LeavesItems (target : Value) (p q : Path) : Prop :=
  ∃ front name behind front' step behind' items, p = front ++ .key name :: behind ∧ q = front' ++ step :: behind' ∧
    target.SamePlace front front' ∧ target.getAt? front' = some (.array items)

/-- A step leads to an item that is not there, and the length of an array that has it does not fit a word of 64 bits. In
an object an index is a name, and takes no room. -/
def LacksRoom : Value → Segment → Prop
  | .object _, _ => False
  | _, .key _ => False
  | target, .index i => target.child? (.index i) = none ∧ 2 ^ 64 ≤ i + 1

/-- A step of a path lacks room in the value that the steps before it lead to. -/
def Overflows : Value → Path → Prop
  | _, [] => False
  | target, step :: rest => target.LacksRoom step ∨ Overflows (((target.opened step).child? step).getD .null) rest

/-- Replaces a part of a container, or adds it, with array lengths in words of 64 bits. -/
def setChild? : Value → Segment → Value → Option Value
  | .array items, .index i, v => (setItem? items i v).map .array
  | target, step, v => some (target.setChild step v)

section Children

variable {target part v : Value} {s t : Segment}

theorem SameSlot.symm (same : target.SameSlot s t) : target.SameSlot t s := by
  cases target <;> exact Eq.symm same

theorem SameSlot.child?_eq (same : target.SameSlot s t) : target.child? s = target.child? t := by
  cases target with
  | object fields => exact congrArg (Dict.find? fields) same
  | _ =>
    obtain rfl : s = t := same
    rfl

theorem setAt_cons (target : Value) (step : Segment) (rest : Path) (v : Value) : target.setAt (step :: rest) v =
    (target.opened step).setChild step ((((target.opened step).child? step).getD .null).setAt rest v) := by
  cases step <;> cases target <;> rfl

theorem setItem_getElem?_self (items : List Value) (i : ℕ) (v : Value) : (setItem items i v)[i]? = some v := by
  rw [setItem, List.getElem?_set_self]
  rw [List.length_append, List.length_replicate]
  omega

/-- Items that are there stay. -/
theorem setItem_getElem?_of_ne {items : List Value} {i j : ℕ} (different : i ≠ j) (found : items[j]? = some part) :
    (setItem items i v)[j]? = some part := by
  rw [setItem, List.getElem?_set_ne different, List.getElem?_append_left (List.getElem?_eq_some_iff.1 found).1, found]

theorem child?_setChild_self (target : Value) (step : Segment) (v : Value) :
    ((target.opened step).setChild step v).child? step = some v := by
  have field (fields : Dict Value) : (Value.setChild (.object fields) step v).child? step = some v := by
    rw [setChild, child?, Dict.find?_insert, if_pos rfl]
  cases step with
  | key name => cases target <;> exact field _
  | index i =>
    cases target with
    | object fields => exact field fields
    | _ => exact setItem_getElem?_self ..

theorem child?_setChild_same (slot : target.SameSlot s t) : ((target.opened s).setChild s v).child? t = some v := by
  cases target with
  | object fields =>
    have field : (Value.setChild (.object fields) s v).child? t = some v := by
      rw [setChild, child?, Dict.find?_insert, if_pos (Eq.symm slot)]
    cases s <;> exact field
  | _ =>
    obtain rfl : s = t := slot
    exact child?_setChild_self ..

/-- The part that is there in the container that is written to. -/
theorem child?_opened (same : target.SameSlot s t) (found : target.child? t = some part) :
    (target.opened s).child? s = some part := by
  rw [← same.child?_eq] at found
  cases target with
  | object => cases s <;> exact found
  | array =>
    cases s with
    | key => cases found
    | index => exact found
  | _ => cases found

/-- The other parts stay, unless an array becomes an object. -/
theorem child?_setChild_other (different : ¬target.SameSlot s t) (found : target.child? t = some part)
    (kept : ∀ name items, s = .key name → target ≠ .array items) :
    ((target.opened s).setChild s v).child? t = some part := by
  cases target with
  | object fields =>
    have field : (Value.setChild (.object fields) s v).child? t = some part := by
      rw [setChild, child?, Dict.find?_insert, if_neg fun same => different (Eq.symm same)]
      exact found
    cases s <;> exact field
  | array items =>
    cases s with
    | key name => exact absurd rfl (kept name items rfl)
    | index i =>
      cases t with
      | key => cases found
      | index j => exact setItem_getElem?_of_ne (fun same => different (congrArg Segment.index same)) found
  | _ => cases found

end Children

section Paths

variable {target part v u : Value} {s t : Segment} {path other p q : Path}

theorem getAt?_cons (found : target.child? s = some part) : target.getAt? (s :: p) = part.getAt? p := by
  rw [getAt?, found, Option.bind_some]

theorem Precedes.cons (slot : target.SameSlot s t) (found : target.child? t = some part) (before : part.Precedes p q) :
    target.Precedes (s :: p) (t :: q) := by
  obtain ⟨front, behind, rfl, same⟩ := before
  exact ⟨t :: front, behind, rfl, .cons slot found same⟩

theorem LeavesItems.cons (slot : target.SameSlot s t) (found : target.child? t = some part)
    (leaves : part.LeavesItems p q) : target.LeavesItems (s :: p) (t :: q) := by
  obtain ⟨front, name, behind, front', step, behind', items, rfl, rfl, same, array⟩ := leaves
  refine ⟨s :: front, name, behind, t :: front', step, behind', items, rfl, rfl, .cons slot found same, ?_⟩
  rw [getAt?_cons found, array]

/-- What is set at a path is found there. -/
theorem getAt?_setAt_self (target : Value) (path : Path) (v : Value) : (target.setAt path v).getAt? path = some v := by
  induction path generalizing target with
  | nil => rfl
  | cons step rest ih => rw [setAt_cons, getAt?_cons (child?_setChild_self ..), ih]

/-- A place that is found before is found afterwards, unless it lies on the way of the path, or beyond its end, or in an
array that a key turns into an object. As long as both paths go on in the same part, the second one finds there what the
first one leaves; where they part, the container keeps its other parts. -/
theorem getAt?_setAt_other (found : target.getAt? other = some u) (behind : ¬target.Precedes path other)
    (before : ¬target.Precedes other path) (kept : ¬target.LeavesItems path other) :
    (target.setAt path v).getAt? other = some u := by
  induction path generalizing target other with
  | nil => exact absurd ⟨[], other, rfl, .nil target⟩ behind
  | cons s p ih =>
    cases other with
    | nil => exact absurd ⟨[], s :: p, rfl, .nil target⟩ before
    | cons t q =>
      obtain ⟨part, step, found⟩ := Option.bind_eq_some_iff.1 found
      rw [setAt_cons]
      by_cases slot : target.SameSlot s t
      · rw [child?_opened slot step, Option.getD_some, getAt?_cons (child?_setChild_same slot)]
        exact ih found (fun before' => behind (before'.cons slot step))
          (fun before' => before (before'.cons slot.symm (slot.child?_eq.trans step)))
          (fun leaves => kept (leaves.cons slot step))
      · refine (getAt?_cons (child?_setChild_other slot step ?_)).trans found
        rintro name items rfl rfl
        exact kept ⟨[], name, p, [], t, q, items, rfl, rfl, .nil _, rfl⟩

end Paths

section Words

variable {target result v : Value} {step : Segment} {path rest : Path}

theorem toNat_succ {i : ℕ} (fits : i + 1 < 2 ^ 64) : (UInt64.ofNat i + 1).toNat = i + 1 := by
  rw [UInt64.toNat_add, UInt64.toNat_ofNat', UInt64.toNat_one, Nat.mod_eq_of_lt (by omega : i < 2 ^ 64),
    Nat.mod_eq_of_lt fits]

/-- An item that is there is replaced, and one that is not needs the length of an array that ends with it. -/
theorem setItem?_eq {items : List Value} {i : ℕ} (room : i < items.length ∨ i + 1 < 2 ^ 64) (v : Value) :
    setItem? items i v = some (setItem items i v) := by
  unfold setItem? setItem
  dsimp only
  by_cases there : i < items.length
  · rw [if_neg (Nat.not_le.2 there), if_pos there, Nat.sub_eq_zero_of_le there, List.replicate_zero, List.append_nil]
  · rw [toNat_succ (room.resolve_left there), if_pos (Nat.not_lt.1 there), List.take_of_length_le (by omega),
      if_pos (by simp; omega)]

/-- The length of an array that has an item behind the last one of 64 bits wraps, and then the array ends before the
item. -/
theorem setItem?_of_overflow {items : List Value} {i : ℕ} (absent : items.length ≤ i) (large : 2 ^ 64 ≤ i + 1)
    (v : Value) : setItem? items i v = none := by
  have wrapped : (UInt64.ofNat i + 1).toNat ≤ i := by
    rw [UInt64.toNat_add, UInt64.toNat_ofNat', UInt64.toNat_one]
    omega
  unfold setItem?
  dsimp only
  rw [if_pos absent, if_neg]
  rw [List.length_append, List.length_take, List.length_replicate]
  omega

theorem setAt?_cons (target : Value) (step : Segment) (rest : Path) (v : Value) : target.setAt? (step :: rest) v =
    (setAt? (((target.opened step).child? step).getD .null) rest v).bind ((target.opened step).setChild? step) := by
  cases step <;> cases target <;> rfl

theorem setChild?_of_lacksRoom (lacks : target.LacksRoom step) (v : Value) :
    (target.opened step).setChild? step v = none := by
  cases step with
  | key => cases target <;> exact lacks.elim
  | index i =>
    have wraps {items : List Value} (absent : items[i]? = none) (large : 2 ^ 64 ≤ i + 1) :
        (Value.array items).setChild? (.index i) v = none := by
      rw [setChild?, setItem?_of_overflow (List.getElem?_eq_none_iff.1 absent) large, Option.map_none]
    cases target with
    | object => exact lacks.elim
    | array items => exact wraps lacks.1 lacks.2
    | _ => exact wraps rfl lacks.2

/-- Where there is room for the part, words make no difference. -/
theorem setChild?_of_room (room : ¬target.LacksRoom step) (v : Value) :
    (target.opened step).setChild? step v = some ((target.opened step).setChild step v) := by
  cases step with
  | key => cases target <;> rfl
  | index i =>
    have fits {items : List Value} (room : ¬(items[i]? = none ∧ 2 ^ 64 ≤ i + 1)) :
        (Value.array items).setChild? (.index i) v = some ((Value.array items).setChild (.index i) v) := by
      rw [setChild?, setChild, setItem?_eq (by rw [List.getElem?_eq_none_iff] at room; omega), Option.map_some]
    cases target with
    | object => rfl
    | array => exact fits room
    | _ => exact fits fun ⟨_, large⟩ => room ⟨rfl, large⟩

theorem setAt?_of_overflows (overflows : target.Overflows path) (v : Value) : target.setAt? path v = none := by
  induction path generalizing target with
  | nil => exact overflows.elim
  | cons step rest ih =>
    rw [setAt?_cons]
    rcases overflows with lacks | overflows
    · exact Option.bind_eq_none_iff.2 fun part _ => setChild?_of_lacksRoom lacks part
    · rw [ih overflows, Option.bind_none]

theorem setAt?_of_room (room : ¬target.Overflows path) (v : Value) :
    target.setAt? path v = some (target.setAt path v) := by
  induction path generalizing target with
  | nil => rfl
  | cons step rest ih =>
    obtain ⟨here, behind⟩ := not_or.1 room
    rw [setAt?_cons, ih behind, Option.bind_some, setChild?_of_room here, setAt_cons]

theorem setAt?_eq_none_iff : target.setAt? path v = none ↔ target.Overflows path := by
  refine ⟨fun stops => ?_, fun overflows => setAt?_of_overflows overflows v⟩
  by_contra room
  rw [setAt?_of_room room] at stops
  cases stops

/-- What is set with lengths in words is what is set without, if anything is. -/
theorem eq_setAt_of_setAt? (set : target.setAt? path v = some result) : result = target.setAt path v := by
  have room : ¬target.Overflows path := by
    rw [← setAt?_eq_none_iff (v := v), set]
    exact Option.some_ne_none result
  rw [setAt?_of_room room] at set
  exact (Option.some.inj set).symm

/-- Only an index whose successor does not fit a word lacks room anywhere. -/
theorem not_overflows_of_fits (target : Value) (fits : ∀ i, .index i ∈ path → i + 1 < 2 ^ 64) :
    ¬target.Overflows path := by
  induction path generalizing target with
  | nil => exact not_false
  | cons step rest ih =>
    refine not_or.2 ⟨fun lacks => ?_, ih _ fun i member => fits i (List.mem_cons_of_mem _ member)⟩
    cases step with
    | key => cases target <;> exact lacks
    | index i =>
      have large : 2 ^ 64 ≤ i + 1 := by
        cases target with
        | object => exact lacks.elim
        | _ => exact lacks.2
      exact absurd (fits i List.mem_cons_self) (Nat.not_lt.2 large)

end Words

theorem exists_setAt_object (fields : Dict Value) {path : Path} (nonempty : path ≠ []) (v : Value) :
    ∃ fields', (Value.object fields).setAt path v = .object fields' := by
  cases path with
  | nil => exact absurd rfl nonempty
  | cons step rest => cases step <;> exact ⟨_, rfl⟩

end Value

theorem Path.ofText_ne_nil (s : String) : Path.ofText s ≠ [] := by
  unfold Path.ofText
  dsimp only
  split
  · split
    · exact List.cons_ne_nil _ _
    · assumption
  · exact List.cons_ne_nil _ _

/-- The nested object of a flat one is an object. -/
theorem exists_unflatten (flat : Dict Value) : ∃ fields, unflatten flat = .object fields := by
  have from_object (fields : Dict Value) : ∃ fields',
      flat.foldl (fun target entry => target.setAt (Path.ofText entry.1) entry.2) (.object fields) =
        Value.object fields' := by
    induction flat generalizing fields with
    | nil => exact ⟨fields, rfl⟩
    | cons entry rest ih =>
      obtain ⟨fields', same⟩ := Value.exists_setAt_object fields (Path.ofText_ne_nil entry.1) entry.2
      rw [List.foldl_cons, same]
      exact ih fields'
  exact from_object []

/-- A fold that stops has gone on up to some entry, and stops there. -/
theorem foldlM_eq_none_iff {α β : Type} {f : β → α → Option β} {start : β} {entries : List α} :
    entries.foldlM f start = none ↔ ∃ front entry back reached,
      entries = front ++ entry :: back ∧ front.foldlM f start = some reached ∧ f reached entry = none := by
  constructor
  · intro stops
    induction entries generalizing start with
    | nil => cases stops
    | cons entry rest ih =>
      rw [List.foldlM_cons] at stops
      cases next : f start entry with
      | none => exact ⟨[], entry, rest, start, rfl, rfl, next⟩
      | some reached =>
        rw [next] at stops
        obtain ⟨front, last, back, final, rfl, before, ends⟩ := ih stops
        refine ⟨entry :: front, last, back, final, rfl, ?_, ends⟩
        rw [List.foldlM_cons, next]
        exact before
  · rintro ⟨front, entry, back, reached, rfl, before, ends⟩
    rw [List.foldlM_append, before]
    change (entry :: back).foldlM f reached = none
    rw [List.foldlM_cons, ends]
    rfl

/-- The nested object is not made exactly if some path lacks room in what the entries before it make. -/
theorem unflatten?_eq_none_iff {flat : Dict Value} : unflatten? flat = none ↔ ∃ front entry back target,
    flat = front ++ entry :: back ∧ unflatten? front = some target ∧ target.Overflows (Path.ofText entry.1) := by
  rw [unflatten?, foldlM_eq_none_iff]
  simp only [Value.setAt?_eq_none_iff]
  rfl

theorem eq_unflatten_of_unflatten? {flat : Dict Value} {result : Value} (made : unflatten? flat = some result) :
    result = unflatten flat := by
  unfold unflatten? at made
  unfold unflatten
  generalize Value.object [] = target at made ⊢
  induction flat generalizing target with
  | nil => exact (Option.some.inj made).symm
  | cons entry rest ih =>
    rw [List.foldlM_cons] at made
    obtain ⟨next, set, later⟩ := Option.bind_eq_some_iff.1 made
    obtain rfl : next = target.setAt (Path.ofText entry.1) entry.2 := Value.eq_setAt_of_setAt? set
    exact ih _ later

/-- As long as the length behind every index fits a word, words make no difference. -/
theorem unflatten?_eq {flat : Dict Value}
    (fits : ∀ entry ∈ flat, ∀ i, .index i ∈ Path.ofText entry.1 → i + 1 < 2 ^ 64) :
    unflatten? flat = some (unflatten flat) := by
  cases made : unflatten? flat with
  | none =>
    obtain ⟨front, entry, back, target, rfl, -, overflows⟩ := unflatten?_eq_none_iff.1 made
    exact absurd overflows (target.not_overflows_of_fits (fits entry (by simp)))
  | some result => rw [eq_unflatten_of_unflatten? made]

/-- The entry of the greatest name is the last one. -/
theorem Dict.Sorted.exists_append_of_greatest {α : Type} {d : Dict α} (sorted : d.Sorted) {entry : String × α}
    (member : entry ∈ d) (greatest : ∀ other ∈ d, other.1 ≤ entry.1) : ∃ front, d = front ++ [entry] := by
  obtain ⟨front, behind, rfl⟩ := List.append_of_mem member
  cases behind with
  | nil => exact ⟨front, rfl⟩
  | cons next rest =>
    have above : entry.1 < next.1 :=
      (List.pairwise_cons.1 (List.pairwise_append.1 sorted).2.1).1 next List.mem_cons_self
    exact absurd above (String.not_lt.2 (greatest next (by simp)))

/-- Setting a value at a path, with array lengths in words of 64 bits. It fails exactly if the path leads to an item
that is not there at an index whose successor does not fit a word, and never if no index of the path is that great.
Otherwise the value is found at the path, in an object, an array, or wherever else the path leads, and all that was
found at other paths is still found there, unless one of the two paths leads to a place on the way of the other, or the
path that is written goes on with a key at an array where the other one leaves it. So the nested object of a flat one is
not made exactly if some entry lacks room in what the entries before it make; and else it is an object, and what the
greatest key of the flat one says is found in it. -/
theorem setAt?_reads (target : Value) (path : Path) (v : Value) (flat : Dict Value) :
    (target.setAt? path v = none ↔ target.Overflows path) ∧
    ((∀ i, .index i ∈ path → i + 1 < 2 ^ 64) → ¬target.Overflows path) ∧
    (∀ result, target.setAt? path v = some result → result.getAt? path = some v ∧
      ∀ other u, target.getAt? other = some u → ¬target.Precedes path other → ¬target.Precedes other path →
        ¬target.LeavesItems path other → result.getAt? other = some u) ∧
    (unflatten? flat = none ↔ ∃ front entry back nested,
      flat = front ++ entry :: back ∧ unflatten? front = some nested ∧ nested.Overflows (Path.ofText entry.1)) ∧
    ∀ result, unflatten? flat = some result → (∃ fields, result = .object fields) ∧
      (flat.Sorted → ∀ key u, (key, u) ∈ flat → (∀ other ∈ flat, other.1 ≤ key) →
        result.getAt? (Path.ofText key) = some u) := by
  refine ⟨Value.setAt?_eq_none_iff, target.not_overflows_of_fits, ?_, unflatten?_eq_none_iff, ?_⟩
  · intro result set
    rw [Value.eq_setAt_of_setAt? set]
    exact ⟨Value.getAt?_setAt_self target path v, fun _ _ => Value.getAt?_setAt_other⟩
  · intro result made
    rw [eq_unflatten_of_unflatten? made]
    refine ⟨exists_unflatten flat, fun sorted key u member greatest => ?_⟩
    obtain ⟨front, rfl⟩ := sorted.exists_append_of_greatest member greatest
    rw [unflatten, List.foldl_append]
    exact Value.getAt?_setAt_self ..

/-- A path that begins with another index leads away at once. -/
theorem not_precedes_of_index {items : List Value} {i j : ℕ} (different : i ≠ j) (p q : Path) :
    ¬(Value.array items).Precedes (.index i :: p) (.index j :: q) := by
  rintro ⟨front, behind, shape, same⟩
  cases same with
  | cons slot =>
    cases shape
    exact different (Segment.index.inj slot)

theorem not_leavesItems_of_index {items : List Value} {i j : ℕ} (different : i ≠ j) (p q : Path) :
    ¬(Value.array items).LeavesItems (.index i :: p) (.index j :: q) := by
  rintro ⟨front, name, behind, front', step, behind', inner, shape, shape', same, -⟩
  cases same with
  | nil => cases shape
  | cons slot =>
    cases shape
    cases shape'
    exact different (Segment.index.inj slot)

/-- An object is put behind an item that stays, and what a flat object says of an array counts after what it says of the
value in its place. -/
theorem setAt?_reads_beside :
    let target : Value := .array [.bool true]
    let path : Path := [.index 2, .key "b"]
    let other : Path := [.index 0]
    let result : Value := .array [.bool true, .null, .object [("b", .undefined)]]
    let flat : Dict Value := [("a", .null), ("a[1].b", .bool true)]
    let nested : Value := .object [("a", .array [.null, .object [("b", .bool true)]])]
    ¬target.Overflows path ∧ target.setAt? path .undefined = some result ∧ result.getAt? path = some .undefined ∧
      target.getAt? other = some (.bool true) ∧ ¬target.Precedes path other ∧ ¬target.Precedes other path ∧
      ¬target.LeavesItems path other ∧ result.getAt? other = some (.bool true) ∧
      flat.Sorted ∧ unflatten? flat = some nested ∧ nested.getAt? (Path.ofText "a[1].b") = some (.bool true) := by
  intro target path other result flat nested
  have fits (i : ℕ) (member : .index i ∈ path) : i + 1 < 2 ^ 64 := by
    obtain rfl : i = 2 := by simpa [path] using member
    decide
  have set : target.setAt? path .undefined = some result := rfl
  have found : target.getAt? other = some (.bool true) := rfl
  have behind : ¬target.Precedes path other := not_precedes_of_index (by decide) _ _
  have before : ¬target.Precedes other path := not_precedes_of_index (by decide) _ _
  have kept : ¬target.LeavesItems path other := not_leavesItems_of_index (by decide) _ _
  have sorted : flat.Sorted := by unfold Dict.Sorted; decide
  have single : Path.ofText "a" = [.key "a"] := by decide
  have deep : Path.ofText "a[1].b" = [.key "a", .index 1, .key "b"] := by decide +kernel
  have made : unflatten? flat = some nested := by
    simp only [flat, unflatten?, List.foldlM_cons, single, deep]
    rfl
  obtain ⟨-, room, reads, -, whole⟩ := setAt?_reads target path .undefined flat
  obtain ⟨here, beside⟩ := reads result set
  refine ⟨room fits, set, here, found, behind, before, kept, beside other _ found behind before kept, sorted, made, ?_⟩
  exact (whole nested made).2 sorted _ _ (by simp [flat]) (by decide)

/-- The greatest number of 64 bits is an index, and the length of an array that has an item there does not fit a word.
So there is no nested object. -/
theorem not_unflatten?_lastIndex :
    ¬∀ flat : Dict Value, flat.Sorted → ∃ fields, unflatten? flat = some (.object fields) := by
  intro always
  obtain ⟨fields, made⟩ := always [("a[18446744073709551615]", .number 1)] (by unfold Dict.Sorted; decide)
  have path : Path.ofText "a[18446744073709551615]" = [.key "a", .index (2 ^ 64 - 1)] := by decide +kernel
  rw [unflatten?, List.foldlM_cons] at made
  dsimp only at made
  rw [path] at made
  cases made

end Reckoner
