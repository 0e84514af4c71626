import Reckoner.Proofs.Broadcasting

namespace Reckoner

namespace Value

/-- A number, or an array that has nothing but numbers in it at any depth. -/
inductive IsNumberTree : Value → Prop
  | number (x : Float) : IsNumberTree (.number x)
  | array {items : List Value} (each : ∀ v ∈ items, IsNumberTree v) : IsNumberTree (.array items)

theorem mapNumbers_isNumberTree (f : Float → Float) (v : Value) : (mapNumbers f v).IsNumberTree := by
  induction v using induction_parts with
  | simple v array _ =>
    rw [Builtin.mapNumbers_of_ne_array f array]
    exact .number _
  | object fields _ => exact .number _
  | array items ih =>
    rw [mapNumbers_array]
    exact .array (List.forall_mem_map.2 ih)

theorem ofNumbers_isNumberTree (xs : List Float) : (ofNumbers xs).IsNumberTree :=
  .array (List.forall_mem_map.2 fun x _ => .number x)

end Value

/-- A RangeError, or a success with a property. -/
def RangeErrorOr {α : Type} (P : α → Prop) : Except EvalError α → Prop
  | .ok a => P a
  | .error e => e.kind = .range

namespace RangeErrorOr

variable {α β : Type} {P : α → Prop} {Q : β → Prop}

theorem map {result : Except EvalError α} (outcome : RangeErrorOr P result) {f : α → β} (keeps : ∀ a, P a → Q (f a)) :
    RangeErrorOr Q (result.map f) := by
  cases result with
  | ok a => exact keeps a outcome
  | error e => exact outcome

theorem bind {result : Except EvalError α} (outcome : RangeErrorOr P result) {f : α → Except EvalError β}
    (next : ∀ a, P a → RangeErrorOr Q (f a)) : RangeErrorOr Q (result >>= f) := by
  cases result with
  | ok a => exact next a outcome
  | error e => exact outcome

theorem mapM {f : α → Except EvalError β} (each : ∀ a, RangeErrorOr Q (f a)) (items : List α) :
    RangeErrorOr (∀ b ∈ ·, Q b) (items.mapM f) := by
  induction items with
  | nil => exact nofun
  | cons a rest ih =>
    rw [List.mapM_cons]
    exact (each a).bind fun b here => ih.bind fun bs others => List.forall_mem_cons.2 ⟨here, others⟩

theorem foldlM {f : α → β → Except EvalError α} (step : ∀ a b, RangeErrorOr P (f a b)) (items : List β) {first : α}
    (start : P first) : RangeErrorOr P (items.foldlM f first) := by
  induction items generalizing first with
  | nil => exact start
  | cons b rest ih =>
    rw [List.foldlM_cons]
    exact (step first b).bind fun a next => ih next

end RangeErrorOr

namespace Value

theorem zipNumbers_numbers (op : Float → Float → Float) (v w : Value) :
    RangeErrorOr IsNumberTree (zipNumbers op v w) := by
  induction v, w using induction_pairs fun xs ys =>
    RangeErrorOr (∀ z ∈ ·, z.IsNumberTree) (zipItemNumbers op xs ys) with
  | left v w single =>
    rw [zipNumbers_single_left single]
    exact mapNumbers_isNumberTree ..
  | right v w single =>
    rw [zipNumbers_single_right single]
    exact mapNumbers_isNumberTree ..
  | arrays xs ys items =>
    by_cases same : xs.length = ys.length
    · rw [zipNumbers_arrays same]
      exact items.map fun _ each => .array each
    · rw [zipNumbers_mismatch same]
      rfl
  | short xs ys empty =>
    rw [zipItemNumbers_none op empty]
    exact nofun
  | further x y xs ys first others =>
    rw [zipItemNumbers_cons]
    exact first.bind fun z here => others.map fun rest each => List.forall_mem_cons.2 ⟨here, each⟩

theorem foldNumbers_numbers (op : Float → Float → Float) {args : List Value} (several : args.length ≠ 1) :
    RangeErrorOr IsNumberTree (foldNumbers op args) := by
  match args with
  | [] => exact .number _
  | [v] => exact absurd rfl several
  | v :: w :: rest =>
    rw [foldNumbers, List.foldlM_cons]
    exact (zipNumbers_numbers op v w).bind fun z made => .foldlM (zipNumbers_numbers op) rest made

theorem innerProduct_rangeErrorOr (xs ys : List Float) : RangeErrorOr (fun _ => True) (innerProduct xs ys) := by
  unfold innerProduct
  split
  · rfl
  · trivial

theorem products_numbers {α : Type} (f : α → Except EvalError Float)
    (each : ∀ a, RangeErrorOr (fun _ => True) (f a)) (items : List α) :
    RangeErrorOr IsNumberTree ((items.mapM f).map ofNumbers) :=
  (RangeErrorOr.mapM each items).map fun xs _ => ofNumbers_isNumberTree xs

theorem dot_numbers (v w : Value) : RangeErrorOr IsNumberTree (dot v w) := by
  unfold dot
  split
  · exact zipNumbers_numbers ..
  · exact zipNumbers_numbers ..
  · exact (innerProduct_rangeErrorOr ..).map fun x _ => .number x
  · exact products_numbers _ (fun row => innerProduct_rangeErrorOr row _) _
  · split
    · rfl
    · exact products_numbers _ (innerProduct_rangeErrorOr _) _
  · exact (RangeErrorOr.mapM (fun row => products_numbers _ (innerProduct_rangeErrorOr row) _) _).map
      fun _ each => .array each

theorem linspace_numbers (start stop : Float) (count : Value) :
    RangeErrorOr IsNumberTree (linspace start stop count) := by
  unfold linspace
  extract_lets points
  split
  · rfl
  · split <;> exact ofNumbers_isNumberTree _

end Value

namespace Builtin

open Value

/-- The functions of `numeric` give numbers, alone or in nested arrays, or a RangeError, whatever their arguments are.
Only the operations on two numbers give a single argument back as it is. -/
theorem call_numbers {f : Builtin} (member : f ∈ Library.numeric.functions) (args : List Value) :
    RangeErrorOr IsNumberTree (f.call args) ↔ ∀ op v, f = .pairwise op → args = [v] → v.IsNumberTree := by
  constructor
  · rintro outcome op v rfl rfl
    exact outcome
  · intro single
    cases f with
    | elementwise e => exact mapNumbers_isNumberTree ..
    | pairwise op =>
      by_cases one : ∃ v, args = [v]
      · obtain ⟨v, rfl⟩ := one
        exact single op v rfl rfl
      · exact foldNumbers_numbers _ fun length => one (List.length_eq_one_iff.1 length)
    | dot => exact dot_numbers ..
    | linspace => exact linspace_numbers ..
    | sum | product | norm | supremum | infimum => exact .number _
    | _ => simp [Library.functions] at member

/-- Items that are no numbers are converted on the way, also those of a nested array. -/
theorem call_numbers_mixed : Builtin.pairwise .sub ∈ Library.numeric.functions ∧
    RangeErrorOr IsNumberTree
      ((Builtin.pairwise .sub).call
        [.array [.string "1", .array [.null]], .bool true, .array [.undefined, .number 2.0]]) :=
  ⟨by decide, (call_numbers (by decide) _).2 nofun⟩

/-- A text that is the only argument is not converted. -/
theorem call_single_text : ¬∀ f ∈ Library.numeric.functions, ∀ args, RangeErrorOr IsNumberTree (f.call args) := by
  intro all
  have given : IsNumberTree (.string "x") := all (.pairwise .add) (by decide) [.string "x"]
  cases given

end Builtin

end Reckoner
