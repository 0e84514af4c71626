import Reckoner.Evaluation.Expression
import Reckoner.Json.Compact
import Reckoner.Proofs.JsonBridge
import Reckoner.Proofs.Namesakes
import Reckoner.Proofs.NumberText
import Reckoner.Proofs.StrictEquality

namespace Reckoner

namespace Number

/-- Zero is equal to two numbers. All other numbers are equal to themselves alone. -/
theorem zero_cases {x : Float} (zero : (x == 0.0) = true) : x = 0.0 ∨ x = -0.0 := by
  have zeros : (0 : Float) = 0.0 ∧ (-0 : Float) = -0.0 := by decide +kernel
  obtain ⟨-, -, same | ⟨same, -⟩ | ⟨same, -⟩⟩ := Float.beq_iff_ne_nan_and_eq.1 zero
  · exact .inl same
  · exact .inl (same.trans zeros.1)
  · exact .inr (same.trans zeros.2)

/-- What the two zeros have in common. -/
theorem zero_facts {x : Float} (zero : (x == 0.0) = true) :
    x.abs = 0.0 ∧ x.isFinite = true ∧ isWhole x = true ∧ toInt? x = some 0 ∧ ¬x < 0.0 := by
  rcases zero_cases zero with rfl | rfl <;> decide +kernel

end Number

namespace Value

open Number

section Lists

variable {α β : Type} {R : α → α → Prop} {xs ys : List α}

theorem map_eq_of_forall₂ {f : α → β} (all : List.Forall₂ (fun x y => f x = f y) xs ys) : xs.map f = ys.map f := by
  rw [← List.forall₂_eq_eq_eq]
  exact List.forall₂_map_left_iff.2 (List.forall₂_map_right_iff.2 all)

end Lists

/-- One result or one error, where results that are the same count as one. -/
def SameOutcome : Except EvalError Value → Except EvalError Value → Prop
  | .ok v, .ok w => same v w = true
  | .error e, .error f => e = f
  | _, _ => False

theorem SameOutcome.refl (result : Except EvalError Value) : SameOutcome result result := by
  cases result with
  | ok v => exact same_refl v
  | error e => rfl

variable {v w : Value}

/-- What each observer says of equal values, one after the other. Values that are not numbers, arrays or objects are
equal only if they are the same one. -/
theorem typeName_eq (equal : strictEquals v w = true) : v.typeName = w.typeName := by
  cases (strictEquals_iff_equated v w).1 equal <;> rfl

theorem isNullish_eq (equal : strictEquals v w = true) : v.isNullish = w.isNullish := by
  cases (strictEquals_iff_equated v w).1 equal <;> rfl

theorem isTruthy_eq (equal : strictEquals v w = true) : v.isTruthy = w.isTruthy := by
  cases (strictEquals_iff_equated v w).1 equal with
  | number equal =>
    rcases eq_or_zeros_of_beq equal with rfl | ⟨left, right⟩
    · rfl
    · simp [isTruthy, left, right]
  | _ => rfl

theorem itemTexts_eq_map (items : List Value) :
    itemTexts items = items.map fun item => if item.isNullish then "" else text item := by
  induction items with
  | nil => rfl
  | cons item rest ih => rw [itemTexts, ih, List.map_cons]

/-- The text of an array is that of its items, where the nullish ones are left empty. -/
theorem itemTexts_eq {xs ys : List Value}
    (items : List.Forall₂ (fun v w => v.isNullish = w.isNullish ∧ v.text = w.text) xs ys) :
    itemTexts xs = itemTexts ys := by
  rw [itemTexts_eq_map, itemTexts_eq_map]
  refine map_eq_of_forall₂ (items.imp fun x y both => ?_)
  rw [both.1, both.2]

/-- Both zeros have the text `0`, so texts do not tell equal values apart. -/
theorem text_eq (equal : strictEquals v w = true) : v.text = w.text := by
  induction v using induction_parts generalizing w with
  | simple v noArray noObject =>
    cases (strictEquals_iff_equated ..).1 equal with
    | number equal =>
      rcases eq_or_zeros_of_beq equal with rfl | ⟨left, right⟩
      · rfl
      · exact (text_of_zero left).trans (text_of_zero right).symm
    | array => exact absurd rfl (noArray _)
    | function named => rw [text, text, named]
    | _ => rfl
  | array xs ih =>
    cases (strictEquals_iff_equated ..).1 equal with
    | array items =>
      rw [text, text, itemTexts_eq (forall₂_imp_of_mem items fun x member y equal =>
        ⟨isNullish_eq equal, ih x member equal⟩)]
  | object xs ih =>
    cases (strictEquals_iff_equated ..).1 equal with
    | object fields => rfl

theorem numberDocument_of_zero {x : Float} (zero : (x == 0.0) = true) : numberDocument x = numberDocument 0.0 := by
  obtain ⟨negative, q, content⟩ := (beq_zero_iff x).1 zero
  obtain ⟨abs, -, whole, value, -⟩ := zero_facts zero
  have short : (isWhole x && decide (x.abs < 9007199254740992.0)) = true := by
    rw [whole, abs]
    decide +kernel
  rw [numberDocument_zero, numberDocument, content, value]
  exact if_pos short

theorem toJson_eq (equal : strictEquals v w = true) : v.toJson = w.toJson := by
  induction v using induction_parts generalizing w with
  | simple v noArray noObject =>
    cases (strictEquals_iff_equated ..).1 equal with
    | number equal =>
      rcases eq_or_zeros_of_beq equal with rfl | ⟨left, right⟩
      · rfl
      · exact (numberDocument_of_zero left).trans (numberDocument_of_zero right).symm
    | array => exact absurd rfl (noArray _)
    | object => exact absurd rfl (noObject _)
    | _ => rfl
  | array xs ih =>
    cases (strictEquals_iff_equated ..).1 equal with
    | array items =>
      rw [toJson, toJson, itemsToJson_eq_map, itemsToJson_eq_map]
      exact congrArg _ (map_eq_of_forall₂ (forall₂_imp_of_mem items fun x member y => ih x member))
  | object xs ih =>
    cases (strictEquals_iff_equated ..).1 equal with
    | object fields =>
      rw [toJson, toJson, fieldsToJson_eq_map, fieldsToJson_eq_map]
      refine congrArg _ (map_eq_of_forall₂ (forall₂_imp_of_mem fields fun x member y both => ?_))
      rw [both.1, ih x member both.2]

/-- Equal values may convert to different zeros, and they may both convert to NaN: an array with a text in it does. -/
theorem toNumber_agree (equal : strictEquals v w = true) : Agree v.toNumber w.toNumber := by
  cases (strictEquals_iff_equated ..).1 equal with
  | number equal => exact .inl equal
  | array => rw [toNumber, toNumber, text_eq equal]; exact .refl _
  | _ => exact .refl _

section Properties

variable {α : Type} {R : α → α → Prop} {xs ys : List α}

theorem forall₂_getElem? (all : List.Forall₂ R xs ys) (i : ℕ) : Option.Rel R xs[i]? ys[i]? := by
  induction all generalizing i with
  | nil => exact .none
  | cons here _ ih =>
    cases i with
    | zero => exact .some here
    | succ i => exact ih i

/-- Fields of one name are found at the same place, as the keys agree one by one. -/
theorem forall₂_lookup {xs ys : List (String × Value)}
    (all : List.Forall₂ (fun x y => x.1 = y.1 ∧ strictEquals x.2 y.2 = true) xs ys) (key : String) :
    Option.Rel (fun v w => strictEquals v w = true) (xs.lookup key) (ys.lookup key) := by
  induction all with
  | nil => exact .none
  | @cons x y _ _ here _ ih =>
    obtain ⟨name, equal⟩ := here
    obtain ⟨k, v⟩ := x
    obtain ⟨l, w⟩ := y
    cases name
    rw [List.lookup_cons, List.lookup_cons]
    split
    · exact .some equal
    · exact ih

theorem same_getD {v? w? : Option Value} (both : Option.Rel (fun v w => strictEquals v w = true) v? w?) :
    same (v?.getD .undefined) (w?.getD .undefined) = true := by
  cases both with
  | some equal => exact same_of_strictEquals equal
  | none => rfl

/-- What is not there is undefined on both sides. -/
theorem property_same (equal : strictEquals v w = true) (key : String) :
    same (v.property key) (w.property key) = true := by
  cases (strictEquals_iff_equated ..).1 equal with
  | array items =>
    unfold property
    dsimp only
    split
    · rw [items.length_eq]
      exact same_refl _
    · cases indexOfKey? key with
      | none => rfl
      | some i => exact same_getD (forall₂_getElem? items i)
  | object fields => exact same_getD (forall₂_lookup fields key)
  | function named =>
    rw [property, property, named]
    exact same_refl _
  | undefined | null | bool | number | string | date | library => exact same_refl _

end Properties

section Methods

theorem numberToFixed_eq {x y : Float} (equal : (x == y) = true) (places : Value) :
    numberToFixed x places = numberToFixed y places := by
  rcases eq_or_zeros_of_beq equal with rfl | ⟨left, right⟩
  · rfl
  · obtain ⟨abs, finite, -, -, -⟩ := zero_facts left
    obtain ⟨abs', finite', -, -, -⟩ := zero_facts right
    simp only [numberToFixed, left, right, abs, abs', finite, finite', text_of_zero, if_true]

theorem numberToString_eq {x y : Float} (equal : (x == y) = true) (radix : Value) :
    numberToString x radix = numberToString y radix := by
  rcases eq_or_zeros_of_beq equal with rfl | ⟨left, right⟩
  · rfl
  · obtain ⟨abs, -, whole, -, positive⟩ := zero_facts left
    obtain ⟨abs', -, whole', -, positive'⟩ := zero_facts right
    have digits (n : ℕ) : radixText x n = radixText y n := by
      simp only [radixText, left, right, abs, abs', whole, whole', positive, positive', text_of_zero]
    simp only [numberToString, digits]

variable {xs ys : List Value}

/-- What `includes` looks for is told from an equal value by nothing. -/
theorem includesEqual_eq (equal : strictEquals v w = true) (target : Value) :
    includesEqual v target = strictEquals v target := by
  cases (strictEquals_iff_equated ..).1 equal with
  | number equal =>
    cases target with
    | number z => rw [includesEqual, Bool.eq_false_of_not_eq_true (not_isNaN_of_beq equal), Bool.false_and,
        Bool.false_or, strictEquals]
    | _ => rfl
  | _ => rfl

theorem includesEqual_congr (equal : strictEquals v w = true) (target : Value) :
    includesEqual v target = includesEqual w target := by
  rw [includesEqual_eq equal, includesEqual_eq (strictEquals_symm equal), strictEquals_congr equal]

theorem any_eq {p : Value → Bool} (items : List.Forall₂ (fun v w => p v = p w) xs ys) : xs.any p = ys.any p := by
  have answers := map_eq_of_forall₂ items
  rw [← Function.id_comp p, ← List.any_map, answers, List.any_map]

theorem findIdx?_eq {p : Value → Bool} (items : List.Forall₂ (fun v w => p v = p w) xs ys) :
    xs.findIdx? p = ys.findIdx? p := by
  have answers := map_eq_of_forall₂ items
  rw [← Function.id_comp p, ← List.findIdx?_map, answers, List.findIdx?_map]

theorem arrayMethod_same (items : List.Forall₂ (fun v w => strictEquals v w = true) xs ys) (name : String)
    (args : List Value) :
    Option.Rel (fun v w => same v w = true) (arrayMethod xs name args) (arrayMethod ys name args) := by
  have included : xs.any (includesEqual · (argument args 0)) = ys.any (includesEqual · (argument args 0)) :=
    any_eq (items.imp fun x y equal => includesEqual_congr equal _)
  have found : xs.findIdx? (·.strictEquals (argument args 0)) = ys.findIdx? (·.strictEquals (argument args 0)) :=
    findIdx?_eq (items.imp fun x y equal => strictEquals_congr equal _)
  have texts : itemTexts xs = itemTexts ys :=
    itemTexts_eq (items.imp fun x y equal => ⟨isNullish_eq equal, text_eq equal⟩)
  unfold arrayMethod
  dsimp only
  split
  · rw [included]
    exact .some (same_refl _)
  · rw [found]
    exact .some (same_refl _)
  · rw [texts]
    exact .some (same_refl _)
  · refine .some ((sameItems_iff ..).2 ?_)
    have same := items.imp fun x y equal => same_of_strictEquals equal
    unfold sliceOf
    rw [items.length_eq]
    exact List.forall₂_drop _ (List.forall₂_take _ same)
  · rw [text, text, texts]
    exact .some (same_refl _)
  · exact .none

theorem map_ok_same {result other : Option Value} (both : Option.Rel (fun v w => same v w = true) result other) :
    Option.Rel SameOutcome (result.map .ok) (other.map .ok) := by
  cases both with
  | some same => exact .some same
  | none => exact .none

/-- A method is looked up by the type of its receiver, so equal receivers run the same one. -/
theorem callMethod_same (equal : strictEquals v w = true) (name : String) (args : List Value) :
    Option.Rel SameOutcome (v.callMethod name args) (w.callMethod name args) := by
  have refl (result : Option (Except EvalError Value)) : Option.Rel SameOutcome result result := by
    cases result with
    | none => exact .none
    | some result => exact .some (.refl result)
  cases (strictEquals_iff_equated ..).1 equal with
  | number equal =>
    rw [callMethod, callMethod, numberToFixed_eq equal, numberToString_eq equal]
    exact refl _
  | array items =>
    exact map_ok_same (arrayMethod_same items name args)
  | _ => exact refl _

end Methods

section Functions

variable {f g : Builtin}

theorem construct?_plainForm (f : Builtin) : f.plainForm.construct? = f.construct? := by
  cases f with
  | pairwise op => cases op <;> rfl
  | _ => rfl

theorem constructAs_same (equal : strictEquals v w = true) (callee : Expr) (args : List Value) :
    SameOutcome (v.constructAs callee args) (w.constructAs callee args) := by
  cases (strictEquals_iff_equated ..).1 equal with
  | @function f g named =>
    have made : f.construct? = g.construct? := by
      rw [← construct?_plainForm f, ← construct?_plainForm g, (Builtin.name_eq_iff f g).1 named]
    rw [constructAs, constructAs, made]
    exact .refl _
  | _ => exact .refl _

/-- Functions of one name in the two libraries have one form in common, and the condition on their arguments only looks
at this form. -/
theorem undivided_plainForm (f : Builtin) (args : List Value) : f.plainForm.Undivided args ↔ f.Undivided args := by
  cases f with
  | pairwise op => cases op <;> rfl
  | _ => rfl

/-- Functions of one name give one result for arguments that do not tell them apart. -/
theorem call_eq_of_name_eq (named : f.name = g.name) {args : List Value} (undivided : f.Undivided args) :
    f.call args = g.call args := by
  have plain := (Builtin.name_eq_iff f g).1 named
  have other : g.Undivided args := by
    rwa [← undivided_plainForm, ← plain, undivided_plainForm]
  rw [← Builtin.call_plainForm undivided, ← Builtin.call_plainForm other, plain]

end Functions

/-- What no observer but a call tells apart. -/
structure Interchangeable (v w : Value) : Prop where
  typeName : v.typeName = w.typeName
  isTruthy : v.isTruthy = w.isTruthy
  text : v.text = w.text
  document : v.toJson.compact = w.toJson.compact
  number : Agree v.toNumber w.toNumber
  property (key : String) : same (v.property key) (w.property key) = true
  method (name : String) (args : List Value) : Option.Rel SameOutcome (v.callMethod name args) (w.callMethod name args)
  construction (callee : Expr) (args : List Value) :
    SameOutcome (v.constructAs callee args) (w.constructAs callee args)

/-- Values that are equal for the operator `===` are interchangeable. Also a call does not tell them apart, unless they
are functions of one name in both libraries and the arguments are such that only one of the two goes through them. -/
theorem strictEquals_interchangeable (equal : strictEquals v w = true) :
    Interchangeable v w ∧ ∀ callee args,
      (∀ f g, v = .function f → w = .function g → f = g ∨ f.Undivided args) →
        SameOutcome (v.callAs callee args) (w.callAs callee args) := by
  refine ⟨⟨typeName_eq equal, isTruthy_eq equal, text_eq equal, congrArg Json.compact (toJson_eq equal),
    toNumber_agree equal, property_same equal, callMethod_same equal, constructAs_same equal⟩, ?_⟩
  intro callee args undivided
  cases (strictEquals_iff_equated ..).1 equal with
  | @function f g named =>
    have called : f.call args = g.call args := by
      rcases undivided f g rfl rfl with rfl | undivided
      · rfl
      · exact call_eq_of_name_eq named undivided
    rw [callAs, callAs, called]
    exact .refl _
  | _ => exact .refl _

/-- The two functions `abs` on a single number. -/
theorem strictEquals_interchangeable_abs :
    let v := Value.function (.scalar .abs)
    let w := Value.function (.elementwise .abs)
    strictEquals v w = true ∧ Interchangeable v w ∧
      SameOutcome (v.callAs .this [.string "-2"]) (w.callAs .this [.string "-2"]) := by
  intro v w
  have equal : strictEquals v w = true := by decide
  obtain ⟨interchangeable, called⟩ := strictEquals_interchangeable equal
  refine ⟨equal, interchangeable, called .this _ fun f g left right => .inr ?_⟩
  rw [← Value.function.inj left]
  exact nofun

/-- On an array they differ. -/
theorem strictEquals_divided : ¬∀ v w : Value, strictEquals v w = true → ∀ callee args,
    SameOutcome (v.callAs callee args) (w.callAs callee args) := by
  intro every
  have equal : strictEquals (.function (.scalar .abs)) (.function (.elementwise .abs)) = true := by decide
  have told : same (.number (Elementary.abs.apply (toNumber (.array [])))) (.array []) = true :=
    every _ _ equal .this [.array []]
  cases told

end Value

end Reckoner
