import Reckoner.Proofs.Sameness

namespace Reckoner

namespace Number

/-- Equal numbers are one number, or zeros of either sign. -/
theorem eq_or_zeros_of_beq {x y : Float} (equal : (x == y) = true) :
    x = y ∨ (x == 0.0) = true ∧ (y == 0.0) = true := by
  have zeros : ((0 : Float) == 0.0) = true ∧ ((-0 : Float) == 0.0) = true := by decide +kernel
  obtain ⟨-, -, same | ⟨rfl, rfl⟩ | ⟨rfl, rfl⟩⟩ := Float.beq_iff_ne_nan_and_eq.1 equal
  · exact .inl same
  · exact .inr zeros
  · exact .inr zeros.symm

end Number

namespace Value

theorem forall₂_imp_of_mem {α : Type} {R S : α → α → Prop} {xs ys : List α} (all : List.Forall₂ R xs ys)
    (each : ∀ x ∈ xs, ∀ y, R x y → S x y) : List.Forall₂ S xs ys := by
  induction all with
  | nil => exact .nil
  | cons here _ ih =>
    obtain ⟨first, others⟩ := List.forall_mem_cons.1 each
    exact .cons (first _ here) (ih others)

/-- What the operator `===` asks of two values and of their parts. -/
inductive Equated : Value → Value → Prop
  | undefined : Equated .undefined .undefined
  | null : Equated .null .null
  | bool (b : Bool) : Equated (.bool b) (.bool b)
  | number {x y : Float} : (x == y) = true → Equated (.number x) (.number y)
  | string (s : String) : Equated (.string s) (.string s)
  | date (t : Calendar.Instant) : Equated (.date t) (.date t)
  | array {xs ys : List Value} : List.Forall₂ (fun v w => strictEquals v w = true) xs ys →
      Equated (.array xs) (.array ys)
  | object {xs ys : List (String × Value)} :
      List.Forall₂ (fun x y => x.1 = y.1 ∧ strictEquals x.2 y.2 = true) xs ys → Equated (.object xs) (.object ys)
  | function {f g : Builtin} : f.name = g.name → Equated (.function f) (.function g)
  | library (l : Library) : Equated (.library l) (.library l)

theorem strictEquals_iff_equated (v w : Value) : strictEquals v w = true ↔ Equated v w := by
  constructor
  · intro equal
    fun_cases strictEquals v w with
    | case1 => exact .undefined
    | case2 => exact .null
    | case3 a b => exact eq_of_beq (α := Bool) equal ▸ .bool a
    | case4 x y => exact .number equal
    | case5 s t => exact eq_of_beq (α := String) equal ▸ .string s
    | case6 t u => exact eq_of_beq (α := Calendar.Instant) equal ▸ .date t
    | case7 xs ys => exact .array ((strictEqualItems_iff xs ys).1 equal)
    | case8 xs ys => exact .object ((strictEqualFields_iff xs ys).1 equal)
    | case9 f g => exact .function (eq_of_beq (α := String) equal)
    | case10 l m => exact eq_of_beq (α := Library) equal ▸ .library l
    | case11 => simp [strictEquals] at equal
  · intro equated
    cases equated with
    | array items => exact (strictEqualItems_iff ..).2 items
    | object fields => exact (strictEqualFields_iff ..).2 fields
    | _ => simp_all [strictEquals]

theorem strictEquals_symm {v w : Value} (equal : strictEquals v w = true) : strictEquals w v = true := by
  induction v using induction_parts generalizing w with
  | simple v noArray noObject =>
    rw [strictEquals_iff_equated] at equal ⊢
    cases equal with
    | number equal => exact .number (BEq.symm equal)
    | array => exact absurd rfl (noArray _)
    | object => exact absurd rfl (noObject _)
    | function named => exact .function named.symm
    | _ => constructor
  | array xs ih =>
    cases (strictEquals_iff_equated ..).1 equal with
    | array items =>
      exact (strictEqualItems_iff ..).2 (forall₂_symm_of_mem items fun x member y => ih x member)
  | object xs ih =>
    cases (strictEquals_iff_equated ..).1 equal with
    | object fields =>
      exact (strictEqualFields_iff ..).2 (forall₂_symm_of_mem fields fun x member y both =>
        ⟨both.1.symm, ih x member both.2⟩)

theorem strictEquals_comm (v w : Value) : strictEquals v w = strictEquals w v :=
  Bool.eq_iff_iff.2 ⟨strictEquals_symm, strictEquals_symm⟩

theorem strictEquals_trans {u v w : Value} (first : strictEquals u v = true) (second : strictEquals v w = true) :
    strictEquals u w = true := by
  induction u using induction_parts generalizing v w with
  | simple u noArray noObject =>
    rw [strictEquals_iff_equated] at first second ⊢
    cases first with
    | number equal =>
      cases second with
      | number next => exact .number (BEq.trans equal next)
    | array => exact absurd rfl (noArray _)
    | object => exact absurd rfl (noObject _)
    | function named =>
      cases second with
      | function next => exact .function (named.trans next)
    | _ => exact second
  | array xs ih =>
    cases (strictEquals_iff_equated ..).1 first with
    | array items =>
      cases (strictEquals_iff_equated ..).1 second with
      | array behind =>
        exact (strictEqualItems_iff ..).2 (forall₂_trans_of_mem items behind fun x member y z => ih x member)
  | object xs ih =>
    cases (strictEquals_iff_equated ..).1 first with
    | object fields =>
      cases (strictEquals_iff_equated ..).1 second with
      | object behind =>
        exact (strictEqualFields_iff ..).2 (forall₂_trans_of_mem fields behind fun x member y z here next =>
          ⟨here.1.trans next.1, ih x member here.2 next.2⟩)

/-- What is equal to one of two equal values is equal to the other. -/
theorem strictEquals_congr {v w : Value} (equal : strictEquals v w = true) (u : Value) :
    strictEquals v u = strictEquals w u :=
  Bool.eq_iff_iff.2 ⟨strictEquals_trans (strictEquals_symm equal), strictEquals_trans equal⟩

theorem same_of_strictEquals {v w : Value} (equal : strictEquals v w = true) : same v w = true := by
  induction v using induction_parts generalizing w with
  | simple v noArray noObject =>
    rw [strictEquals_iff_equated] at equal
    rw [same_iff_alike]
    cases equal with
    | number equal => exact .number (.inl equal)
    | array => exact absurd rfl (noArray _)
    | object => exact absurd rfl (noObject _)
    | function named => exact .function named
    | _ => constructor
  | array xs ih =>
    cases (strictEquals_iff_equated ..).1 equal with
    | array items => exact (sameItems_iff ..).2 (forall₂_imp_of_mem items fun x member y => ih x member)
  | object xs ih =>
    cases (strictEquals_iff_equated ..).1 equal with
    | object fields =>
      exact (sameFields_iff ..).2 (forall₂_imp_of_mem fields fun x member y both => ⟨both.1, ih x member both.2⟩)

end Value

end Reckoner
