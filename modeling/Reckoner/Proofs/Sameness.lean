import Mathlib
import Reckoner.Value.Equality

/-! The lemmas on the core library's floating point numbers stand in Batteries, which only the whole of Mathlib
imports. -/

namespace Reckoner

namespace Number

/-- Numbers that count as the same: equal ones, and NaN beside NaN. -/
def Agree (x y : Float) : Prop := (x == y) = true ∨ x.isNaN = true ∧ y.isNaN = true

theorem isNaN_iff (x : Float) : x.isNaN = true ↔ x = Float.nan := by
  rw [Float.isNaN_eq_decide_eq_nan, decide_eq_true_iff]

theorem not_isNaN_of_beq {x y : Float} (equal : (x == y) = true) : ¬x.isNaN = true := by
  rw [isNaN_iff]
  exact Float.beq_self_iff.1 (BEq.trans equal (BEq.symm equal))

theorem Agree.refl (x : Float) : Agree x x := by
  by_cases nan : x.isNaN = true
  · exact .inr ⟨nan, nan⟩
  · exact .inl (Float.beq_self_iff.2 fun same => nan ((isNaN_iff x).2 same))

theorem Agree.symm {x y : Float} (agree : Agree x y) : Agree y x := agree.imp BEq.symm And.symm

/-- A number that agrees with NaN is NaN, so NaN in the middle makes all three of them NaN. -/
theorem Agree.trans {x y z : Float} (first : Agree x y) (second : Agree y z) : Agree x z := by
  rcases first with equal | ⟨nan, between⟩
  · rcases second with equal' | ⟨between, -⟩
    · exact .inl (BEq.trans equal equal')
    · exact absurd between (not_isNaN_of_beq (BEq.symm equal))
  · rcases second with equal | ⟨-, nan'⟩
    · exact absurd between (not_isNaN_of_beq equal)
    · exact .inr ⟨nan, nan'⟩

/-- The operator of numbers tells NaN from itself. Nothing else is told apart that agrees. -/
theorem beq_iff_agree (x y : Float) : (x == y) = true ↔ Agree x y ∧ ¬x.isNaN = true := by
  constructor
  · intro equal
    exact ⟨.inl equal, not_isNaN_of_beq equal⟩
  · rintro ⟨equal | ⟨nan, -⟩, number⟩
    · exact equal
    · exact absurd nan number

end Number

namespace Value

/-- A property that arrays and objects have with their parts, and all other values by themselves. -/
theorem induction_parts {motive : Value → Prop}
    (simple : ∀ v, (∀ items, v ≠ .array items) → (∀ fields, v ≠ .object fields) → motive v)
    (array : ∀ items, (∀ v ∈ items, motive v) → motive (.array items))
    (object : ∀ fields, (∀ field ∈ fields, motive field.2) → motive (.object fields)) (v : Value) : motive v := by
  refine @Value.rec motive (fun items => ∀ v ∈ items, motive v) (fun fields => ∀ field ∈ fields, motive field.2)
    (fun field => motive field.2) ?_ ?_ ?_ ?_ ?_ ?_ array object ?_ ?_ ?noItem ?item ?noField ?field
    (fun _ _ ih => ih) v
  case noItem | noField => exact nofun
  case item | field => exact fun _ _ first others => List.forall_mem_cons.2 ⟨first, others⟩
  all_goals
    intros
    exact simple _ nofun nofun

/-- NaN, or a container that holds it at some depth. -/
inductive HasNaN : Value → Prop
  | number {x : Float} (nan : x.isNaN = true) : HasNaN (.number x)
  | item {items : List Value} {v : Value} (member : v ∈ items) (inside : HasNaN v) : HasNaN (.array items)
  | field {fields : List (String × Value)} {field : String × Value} (member : field ∈ fields)
      (inside : HasNaN field.2) : HasNaN (.object fields)

/-- The cases of a value with NaN in it are read off its constructor, so that the value need not be taken apart again.
-/
theorem hasNaN_number {x : Float} : HasNaN (.number x) ↔ x.isNaN = true := by
  refine ⟨fun inside => ?_, .number⟩
  cases inside
  assumption

theorem hasNaN_array {items : List Value} : HasNaN (.array items) ↔ ∃ v ∈ items, HasNaN v := by
  refine ⟨fun inside => ?_, fun ⟨_, member, inside⟩ => .item member inside⟩
  cases inside with
  | item member inside => exact ⟨_, member, inside⟩

theorem hasNaN_object {fields : List (String × Value)} :
    HasNaN (.object fields) ↔ ∃ field ∈ fields, HasNaN field.2 := by
  refine ⟨fun inside => ?_, fun ⟨_, member, inside⟩ => .field member inside⟩
  cases inside with
  | field member inside => exact ⟨_, member, inside⟩

section Lists

variable {α : Type} {R S : α → α → Prop} {P : α → Prop} {xs ys zs : List α}

/-- Symmetry of the items is only known of members of the first list, since there the induction over parts of a value
has its hypotheses. The same holds of the two lemmas below. -/
theorem forall₂_symm_of_mem (all : List.Forall₂ R xs ys) (symm : ∀ x ∈ xs, ∀ y, R x y → R y x) :
    List.Forall₂ R ys xs := by
  induction all with
  | nil => exact .nil
  | cons here _ ih =>
    obtain ⟨first, others⟩ := List.forall_mem_cons.1 symm
    exact .cons (first _ here) (ih others)

theorem forall₂_trans_of_mem (all : List.Forall₂ R xs ys) (behind : List.Forall₂ R ys zs)
    (trans : ∀ x ∈ xs, ∀ y z, R x y → R y z → R x z) : List.Forall₂ R xs zs := by
  induction all generalizing zs with
  | nil => exact behind
  | cons here _ ih =>
    obtain ⟨first, others⟩ := List.forall_mem_cons.1 trans
    cases behind with
    | cons next behind => exact .cons (first _ _ here next) (ih behind others)

theorem forall₂_iff_of_mem (each : ∀ x ∈ xs, ∀ y, S x y ↔ R x y ∧ P x) :
    List.Forall₂ S xs ys ↔ List.Forall₂ R xs ys ∧ ∀ x ∈ xs, P x := by
  induction xs generalizing ys with
  | nil => simp
  | cons x xs ih =>
    obtain ⟨first, others⟩ := List.forall_mem_cons.1 each
    cases ys with
    | nil => simp
    | cons y ys =>
      rw [List.forall₂_cons, List.forall₂_cons, first, ih others, List.forall_mem_cons]
      tauto

end Lists

/-- The functions on items and fields run over two lists at once, and fail where one of them ends first. As relations
they hold item by item between lists of one length. -/
theorem strictEqualItems_iff (xs ys : List Value) :
    strictEqualItems xs ys = true ↔ List.Forall₂ (fun v w => strictEquals v w = true) xs ys := by
  induction xs generalizing ys with
  | nil => cases ys <;> simp [strictEqualItems]
  | cons x xs ih => cases ys <;> simp [strictEqualItems, ih]

theorem strictEqualFields_iff (xs ys : List (String × Value)) : strictEqualFields xs ys = true ↔
    List.Forall₂ (fun x y => x.1 = y.1 ∧ strictEquals x.2 y.2 = true) xs ys := by
  induction xs generalizing ys with
  | nil => cases ys <;> simp [strictEqualFields]
  | cons x xs ih => cases ys <;> simp [strictEqualFields, ih]

theorem sameItems_iff (xs ys : List Value) :
    sameItems xs ys = true ↔ List.Forall₂ (fun v w => same v w = true) xs ys := by
  induction xs generalizing ys with
  | nil => cases ys <;> simp [sameItems]
  | cons x xs ih => cases ys <;> simp [sameItems, ih]

theorem sameFields_iff (xs ys : List (String × Value)) :
    sameFields xs ys = true ↔ List.Forall₂ (fun x y => x.1 = y.1 ∧ same x.2 y.2 = true) xs ys := by
  induction xs generalizing ys with
  | nil => cases ys <;> simp [sameFields]
  | cons x xs ih => cases ys <;> simp [sameFields, ih]

/-- What sameness of two values asks of them and of their parts. -/
inductive Alike : Value → Value → Prop
  | undefined : Alike .undefined .undefined
  | null : Alike .null .null
  | bool (b : Bool) : Alike (.bool b) (.bool b)
  | number {x y : Float} : Number.Agree x y → Alike (.number x) (.number y)
  | string (s : String) : Alike (.string s) (.string s)
  | date (t : Calendar.Instant) : Alike (.date t) (.date t)
  | array {xs ys : List Value} : List.Forall₂ (fun v w => same v w = true) xs ys → Alike (.array xs) (.array ys)
  | object {xs ys : List (String × Value)} : List.Forall₂ (fun x y => x.1 = y.1 ∧ same x.2 y.2 = true) xs ys →
      Alike (.object xs) (.object ys)
  | function {f g : Builtin} : f.name = g.name → Alike (.function f) (.function g)
  | library (l : Library) : Alike (.library l) (.library l)

/-- Beside numbers, arrays and objects sameness is the operator. -/
theorem Alike.of_strictEquals {v w : Value} (equal : strictEquals v w = true)
    (number : ∀ x y, v = .number x → w = .number y → False) (array : ∀ xs ys, v = .array xs → w = .array ys → False)
    (object : ∀ xs ys, v = .object xs → w = .object ys → False) : Alike v w := by
  fun_cases strictEquals v w with
  | case1 => exact .undefined
  | case2 => exact .null
  | case3 a b => exact eq_of_beq (α := Bool) equal ▸ .bool a
  | case4 => exact (number _ _ rfl rfl).elim
  | case5 s t => exact eq_of_beq (α := String) equal ▸ .string s
  | case6 t u => exact eq_of_beq (α := Calendar.Instant) equal ▸ .date t
  | case7 => exact (array _ _ rfl rfl).elim
  | case8 => exact (object _ _ rfl rfl).elim
  | case9 f g => exact .function (eq_of_beq (α := String) equal)
  | case10 l m => exact eq_of_beq (α := Library) equal ▸ .library l
  | case11 => simp [strictEquals] at equal

/-- Two numbers, arrays or objects are told apart by what they are made of, and all other values by the operator. -/
theorem same_iff_alike (v w : Value) : same v w = true ↔ Alike v w := by
  constructor
  · intro agree
    fun_cases same v w with
    | case1 x y =>
      rw [same, Bool.or_eq_true, Bool.and_eq_true] at agree
      exact .number agree
    | case2 xs ys => exact .array ((sameItems_iff ..).1 agree)
    | case3 xs ys => exact .object ((sameFields_iff ..).1 agree)
    | case4 _ _ number array object =>
      rw [same] at agree
      · exact .of_strictEquals agree number array object
      all_goals assumption
  · intro alike
    cases alike with
    | array items => exact (sameItems_iff ..).2 items
    | object fields => exact (sameFields_iff ..).2 fields
    | _ => simp_all [same, strictEquals, Number.Agree]

theorem same_refl (v : Value) : same v v = true := by
  induction v using induction_parts with
  | simple v noArray noObject =>
    rw [same_iff_alike]
    cases v with
    | number x => exact .number (.refl x)
    | array items => exact absurd rfl (noArray items)
    | object fields => exact absurd rfl (noObject fields)
    | function f => exact .function rfl
    | _ => constructor
  | array items ih => exact (sameItems_iff ..).2 (List.forall₂_same.2 ih)
  | object fields ih =>
    exact (sameFields_iff ..).2 (List.forall₂_same.2 fun field member => ⟨rfl, ih field member⟩)

theorem same_symm {v w : Value} (agree : same v w = true) : same w v = true := by
  induction v using induction_parts generalizing w with
  | simple v noArray noObject =>
    rw [same_iff_alike] at agree ⊢
    cases agree with
    | number agree => exact .number agree.symm
    | array => exact absurd rfl (noArray _)
    | object => exact absurd rfl (noObject _)
    | function named => exact .function named.symm
    | _ => constructor
  | array xs ih =>
    obtain _ | _ | _ | _ | _ | _ | items := (same_iff_alike ..).1 agree
    exact (sameItems_iff ..).2 (forall₂_symm_of_mem items fun x member y => ih x member)
  | object xs ih =>
    obtain _ | _ | _ | _ | _ | _ | _ | fields := (same_iff_alike ..).1 agree
    exact (sameFields_iff ..).2 (forall₂_symm_of_mem fields fun x member y both =>
      ⟨both.1.symm, ih x member both.2⟩)

/-- The value in the middle is taken apart by induction, and the constructors of the other two follow from it. -/
theorem same_trans {u v w : Value} (first : same u v = true) (second : same v w = true) : same u w = true := by
  induction u using induction_parts generalizing v w with
  | simple u noArray noObject =>
    rw [same_iff_alike] at first second ⊢
    cases first with
    | number agree =>
      cases second with
      | number next => exact .number (agree.trans next)
    | array => exact absurd rfl (noArray _)
    | object => exact absurd rfl (noObject _)
    | function named =>
      cases second with
      | function next => exact .function (named.trans next)
    | _ => exact second
  | array xs ih =>
    cases (same_iff_alike ..).1 first with
    | array items =>
      cases (same_iff_alike ..).1 second with
      | array behind =>
        exact (sameItems_iff ..).2 (forall₂_trans_of_mem items behind fun x member y z => ih x member)
  | object xs ih =>
    cases (same_iff_alike ..).1 first with
    | object fields =>
      cases (same_iff_alike ..).1 second with
      | object behind =>
        exact (sameFields_iff ..).2 (forall₂_trans_of_mem fields behind fun x member y z here next =>
          ⟨here.1.trans next.1, ih x member here.2 next.2⟩)

/-- The three shapes of values in which the operator and sameness may differ. Each lemma takes what is known of the
parts as a hypothesis, so that one induction over parts uses all of them. -/
theorem strictEquals_number_iff (x : Float) (w : Value) :
    strictEquals (.number x) w = true ↔ same (.number x) w = true ∧ ¬x.isNaN = true := by
  cases w with
  | number y =>
    rw [strictEquals, same, Bool.or_eq_true, Bool.and_eq_true]
    exact Number.beq_iff_agree x y
  | _ => simp [same, strictEquals]

theorem strictEquals_array_iff {xs : List Value}
    (each : ∀ v ∈ xs, ∀ w, strictEquals v w = true ↔ same v w = true ∧ ¬v.HasNaN) (w : Value) :
    strictEquals (.array xs) w = true ↔ same (.array xs) w = true ∧ ∀ v ∈ xs, ¬v.HasNaN := by
  cases w with
  | array ys =>
    rw [strictEquals, same, strictEqualItems_iff, sameItems_iff]
    exact forall₂_iff_of_mem each
  | _ => simp [same, strictEquals]

theorem strictEquals_object_iff {xs : List (String × Value)}
    (each : ∀ x ∈ xs, ∀ w, strictEquals x.2 w = true ↔ same x.2 w = true ∧ ¬x.2.HasNaN) (w : Value) :
    strictEquals (.object xs) w = true ↔ same (.object xs) w = true ∧ ∀ x ∈ xs, ¬x.2.HasNaN := by
  cases w with
  | object ys =>
    rw [strictEquals, same, strictEqualFields_iff, sameFields_iff]
    refine forall₂_iff_of_mem (P := fun x : String × Value => ¬x.2.HasNaN) fun x member y => ?_
    rw [each x member y.2, and_assoc]
  | _ => simp [same, strictEquals]

/-- Sameness is an equivalence of all values, also of those with NaN in them. The operator `===` holds between the same
values, unless there is NaN in them. -/
theorem same_equivalence : Equivalence (fun v w => same v w = true) ∧
    ∀ v w, strictEquals v w = true ↔ same v w = true ∧ ¬v.HasNaN := by
  refine ⟨⟨same_refl, same_symm, same_trans⟩, fun v w => ?_⟩
  induction v using induction_parts generalizing w with
  | simple v noArray noObject =>
    by_cases number : ∃ x, v = .number x
    · obtain ⟨x, rfl⟩ := number
      rw [hasNaN_number]
      exact strictEquals_number_iff x w
    · have plain : ¬v.HasNaN := by
        rintro (⟨nan⟩ | _ | _)
        · exact number ⟨_, rfl⟩
        · exact noArray _ rfl
        · exact noObject _ rfl
      have agree : same v w = strictEquals v w := by
        rw [same]
        · exact fun x _ here _ => number ⟨x, here⟩
        · exact fun xs _ here _ => noArray xs here
        · exact fun xs _ here _ => noObject xs here
      rw [agree, and_iff_left plain]
  | array xs ih =>
    rw [strictEquals_array_iff ih, hasNaN_array]
    simp only [not_exists, not_and]
  | object xs ih =>
    rw [strictEquals_object_iff ih, hasNaN_object]
    simp only [not_exists, not_and]

end Value

end Reckoner
