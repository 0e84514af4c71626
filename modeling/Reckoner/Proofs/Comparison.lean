import Reckoner.Proofs.ValidInstants
import Reckoner.Value.Operators

namespace Reckoner

/-- The operator that asks whether two values are in an order. -/
def BinaryOp.ofOrdering : Ordering → BinaryOp
  | .lt => less
  | .eq => strictEqual
  | .gt => greater

namespace Value

open Calendar

variable {v w : Value}

/-- Pairs with an order of their own: dates, texts, and numbers other than NaN. -/
inductive Comparable : Value → Value → Prop
  | date {t u : Instant} (left : t.IsValid) (right : u.IsValid) : Comparable (.date t) (.date u)
  | string (s t : String) : Comparable (.string s) (.string t)
  | number {x y : Float} (left : ¬x.isNaN = true) (right : ¬y.isNaN = true) : Comparable (.number x) (.number y)

/-- The two values are not different dates of one millisecond. -/
def Distinguished (v w : Value) : Prop := ∀ t u, v = .date t → w = .date u → t.millis = u.millis → t = u

/-- Both sides are texts once they are primitive, or they are compared as numbers. -/
theorem compare?_cases (v w : Value) :
    (∃ s t, v.toNumericPrimitive = .string s ∧ w.toNumericPrimitive = .string t ∧
      v.compare? w = some (compare s t) ∧ w.compare? v = some (compare t s)) ∨
    v.compare? w = Number.compare? v.toNumericPrimitive.toNumber w.toNumericPrimitive.toNumber ∧
      w.compare? v = Number.compare? w.toNumericPrimitive.toNumber v.toNumericPrimitive.toNumber := by
  unfold compare?
  cases v.toNumericPrimitive with
  | string s =>
    cases w.toNumericPrimitive with
    | string t => exact .inl ⟨s, t, rfl, rfl, rfl, rfl⟩
    | _ => exact .inr ⟨rfl, rfl⟩
  | _ => cases w.toNumericPrimitive <;> exact .inr ⟨rfl, rfl⟩

/-- Exchanging the sides turns the order round. -/
theorem compare?_swap (v w : Value) : w.compare? v = (v.compare? w).map Ordering.swap := by
  rcases compare?_cases v w with ⟨s, t, -, -, order, back⟩ | ⟨order, back⟩
  · rw [order, back, Option.map_some, ← Std.OrientedCmp.eq_swap]
  · rw [order, back, Number.compare?_swap]

theorem compare?_date {t u : Instant} (left : t.IsValid) (right : u.IsValid) :
    (Value.date t).compare? (.date u) = some (compare t.millis u.millis) :=
  Number.compare?_ofInt left.natAbs_millis_lt right.natAbs_millis_lt

/-- Comparable values have an order, and are equal for `===` if neither is before the other, unless they are different
dates of one millisecond. -/
theorem Comparable.compare?_eq (comparable : Comparable v w) : ∃ o, v.compare? w = some o ∧
    (v.strictEquals w = true ↔ o = .eq ∧ Distinguished v w) ∧ (o ≠ .eq → Distinguished v w) := by
  cases comparable with
  | @date t u left right =>
    have equal : (Value.date t).strictEquals (.date u) = true ↔ t = u := decide_eq_true_iff
    have distinguished : Distinguished (.date t) (.date u) ↔ (t.millis = u.millis → t = u) := by
      refine ⟨fun all => all t u rfl rfl, fun only t' u' left right => ?_⟩
      cases left
      cases right
      exact only
    refine ⟨_, compare?_date left right, ?_, fun apart => ?_⟩
    · rw [equal, distinguished, compare_eq_iff_eq]
      constructor
      · rintro rfl
        exact ⟨rfl, fun _ => rfl⟩
      · rintro ⟨tie, only⟩
        exact only tie
    · exact distinguished.2 fun tie => absurd (compare_eq_iff_eq.2 tie) apart
  | string s t =>
    have equal : (Value.string s).strictEquals (.string t) = true ↔ s = t := beq_iff_eq
    refine ⟨_, rfl, ?_, fun _ => nofun⟩
    rw [equal, Std.LawfulEqCmp.compare_eq_iff_eq]
    exact ⟨fun same => ⟨same, nofun⟩, And.left⟩
  | @number x y left right =>
    obtain ⟨u, place⟩ := Option.ne_none_iff_exists'.1 fun placeless => left ((Number.place?_eq_none_iff x).1 placeless)
    obtain ⟨v, place'⟩ := Option.ne_none_iff_exists'.1 fun placeless =>
      right ((Number.place?_eq_none_iff y).1 placeless)
    have equal : (Value.number x).strictEquals (.number y) = true ↔ u = v := Number.beq_iff_place place place'
    refine ⟨_, Number.compare?_eq place place', ?_, fun _ => nofun⟩
    rw [equal, compare_eq_iff_eq]
    exact ⟨fun same => ⟨same, nofun⟩, And.left⟩

theorem answer_iff {b c : Bool} : (.ok (.bool b) : Except EvalError Value) = .ok (.bool c) ↔ b = c := by simp

/-- The operators `<`, `===` and `>` hold as the order says, and none does for different dates of one millisecond. -/
theorem Comparable.ofOrdering_iff (comparable : Comparable v w) : ∃ o, v.compare? w = some o ∧
    ∀ p, (BinaryOp.ofOrdering p).apply v w = .ok (.bool true) ↔ p = o ∧ Distinguished v w := by
  obtain ⟨o, order, equal, apart⟩ := comparable.compare?_eq
  refine ⟨o, order, fun p => ?_⟩
  have strict (proper : p ≠ .eq) : (v.compare? w == some p) = true ↔ p = o ∧ Distinguished v w := by
    rw [order, beq_iff_eq, Option.some_inj, eq_comm, iff_self_and]
    rintro rfl
    exact apart proper
  cases p with
  | lt => exact answer_iff.trans (strict nofun)
  | gt => exact answer_iff.trans (strict nofun)
  | eq => exact answer_iff.trans (equal.trans (and_congr_left fun _ => eq_comm))

theorem compare?_swap_beq (v w : Value) (o : Ordering) : (w.compare? v == some o.swap) = (v.compare? w == some o) := by
  rw [compare?_swap]
  cases v.compare? w with
  | none => rfl
  | some p => cases o <;> cases p <;> rfl

/-- Comparison operators are coherent: exchanged sides exchange the operators, and of two values with an order of their
own one is less than, equal to or greater than the other, and just one of these, unless the values are different dates
of one millisecond, for which none holds. -/
theorem comparison_coherent (v w : Value) :
    BinaryOp.less.apply v w = BinaryOp.greater.apply w v ∧
    BinaryOp.lessEqual.apply v w = BinaryOp.greaterEqual.apply w v ∧
    (Comparable v w →
      ((∃! o, (BinaryOp.ofOrdering o).apply v w = .ok (.bool true)) ↔ Distinguished v w) ∧
      (BinaryOp.lessEqual.apply v w = .ok (.bool true) ↔ BinaryOp.greater.apply v w = .ok (.bool false))) := by
  have less := compare?_swap_beq v w .lt
  have equal := compare?_swap_beq v w .eq
  refine ⟨?_, ?_, fun comparable => ?_⟩
  · exact congrArg (fun b => Except.ok (Value.bool b)) less.symm
  · exact congrArg (fun b => Except.ok (Value.bool b)) (congrArg₂ or less equal).symm
  · obtain ⟨o, order, holds⟩ := comparable.ofOrdering_iff
    constructor
    · constructor
      · rintro ⟨p, answer, -⟩
        exact ((holds p).1 answer).2
      · intro distinguished
        exact ⟨o, (holds o).2 ⟨rfl, distinguished⟩, fun p answer => ((holds p).1 answer).1⟩
    · refine answer_iff.trans (Iff.trans ?_ answer_iff.symm)
      rw [order]
      cases o <;> decide

/-- The last second of 1969 and the first instant of 1970. -/
theorem comparison_coherent_new_year :
    let v := Value.date ⟨-1, 0⟩
    let w := Value.date ⟨0, 0⟩
    Comparable v w ∧ BinaryOp.less.apply v w = BinaryOp.greater.apply w v ∧
      (∃! o, (BinaryOp.ofOrdering o).apply v w = .ok (.bool true)) ∧
      (BinaryOp.lessEqual.apply v w = .ok (.bool true) ↔ BinaryOp.greater.apply v w = .ok (.bool false)) := by
  intro v w
  have comparable : Comparable v w :=
    .date ⟨by decide, by decide, by decide, by decide⟩ ⟨by decide, by decide, by decide, by decide⟩
  obtain ⟨swapped, -, coherent⟩ := comparison_coherent v w
  have distinguished : Distinguished v w := by
    intro t u left right tie
    cases Value.date.inj left
    cases Value.date.inj right
    cases tie
  exact ⟨comparable, swapped, (coherent comparable).1.2 distinguished, (coherent comparable).2⟩

/-- Of two dates that are read from texts and lie in one millisecond neither is less than, equal to or greater than the
other. -/
theorem comparison_same_millisecond : ¬∀ s s' t t', read? s = some t → read? s' = some t' →
    ∃! o, (BinaryOp.ofOrdering o).apply (.date t) (.date t') = .ok (.bool true) := by
  intro every
  have first : read? "1970-01-01T00:00:00.0001Z" = some ⟨0, 100000⟩ := by decide +kernel
  have second : read? "1970-01-01T00:00:00.0002Z" = some ⟨0, 200000⟩ := by decide +kernel
  have comparable : Comparable (.date ⟨0, 100000⟩) (.date ⟨0, 200000⟩) :=
    .date (read?_isValid first) (read?_isValid second)
  obtain ⟨_, -, holds⟩ := comparable.ofOrdering_iff
  obtain ⟨o, answer, -⟩ := every _ _ _ _ first second
  cases ((holds o).1 answer).2 _ _ rfl rfl rfl

end Value

end Reckoner
