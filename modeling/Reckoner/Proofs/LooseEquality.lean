import Reckoner.Proofs.StrictEquality

namespace Reckoner.Value

/-- What one step of the operator `==` comes to: an answer, or operands to compare in place of the given ones. -/
inductive LooseStep where
  | settled (equal : Bool)
  | converted (v w : Value)

/-- One step of the operator `==`, which converts one operand at most: first a truth value into a number, then what is
neither number nor text into its text, if the other operand is one. -/
def looseStep : Value → Value → LooseStep
  | .undefined, w | .null, w => .settled w.isNullish
  | _, .undefined | _, .null => .settled false
  | .number x, .string s => .settled (x == Number.ofText s)
  | .string s, .number x => .settled (Number.ofText s == x)
  | .bool b, w => .converted (.number (toNumber (.bool b))) w
  | v, .bool b => .converted v (.number (toNumber (.bool b)))
  | v, w =>
    if !v.isScalar && w.isScalar then .converted v.toPrimitive w
    else if v.isScalar && !w.isScalar then .converted v w.toPrimitive
    else .settled (strictEquals v w)

/-- A comparison by steps, with the number of conversions on the way to its answer. -/
inductive LooselyCompared : ℕ → Value → Value → Bool → Prop
  | settled {v w : Value} {equal : Bool} (step : looseStep v w = .settled equal) : LooselyCompared 0 v w equal
  | converted {n : ℕ} {v w v' w' : Value} {equal : Bool} (step : looseStep v w = .converted v' w')
      (rest : LooselyCompared n v' w' equal) : LooselyCompared (n + 1) v w equal

/-- How often an operand may be converted. -/
def conversions : Value → ℕ
  | .undefined | .null | .number _ | .string _ => 0
  | _ => 1

/-- An answer is that of the operator. -/
theorem looseEquals_of_settled {v w : Value} {equal : Bool} (step : looseStep v w = .settled equal) :
    looseEquals v w = equal := by
  cases v <;> cases w <;> cases step <;> rfl

/-- A conversion keeps the answer and uses up one of the conversions that are left. -/
theorem looseEquals_of_converted {v w v' w' : Value} (step : looseStep v w = .converted v' w') :
    looseEquals v w = looseEquals v' w' ∧ conversions v' + conversions w' + 1 = conversions v + conversions w := by
  cases v <;> cases w <;> cases step <;> exact ⟨rfl, rfl⟩

theorem conversions_le_one (v : Value) : conversions v ≤ 1 := by
  unfold conversions
  split <;> omega

/-- Every comparison comes to an answer, since each step but the last one uses up a conversion. -/
theorem exists_looselyCompared (v w : Value) :
    ∃ n ≤ conversions v + conversions w, LooselyCompared n v w (looseEquals v w) := by
  cases step : looseStep v w with
  | settled equal => exact ⟨0, Nat.zero_le _, .settled (by rw [step, looseEquals_of_settled step])⟩
  | converted v' w' =>
    obtain ⟨kept, used⟩ := looseEquals_of_converted step
    obtain ⟨n, bound, rest⟩ := exists_looselyCompared v' w'
    exact ⟨n + 1, by omega, kept ▸ .converted step rest⟩
termination_by conversions v + conversions w
decreasing_by omega

theorem LooselyCompared.eq_looseEquals {n : ℕ} {v w : Value} {equal : Bool} (compared : LooselyCompared n v w equal) :
    equal = looseEquals v w := by
  induction compared with
  | settled step => exact (looseEquals_of_settled step).symm
  | converted step _ ih => rw [ih, (looseEquals_of_converted step).1]

theorem toPrimitive_of_isScalar {v : Value} (scalar : v.isScalar = true) : v.toPrimitive = v := by
  cases v <;> first | rfl | cases scalar

theorem scalarEquals_comm (v w : Value) : scalarEquals v w = scalarEquals w v := by
  cases v with
  | number x =>
    cases w with
    | string s => exact BEq.comm
    | _ => exact strictEquals_comm _ _
  | string s =>
    cases w with
    | number x => exact BEq.comm
    | _ => exact strictEquals_comm _ _
  | _ => cases w <;> exact strictEquals_comm _ _

theorem looseEquals_comm (v w : Value) : looseEquals v w = looseEquals w v := by
  simp only [looseEquals, Bool.or_comm w.isNullish, Bool.and_comm w.isNullish]
  split
  · rfl
  · by_cases left : v.unbool.isScalar = true
    · by_cases right : w.unbool.isScalar = true
      · rw [if_pos left, if_pos right, toPrimitive_of_isScalar left, toPrimitive_of_isScalar right, scalarEquals_comm]
      · rw [if_pos left, if_neg right, if_pos left, scalarEquals_comm]
    · by_cases right : w.unbool.isScalar = true
      · rw [if_neg left, if_pos right, if_pos right, scalarEquals_comm]
      · rw [if_neg left, if_neg right, if_neg right, if_neg left, strictEquals_comm]

theorem looseEquals_of_isNullish {v : Value} (nullish : v.isNullish = true) (w : Value) :
    looseEquals v w = w.isNullish := by
  rw [looseEquals, nullish, Bool.true_or, if_pos rfl, Bool.true_and]

theorem looseEquals_of_strictEquals {v w : Value} (equal : strictEquals v w = true) : looseEquals v w = true := by
  have content := (strictEquals_iff_equated v w).1 equal
  cases content with
  | bool b => cases b <;> decide +kernel
  | _ => exact equal

/-- The operator `==` answers after two conversions at most. It is symmetric, and it holds wherever the operator `===`
does. `undefined` and `null` equal each other and nothing else. -/
theorem looseEquals_compares (v w : Value) :
    ((∃ n ≤ 2, LooselyCompared n v w (looseEquals v w)) ∧
        ∀ n equal, LooselyCompared n v w equal → equal = looseEquals v w) ∧
      looseEquals v w = looseEquals w v ∧ (strictEquals v w = true → looseEquals v w = true) ∧
      (v.isNullish = true → looseEquals v w = w.isNullish) := by
  refine ⟨⟨?_, fun n equal compared => compared.eq_looseEquals⟩, looseEquals_comm v w, looseEquals_of_strictEquals,
    fun nullish => looseEquals_of_isNullish nullish w⟩
  obtain ⟨n, bound, compared⟩ := exists_looselyCompared v w
  have left := conversions_le_one v
  have right := conversions_le_one w
  exact ⟨n, by omega, compared⟩

/-- Both operands converted, equal operands in containers, and the two values that equal nothing else. -/
theorem looseEquals_compares_converted :
    (∃ n ≤ 2, LooselyCompared n (.bool true) (.array [.string "1"]) true) ∧
      strictEquals (.array [.number 0.0]) (.array [.number (-0.0)]) = true ∧
      looseEquals (.array [.number 0.0]) (.array [.number (-0.0)]) = true ∧
      isNullish .undefined = true ∧ looseEquals .undefined .null = true ∧ looseEquals .undefined (.string "") = false := by
  have answer : looseEquals (.bool true) (.array [.string "1"]) = true := by decide +kernel
  have equal : strictEquals (.array [.number 0.0]) (.array [.number (-0.0)]) = true := by decide +kernel
  exact ⟨answer ▸ (looseEquals_compares (.bool true) (.array [.string "1"])).1.1, equal,
    (looseEquals_compares _ _).2.2.1 equal, rfl, (looseEquals_compares .undefined .null).2.2.2 rfl,
    (looseEquals_compares .undefined (.string "")).2.2.2 rfl⟩

end Reckoner.Value
