import Reckoner.Parser

namespace Reckoner.Parser

variable {τ α : Type} {p : Parser τ α} {input : Array τ}

/-- The successes of a parser neither go back nor leave the input. They may take nothing. -/
def Forward (p : Parser τ α) : Prop :=
  ∀ ⦃input : Array τ⦄ ⦃pos next : Nat⦄ ⦃a : α⦄, pos ≤ input.size → p input pos = .ok (next, a) →
    pos ≤ next ∧ next ≤ input.size

/-- Whatever the parser gives, it has taken an item for it. -/
def Consumes (p : Parser τ α) : Prop :=
  ∀ ⦃input : Array τ⦄ ⦃pos next : Nat⦄ ⦃a : α⦄, p input pos = .ok (next, a) → pos < next

/-- Rounds one after the other, each of which leads to a further one, and the items that they give. -/
inductive Rounds (round : Nat → Nat → α → Prop) : Nat → Nat → List α → Prop
  | start {pos : Nat} : Rounds round pos pos []
  | next {pos place last : Nat} {a : α} {items : List α} : round pos place a → Rounds round place last items →
      Rounds round pos last (a :: items)

/-- Rounds from a position end: there is one for each item and a last one that leads to no further one, no more than
items are left and one, and all but the last move forward. -/
structure Stops (round : Nat → Nat → α → Prop) (size pos last : Nat) (items : List α) : Prop where
  rounds : Rounds round pos last items
  halts : ∀ next a, ¬ round last next a
  inside : pos ≤ last ∧ last ≤ size
  few : items.length + 1 ≤ size - pos + 1
  onward : ∀ {place next seen a}, Rounds round pos place seen → round place next a → place < next

/-- Rounds stay in the input and take an item each if all of them move forward in it. -/
theorem Rounds.bounds {round : Nat → Nat → α → Prop} {size pos last : Nat} {items : List α}
    (rounds : Rounds round pos last items) (inside : pos ≤ size)
    (moves : ∀ {place next seen a}, Rounds round pos place seen → place ≤ size → round place next a →
      place < next ∧ next ≤ size) : pos + items.length ≤ last ∧ last ≤ size := by
  induction rounds with
  | start => exact ⟨Nat.le_refl _, inside⟩
  | next step _ ih =>
    obtain ⟨onward, ends⟩ := moves .start inside step
    have behind := ih ends fun reached => moves (.next step reached)
    rw [List.length_cons]
    omega

theorem Rounds.stops {round : Nat → Nat → α → Prop} {size pos last : Nat} {items : List α}
    (rounds : Rounds round pos last items) (halts : ∀ next a, ¬ round last next a) (inside : pos ≤ size)
    (moves : ∀ {place next seen a}, Rounds round pos place seen → place ≤ size → round place next a →
      place < next ∧ next ≤ size) : Stops round size pos last items := by
  have bounds := rounds.bounds inside moves
  exact ⟨rounds, halts, by omega, by omega, fun reached step => (moves reached (reached.bounds inside moves).2 step).1⟩

/-- A round of a repetition: an item that takes something. -/
def ManyRound (p : Parser τ α) (input : Array τ) (pos next : Nat) (a : α) : Prop :=
  p input pos = .ok (next, a) ∧ next ≠ pos

theorem Forward.manyRound (forward : Forward p) {pos next : Nat} {a : α} (inside : pos ≤ input.size)
    (step : ManyRound p input pos next a) : pos < next ∧ next ≤ input.size := by
  obtain ⟨given, moved⟩ := step
  obtain ⟨onward, ends⟩ := forward inside given
  exact ⟨by omega, ends⟩

/-- As many rounds as there are items left are enough, since every round takes one. -/
theorem Forward.exists_manyLoop (forward : Forward p) {pos rounds : Nat} (inside : pos ≤ input.size)
    (enough : input.size - pos ≤ rounds) : ∃ last items, manyLoop p input rounds pos = some (last, items) ∧
      Rounds (ManyRound p input) pos last items ∧ ∀ next a, ¬ ManyRound p input last next a := by
  fun_induction manyLoop p input rounds pos with
  | case1 rounds pos e failed =>
    refine ⟨pos, [], rfl, .start, fun next a step => ?_⟩
    cases failed.symm.trans step.1
  | case2 rounds pos a given =>
    refine ⟨pos, [], rfl, .start, fun next b step => ?_⟩
    cases given.symm.trans step.1
    exact step.2 rfl
  | case3 pos next a given moved =>
    have ends := forward.manyRound inside ⟨given, moved⟩
    omega
  | case4 pos next a given moved rounds ih =>
    obtain ⟨onward, before⟩ := forward.manyRound inside ⟨given, moved⟩
    obtain ⟨last, items, looped, behind, halts⟩ := ih before (by omega)
    exact ⟨last, a :: items, by rw [looped]; rfl, .next ⟨given, moved⟩ behind, halts⟩

/-- A repetition ends, and does not fail. -/
theorem Forward.exists_many (forward : Forward p) {pos : Nat} (inside : pos ≤ input.size) :
    ∃ last items, many p input pos = .ok (last, items) ∧
      Stops (ManyRound p input) input.size pos last items := by
  obtain ⟨last, items, looped, rounds, halts⟩ := forward.exists_manyLoop inside (Nat.le_refl _)
  exact ⟨last, items, by rw [many, looped],
    rounds.stops halts inside fun _ before step => forward.manyRound before step⟩

end Reckoner.Parser
