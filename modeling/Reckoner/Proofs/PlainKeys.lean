import Reckoner.Path
import Reckoner.Proofs.Dictionary
import Reckoner.Script

namespace Reckoner

/-- A text without points and brackets spells a single key. -/
theorem Path.ofText_unmarked {s : String} (unmarked : ∀ c ∈ s.toList, isMark c = false) :
    ofText s = [.key s] := by
  have unmarked : s.toList.any (fun c => c == '.' || c == '[') = false := by
    rw [List.any_eq_false]
    intro c member
    have free := unmarked c member
    simp only [isMark, Bool.or_eq_false_iff] at free
    simp [free.1]
  simp only [ofText, unmarked, Bool.false_eq_true, if_false]

theorem isMark_eq_false_of_wordChar {c : Char} (inWord : isNameStart c = true ∨ c.isDigit = true) :
    Path.isMark c = false := by
  cases marked : Path.isMark c with
  | false => rfl
  | true =>
    simp only [Path.isMark, Bool.or_eq_true, beq_iff_eq] at marked
    rcases marked with (rfl | rfl) | rfl <;> revert inWord <;> decide

/-- The check of names leaves no point or bracket in them, so that no name is split. -/
theorem ofText_of_isValidName {name : String} (valid : isValidName name = true) :
    Path.ofText name = [.key name] := by
  refine Path.ofText_unmarked fun c member => isMark_eq_false_of_wordChar ?_
  unfold isValidName at valid
  split at valid
  · exact absurd valid Bool.false_ne_true
  · rename_i first rest spelled
    simp only [Bool.and_eq_true, List.all_eq_true, Bool.or_eq_true] at valid
    rw [spelled] at member
    rcases List.mem_cons.mp member with here | later
    · exact Or.inl (here ▸ valid.1.1)
    · exact valid.1.2 c later

/-- A flat object whose keys are single keys is nested already. -/
theorem unflatten_plain {flat : Dict Value} (sorted : flat.Sorted)
    (plain : ∀ entry ∈ flat, Path.ofText entry.1 = [.key entry.1]) : unflatten flat = .object flat := by
  have step : ∀ front : Dict Value,
      flat.foldl (fun target entry => target.setAt (Path.ofText entry.1) entry.2) (Value.object front) =
        .object (flat.foldl (fun d entry => Dict.insert entry.1 entry.2 d) front) := by
    clear sorted
    induction flat with
    | nil => exact fun _ => rfl
    | cons entry rest ih =>
      intro front
      have here : (Value.object front).setAt (Path.ofText entry.1) entry.2 =
          .object (Dict.insert entry.1 entry.2 front) := by
        rw [plain entry (List.mem_cons_self ..)]
        simp only [Value.setAt]
      simp only [List.foldl_cons, here]
      exact ih (fun other member => plain other (List.mem_cons_of_mem _ member)) _
  have back := Dict.ofList_eq_self sorted
  rw [Dict.ofList_eq_foldl] at back
  exact (step []).trans (congrArg Value.object back)

end Reckoner
