namespace Reckoner.Text

/-- The number of characters before the first occurrence of a text that is not empty in another. -/
def firstOccurrence? (needle text : List Char) : Option Nat :=
  let slice := (String.ofList text).toSlice
  (slice.find? (String.ofList needle)).map fun place => (slice.sliceTo place).copy.length

open String.Slice.Pattern.Model in
theorem find?_eq_some_iff_splits {needle : List Char} (occupied : needle ≠ []) {s : String.Slice}
    {p : s.Pos} :
    s.find? (String.ofList needle) = some p ↔
      (∃ before behind, p.Splits before (String.ofList needle ++ behind)) ∧
        ∀ q before behind, q.Splits before (String.ofList needle ++ behind) → p ≤ q := by
  have notEmpty : (String.ofList needle).toSlice.isEmpty = false := by simpa using occupied
  have := ForwardSliceSearcher.strictPatternModel notEmpty
  have := ForwardSliceSearcher.lawfulToForwardSearcherModel notEmpty
  rw [String.Slice.find?_string_eq_find?_toSlice, find?_eq_some_iff]
  simp only [ForwardSliceSearcher.matchesAt_iff_splits, String.copy_toSlice]
  refine and_congr_right fun _ => ⟨fun first q before behind split => ?_, fun first q lower => ?_⟩
  · exact Std.not_lt.1 fun lower => first q lower ⟨before, behind, split⟩
  · rintro ⟨before, behind, split⟩
    exact Std.not_lt.2 (first q before behind split) lower

/-- The answer is the length of a text before an occurrence, and no other one is shorter. -/
theorem firstOccurrence?_least {needle text : List Char} (occupied : needle ≠ []) {i : Nat}
    (found : firstOccurrence? needle text = some i) :
    (∃ before behind, text = before ++ needle ++ behind ∧ before.length = i) ∧
      ∀ before behind, text = before ++ needle ++ behind → i ≤ before.length := by
  obtain ⟨p, atPlace, rfl⟩ := Option.map_eq_some_iff.1 found
  obtain ⟨⟨before, behind, split⟩, first⟩ := (find?_eq_some_iff_splits occupied).1 atPlace
  rw [split.copy_sliceTo_eq]
  constructor
  · refine ⟨before.toList, behind.toList, ?_, String.length_toList⟩
    simpa using congrArg String.toList split.eq_append
  · intro front rest same
    have whole : (String.ofList text).toSlice.copy =
        String.ofList front ++ (String.ofList needle ++ String.ofList rest) := by
      simp [same]
    have other := String.Slice.Pos.splits_ofEqAppend whole
    obtain ⟨gap, longer, _⟩ := (split.le_iff_exists_eq_append other).1 (first _ _ _ other)
    have lengths := congrArg String.length longer
    simp only [String.length_ofList, String.length_append] at lengths
    omega

/-- There is no answer only if there is no occurrence. -/
theorem firstOccurrence?_eq_none_iff {needle text : List Char} :
    firstOccurrence? needle text = none ↔ ¬ needle <:+: text := by
  simp [firstOccurrence?]

end Reckoner.Text
