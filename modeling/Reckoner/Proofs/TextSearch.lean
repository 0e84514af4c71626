import Reckoner.Proofs.Positions

namespace Reckoner.Value

open Number

/-- A text stands in another one behind a number of characters. -/
def OccursAt (needle text : List Char) (i : ℕ) : Prop :=
  ∃ before behind, text = before ++ needle ++ behind ∧ before.length = i

/-- The first place from a position on at which a text occurs. -/
structure IsFirstFrom (start : ℕ) (needle text : List Char) (i : ℕ) : Prop where
  from_start : start ≤ i
  occurs : OccursAt needle text i
  least : ∀ j, start ≤ j → OccursAt needle text j → i ≤ j

section Occurrences

variable {needle text : List Char} {start stop i : ℕ}

theorem OccursAt.le (occurs : OccursAt needle text i) : i + needle.length ≤ text.length := by
  obtain ⟨before, behind, rfl, rfl⟩ := occurs
  simp

theorem occursAt_nil_iff : OccursAt [] text i ↔ i ≤ text.length := by
  constructor
  · exact OccursAt.le
  · intro inside
    exact ⟨text.take i, text.drop i, by simp, List.length_take_of_le inside⟩

theorem occursAt_drop_iff (inside : start ≤ text.length) :
    OccursAt needle (text.drop start) i ↔ OccursAt needle text (start + i) := by
  constructor
  · rintro ⟨before, behind, split, rfl⟩
    refine ⟨text.take start ++ before, behind, ?_, by simp [inside]⟩
    rw [List.append_assoc, List.append_assoc, ← List.append_assoc before, ← split, List.take_append_drop]
  · rintro ⟨before, behind, rfl, length⟩
    refine ⟨before.drop start, behind, ?_, by rw [List.length_drop]; omega⟩
    rw [List.append_assoc, List.append_assoc, List.drop_append_of_le_length (by omega)]

theorem isPrefixOf_drop_iff (inside : i ≤ text.length) :
    needle.isPrefixOf (text.drop i) = true ↔ OccursAt needle text i := by
  rw [List.isPrefixOf_iff_prefix]
  constructor
  · rintro ⟨behind, split⟩
    exact (occursAt_drop_iff inside).1 ⟨[], behind, split.symm, rfl⟩
  · intro occurs
    obtain ⟨before, behind, split, empty⟩ := (occursAt_drop_iff (i := 0) inside).2 occurs
    rw [List.length_eq_zero_iff.1 empty] at split
    exact ⟨behind, split.symm⟩

theorem isSuffixOf_take_iff (inside : stop ≤ text.length) :
    needle.isSuffixOf (text.take stop) = true ↔ ∃ i, OccursAt needle text i ∧ i + needle.length = stop := by
  rw [List.isSuffixOf_iff_suffix]
  constructor
  · rintro ⟨before, split⟩
    have length := congrArg List.length split
    rw [List.length_append, List.length_take_of_le inside] at length
    exact ⟨before.length, ⟨before, text.drop stop, by rw [split, List.take_append_drop], rfl⟩, length⟩
  · rintro ⟨_, ⟨before, behind, rfl, rfl⟩, rfl⟩
    rw [← List.length_append, List.take_left]
    exact List.suffix_append before needle

/-- The characters between two positions stand at the first of them. -/
theorem occursAt_between (le : start ≤ stop) (inside : stop ≤ text.length) :
    OccursAt ((text.take stop).drop start) text start ∧ start + ((text.take stop).drop start).length = stop := by
  have front : (text.take stop).take start = text.take start := by rw [List.take_take, min_eq_left le]
  refine ⟨⟨text.take start, text.drop stop, ?_, List.length_take_of_le (le.trans inside)⟩, ?_⟩
  · rw [← front, List.take_append_drop, List.take_append_drop]
  · rw [List.length_drop, List.length_take_of_le inside]
    omega

theorem take_max_drop (text : List Char) (start stop : ℕ) :
    (text.take stop).drop start = (text.take (max start stop)).drop start := by
  rcases le_total start stop with le | le
  · rw [max_eq_right le]
  · rw [max_eq_left le, List.drop_eq_nil_of_le (List.length_take_le ..),
      List.drop_eq_nil_of_le ((List.length_take_le ..).trans le)]

/-- The search answers with the first occurrence, or there is none. -/
theorem find?_isFirstFrom (needle : List Char) (inside : start ≤ text.length) :
    (∃ i, find? needle text start = some i ∧ IsFirstFrom start needle text i) ∨
      find? needle text start = none ∧ ∀ i, start ≤ i → ¬OccursAt needle text i := by
  unfold find?
  rcases eq_or_ne needle [] with rfl | occupied
  · rw [List.isEmpty_nil, if_pos rfl, min_eq_left inside]
    exact .inl ⟨start, rfl, le_rfl, occursAt_nil_iff.2 inside, fun _ le _ => le⟩
  rw [List.isEmpty_eq_false_iff.2 occupied, if_neg Bool.false_ne_true]
  have shifted {j : ℕ} (le : start ≤ j) (occurs : OccursAt needle text j) :
      OccursAt needle (text.drop start) (j - start) := by
    rw [occursAt_drop_iff inside]
    rwa [Nat.add_sub_cancel' le]
  cases found : Text.firstOccurrence? needle (text.drop start) with
  | none =>
    refine .inr ⟨rfl, fun i le occurs => ?_⟩
    obtain ⟨before, behind, split, -⟩ := shifted le occurs
    exact Text.firstOccurrence?_eq_none_iff.1 found ⟨before, behind, split.symm⟩
  | some i =>
    obtain ⟨occurs, least⟩ := Text.firstOccurrence?_least occupied found
    refine .inl ⟨start + i, rfl, Nat.le_add_right .., (occursAt_drop_iff inside).1 occurs, fun j le occurs => ?_⟩
    obtain ⟨before, behind, split, length⟩ := shifted le occurs
    have := least before behind split
    omega

end Occurrences

/-- The number of a place is not the one that stands for no place. -/
theorem ofNat_beq_minus_one (i : ℕ) : (Float.ofNat i == -1.0) = false := by
  have minus : place? (-1.0) = some ((-1 : ℚ) : WithTop ℚ) := (hasValue_literal 1 (by decide)).neg.place?
  refine Bool.eq_false_iff.2 fun same => ?_
  rcases (isNearest_ofNat i).cases with ⟨m, q, content⟩ | ⟨content, -⟩
  · have place : place? (Float.ofNat i) = some ((signedValue false m q : ℚ) : WithTop ℚ) := by
      rw [place?, content]
      rfl
    have value : signedValue false m q = -1 := by exact_mod_cast (beq_iff_place place minus).1 same
    have nonnegative : (0 : ℚ) ≤ m * 2 ^ q := by positivity
    rw [signedValue_false] at value
    linarith
  · have place : place? (Float.ofNat i) = some ⊤ := by
      rw [place?, content]
      rfl
    exact (coe_lt_top (-1)).ne' ((beq_iff_place place minus).1 same)

/-- The text that a method looks for. -/
def sought (args : List Value) : List Char := (argument args 0).text.toList

/-- A method of a text returns a value. -/
def Returns (s : String) (method : String) (args : List Value) (v : Value) : Prop :=
  callMethod (.string s) method args = some (.ok v)

/-- The answers of the methods that look for a text or cut one out. Their positions are integer parts of arguments,
brought between zero and the length, and `slice` counts negative ones from the end. -/
structure SearchAnswers (s : String) (args : List Value) : Prop where
  indexOf : ∃ q, IsPositionOr 0 s.toList.length Extended.IsClamped (argument args 1) q ∧
    ((∃ i, IsFirstFrom q (sought args) s.toList i ∧ Returns s "indexOf" args (.number (Float.ofNat i))) ∨
      (∀ i, q ≤ i → ¬OccursAt (sought args) s.toList i) ∧ Returns s "indexOf" args (.number (-1.0)))
  includes : ∃ x b, Returns s "indexOf" args (.number x) ∧ Returns s "includes" args (.bool b) ∧
    (b = true ↔ ¬(x == -1.0) = true)
  startsWith : ∃ q b, IsPositionOr 0 s.toList.length Extended.IsClamped (argument args 1) q ∧
    Returns s "startsWith" args (.bool b) ∧ (b = true ↔ OccursAt (sought args) s.toList q)
  endsWith : ∃ q b, IsPositionOr s.toList.length s.toList.length Extended.IsClamped (argument args 1) q ∧
    Returns s "endsWith" args (.bool b) ∧
      (b = true ↔ ∃ i, OccursAt (sought args) s.toList i ∧ i + (sought args).length = q)
  slice : ∃ start stop r, IsPositionOr 0 s.toList.length Extended.IsRelative (argument args 0) start ∧
    IsPositionOr s.toList.length s.toList.length Extended.IsRelative (argument args 1) stop ∧
    Returns s "slice" args (.string (String.ofList r)) ∧ OccursAt r s.toList start ∧ start + r.length = max start stop
  substring : ∃ a b r, IsPositionOr 0 s.toList.length Extended.IsClamped (argument args 0) a ∧
    IsPositionOr s.toList.length s.toList.length Extended.IsClamped (argument args 1) b ∧
    Returns s "substring" args (.string (String.ofList r)) ∧ OccursAt r s.toList (min a b) ∧
      min a b + r.length = max a b

section Answers

variable (s : String) (args : List Value)

theorem searchAnswers : SearchAnswers s args where
  indexOf := by
    have place := isPositionOr_position (Nat.zero_le s.toList.length) (argument args 1)
    refine ⟨_, place, ?_⟩
    have returned (found : Option ℕ) (search : find? (sought args) s.toList _ = found) :
        Returns s "indexOf" args (positionNumber found) := congrArg (some ∘ Except.ok ∘ positionNumber) search
    rcases find?_isFirstFrom (sought args) place.1 with ⟨i, search, first⟩ | ⟨search, absent⟩
    · exact .inl ⟨i, first, returned _ search⟩
    · exact .inr ⟨absent, returned _ search⟩
  includes := by
    cases search : find? (sought args) s.toList (positionOr 0 s.toList.length position (argument args 1)) with
    | none =>
      exact ⟨-1.0, false, congrArg (some ∘ Except.ok ∘ positionNumber) search,
        congrArg (some ∘ Except.ok ∘ Value.bool ∘ Option.isSome) search, by decide +kernel⟩
    | some i =>
      refine ⟨Float.ofNat i, true, congrArg (some ∘ Except.ok ∘ positionNumber) search,
        congrArg (some ∘ Except.ok ∘ Value.bool ∘ Option.isSome) search, ?_⟩
      rw [ofNat_beq_minus_one]
      decide
  startsWith := by
    have place := isPositionOr_position (Nat.zero_le s.toList.length) (argument args 1)
    exact ⟨_, _, place, rfl, isPrefixOf_drop_iff place.1⟩
  endsWith := by
    have place := isPositionOr_position (le_refl s.toList.length) (argument args 1)
    exact ⟨_, _, place, rfl, isSuffixOf_take_iff place.1⟩
  slice := by
    have first := isPositionOr_relativePosition (Nat.zero_le s.toList.length) (argument args 0)
    have last := isPositionOr_relativePosition (le_refl s.toList.length) (argument args 1)
    refine ⟨_, _, _, first, last, rfl, ?_⟩
    rw [sliceOf, take_max_drop]
    exact occursAt_between (le_max_left ..) (max_le first.1 last.1)
  substring := by
    have first := isPositionOr_position (Nat.zero_le s.toList.length) (argument args 0)
    have last := isPositionOr_position (le_refl s.toList.length) (argument args 1)
    exact ⟨_, _, _, first, last, rfl, occursAt_between min_le_max (max_le first.1 last.1)⟩

theorem sliceOf_pair {α : Type} (items : List α) (x y : Float) : sliceOf items [.number x, .number y] =
    (items.take (relativePosition items.length y)).drop (relativePosition items.length x) := rfl

theorem sliceOf_single {α : Type} (items : List α) (x : Float) :
    sliceOf items [.number x] = (items.take items.length).drop (relativePosition items.length x) := rfl

/-- A text is cut in two at a position. -/
theorem slice_append (x : Float) : ∃ front rest, Returns s "slice" [.number 0.0, .number x] (.string front) ∧
    Returns s "slice" [.number x] (.string rest) ∧ front ++ rest = s := by
  have zero : toInt? 0.0 = some 0 := (hasValue_literal 0 (by decide)).toInt?
  have first : relativePosition s.toList.length 0.0 = 0 := by
    rw [relativePosition, zero]
    exact Nat.zero_min s.toList.length
  refine ⟨_, _, rfl, rfl, ?_⟩
  rw [sliceOf_pair, first, List.drop_zero, sliceOf_single, List.take_length, ← String.ofList_append,
    List.take_append_drop, String.ofList_toList]

end Answers

/-- The methods of texts that search and cut agree with the occurrences of one text in another, and a text cut in two
at any position is put together again. -/
theorem stringMethods_search (s : String) (args : List Value) : SearchAnswers s args ∧
    ∀ x : Float, ∃ front rest, Returns s "slice" [.number 0.0, .number x] (.string front) ∧
      Returns s "slice" [.number x] (.string rest) ∧ front ++ rest = s :=
  ⟨searchAnswers s args, slice_append s⟩

end Reckoner.Value
