import Reckoner.Evaluation.Error
import Reckoner.Proofs.ExactArithmetic
import Reckoner.Proofs.Namesakes
import Reckoner.Proofs.Sameness

namespace Reckoner

namespace Number

open Float.Model (UnpackedFloat)
open Float.Model.UnpackedFloat

theorem sign_mul_comm (s t : Sign) : s * t = t * s := by cases s <;> cases t <;> rfl

theorem unpacked_add_comm (u w : UnpackedFloat) :
    UnpackedFloat.add .binary64 u w = UnpackedFloat.add .binary64 w u := by
  rcases u with s | _ | s | ⟨s, m, q, pos⟩ <;> rcases w with t | _ | t | ⟨t, n, r, pos'⟩ <;>
    simp only [UnpackedFloat.add, min_comm, Int.add_comm]
  all_goals cases s <;> cases t <;> rfl

theorem unpacked_mul_comm (u w : UnpackedFloat) :
    UnpackedFloat.mul .binary64 u w = UnpackedFloat.mul .binary64 w u := by
  rcases u with s | _ | s | ⟨s, m, q, pos⟩ <;> rcases w with t | _ | t | ⟨t, n, r, pos'⟩ <;>
    simp only [UnpackedFloat.mul, sign_mul_comm, Nat.mul_comm, Int.add_comm]

/-- Two terms may change places, and so may two factors. -/
theorem apply_swap {op : Arithmetic} (symmetric : op = .add ∨ op = .mul) (x y : Float) :
    op.apply x y = op.apply y x := by
  rcases symmetric with rfl | rfl
  · exact congrArg (fun u => Float.ofModel (.pack u)) (unpacked_add_comm ..)
  · exact congrArg (fun u => Float.ofModel (.pack u)) (unpacked_mul_comm ..)

end Number

/-- The same error with the two sides exchanged. -/
def EvalError.mirrored : EvalError → EvalError
  | dimensionMismatch left right => dimensionMismatch right left
  | e => e

namespace Value

mutual

/-- The shape of a nested array with one value in all places. -/
def filled (filler : Value) : Value → Value
  | .array items => .array (filledItems filler items)
  | _ => filler

def filledItems (filler : Value) : List Value → List Value
  | [] => []
  | item :: rest => filled filler item :: filledItems filler rest

end

mutual

/-- The lengths of the arrays that meet when two values are gone through together: those of the outer
arrays before those of their items, and earlier items before later ones. -/
def meetings : Value → Value → List (Nat × Nat)
  | .array xs, .array ys => (xs.length, ys.length) :: itemMeetings xs ys
  | _, _ => []

def itemMeetings : List Value → List Value → List (Nat × Nat)
  | x :: xs, y :: ys => meetings x y ++ itemMeetings xs ys
  | _, _ => []

end

/-- The lengths of the first two arrays that meet and are not of one length. -/
def firstMismatch? (lengths : List (Nat × Nat)) : Option (Nat × Nat) := lengths.find? fun pair => pair.1 ≠ pair.2

section Equations

open Builtin (mapNumbers_of_ne_array)

variable {op : Float → Float → Float} {v w : Value}

theorem mapNumbers_array (f : Float → Float) (items : List Value) :
    mapNumbers f (.array items) = .array (items.map (mapNumbers f)) := by
  rw [mapNumbers]
  congr 1
  induction items with
  | nil => rfl
  | cons item rest ih => rw [mapItemNumbers, ih, List.map_cons]

theorem filled_array (filler : Value) (items : List Value) :
    filled filler (.array items) = .array (items.map (filled filler)) := by
  rw [filled]
  congr 1
  induction items with
  | nil => rfl
  | cons item rest ih => rw [filledItems, ih, List.map_cons]

theorem zipNumbers_single_left (single : ∀ items, v ≠ .array items) :
    zipNumbers op v w = .ok (mapNumbers (op v.toNumber) w) := by
  rw [zipNumbers]
  · exact single
  · exact fun xs _ array _ => single xs array

theorem zipNumbers_single_right (single : ∀ items, w ≠ .array items) :
    zipNumbers op v w = .ok (mapNumbers (op · w.toNumber) v) := by
  by_cases array : ∃ items, v = .array items
  · obtain ⟨items, rfl⟩ := array
    rw [zipNumbers]
    exact single
  · have other (items : List Value) (same : v = .array items) : False := array ⟨items, same⟩
    rw [zipNumbers_single_left other, mapNumbers_of_ne_array _ single, mapNumbers_of_ne_array _ other]

theorem zipNumbers_arrays {xs ys : List Value} (same : xs.length = ys.length) :
    zipNumbers op (.array xs) (.array ys) = (zipItemNumbers op xs ys).map .array := by
  rw [zipNumbers, if_neg (not_not.2 same)]

theorem zipNumbers_mismatch {xs ys : List Value} (different : xs.length ≠ ys.length) :
    zipNumbers op (.array xs) (.array ys) = .error (.dimensionMismatch xs.length ys.length) := by
  rw [zipNumbers, if_pos different]

end Equations

/-- A property of pairs that two arrays have with their items as long as both have some, and all other pairs by
themselves. -/
theorem induction_pairs {motive : Value → Value → Prop} (each : List Value → List Value → Prop)
    (left : ∀ v w, (∀ items, v ≠ .array items) → motive v w)
    (right : ∀ v w, (∀ items, w ≠ .array items) → motive v w)
    (arrays : ∀ xs ys, each xs ys → motive (.array xs) (.array ys))
    (short : ∀ xs ys, xs = [] ∨ ys = [] → each xs ys)
    (further : ∀ x y xs ys, motive x y → each xs ys → each (x :: xs) (y :: ys)) (v w : Value) : motive v w := by
  induction v using induction_parts generalizing w with
  | simple v array _ => exact left v w array
  | object fields _ => exact left _ w nofun
  | array xs ih =>
    by_cases array : ∃ ys, w = .array ys
    · obtain ⟨ys, rfl⟩ := array
      refine arrays xs ys ?_
      induction xs generalizing ys with
      | nil => exact short [] ys (.inl rfl)
      | cons x xs behind =>
        cases ys with
        | nil => exact short (x :: xs) [] (.inr rfl)
        | cons y ys =>
          obtain ⟨first, others⟩ := List.forall_mem_cons.1 ih
          exact further x y xs ys (first y) (behind others ys)
    · exact right _ w fun ys same => array ⟨ys, same⟩

theorem zipItemNumbers_none (op : Float → Float → Float) {xs ys : List Value} (empty : xs = [] ∨ ys = []) :
    zipItemNumbers op xs ys = .ok [] := by
  rcases empty with rfl | rfl
  · rfl
  · cases xs <;> rfl

theorem zipItemNumbers_cons (op : Float → Float → Float) (x y : Value) (xs ys : List Value) :
    zipItemNumbers op (x :: xs) (y :: ys) =
      (zipNumbers op x y).bind fun z => (zipItemNumbers op xs ys).map fun rest => z :: rest := by
  rw [zipItemNumbers]
  cases zipNumbers op x y <;> rfl

/-- Items are combined one by one, and the result is there if all of them are. -/
theorem zipItemNumbers_eq_ok_iff (op : Float → Float → Float) (xs ys zs : List Value) :
    zipItemNumbers op xs ys = .ok zs ↔
      List.Forall₂ (fun pair z => zipNumbers op pair.1 pair.2 = .ok z) (xs.zip ys) zs := by
  induction xs generalizing ys zs with
  | nil =>
    rw [zipItemNumbers_none op (.inl rfl), List.zip_nil_left, List.forall₂_nil_left_iff, Except.ok.injEq]
    exact eq_comm
  | cons x xs ih =>
    cases ys with
    | nil =>
      rw [zipItemNumbers_none op (.inr rfl), List.zip_nil_right, List.forall₂_nil_left_iff, Except.ok.injEq]
      exact eq_comm
    | cons y ys =>
      rw [zipItemNumbers_cons, List.zip_cons_cons, List.forall₂_cons_left_iff]
      simp only [← ih]
      cases zipNumbers op x y with
      | error e => simp [Except.bind]
      | ok z =>
        cases zipItemNumbers op xs ys with
        | error e => simp [Except.bind, Except.map]
        | ok rest => simp [Except.bind, Except.map, eq_comm]

/-- Exchanging the two sides changes nothing but the order of the lengths in an error. -/
theorem zipNumbers_flip (op : Float → Float → Float) (v w : Value) :
    zipNumbers (fun x y => op y x) w v = (zipNumbers op v w).mapError EvalError.mirrored := by
  induction v, w using induction_pairs fun xs ys =>
    zipItemNumbers (fun x y => op y x) ys xs = (zipItemNumbers op xs ys).mapError EvalError.mirrored with
  | left v w single | right v w single =>
    rw [zipNumbers_single_left single, zipNumbers_single_right single]
    rfl
  | arrays xs ys items =>
    by_cases same : xs.length = ys.length
    · rw [zipNumbers_arrays same, zipNumbers_arrays same.symm, items]
      cases zipItemNumbers op xs ys <;> rfl
    · rw [zipNumbers_mismatch same, zipNumbers_mismatch (Ne.symm same)]
      rfl
  | short xs ys empty =>
    rw [zipItemNumbers_none _ empty, zipItemNumbers_none _ empty.symm]
    rfl
  | further x y xs ys first others =>
    rw [zipItemNumbers_cons, zipItemNumbers_cons, first, others]
    cases zipNumbers op x y with
    | error e => rfl
    | ok z => cases zipItemNumbers op xs ys <;> rfl

/-- A single number is broadcast over the shape of the other side. -/
theorem zipNumbers_filled (op : Float → Float → Float) {filler : Value} (single : ∀ items, filler ≠ .array items)
    (v : Value) : zipNumbers op v (filled filler v) = .ok (mapNumbers (op · filler.toNumber) v) := by
  induction v using induction_parts with
  | simple v array _ =>
    have leaf : filled filler v = filler := by
      cases v with
      | array items => exact absurd rfl (array items)
      | _ => rfl
    rw [leaf, zipNumbers_single_right single]
  | object fields _ => exact zipNumbers_single_right single
  | array items ih =>
    have zipped : zipItemNumbers op items (items.map (filled filler)) =
        .ok (items.map (mapNumbers (op · filler.toNumber))) := by
      induction items with
      | nil => rfl
      | cons item rest further =>
        obtain ⟨first, others⟩ := List.forall_mem_cons.1 ih
        rw [List.map_cons, zipItemNumbers_cons, first, further others]
        rfl
    rw [filled_array, mapNumbers_array, zipNumbers_arrays (List.length_map _).symm, zipped]
    rfl

/-- A result as the lengths demand it: an error for the first two that are not equal, or a success. -/
def Answers {α : Type} (lengths : List (ℕ × ℕ)) (result : Except EvalError α) : Prop :=
  match firstMismatch? lengths with
  | some (m, n) => result = .error (.dimensionMismatch m n)
  | none => ∃ a, result = .ok a

theorem Answers.map {α β : Type} {lengths : List (ℕ × ℕ)} {result : Except EvalError α}
    (answers : Answers lengths result) (f : α → β) : Answers lengths (result.map f) := by
  unfold Answers at answers ⊢
  split at answers
  · rw [answers]
    rfl
  · obtain ⟨a, rfl⟩ := answers
    exact ⟨f a, rfl⟩

/-- Two steps, of which the second is taken if the first succeeds. -/
theorem Answers.append {α β γ : Type} {before behind : List (ℕ × ℕ)} {first : Except EvalError α}
    {second : Except EvalError β} (one : Answers before first) (other : Answers behind second) (f : α → β → γ) :
    Answers (before ++ behind) (first.bind fun a => second.map (f a)) := by
  unfold Answers firstMismatch? at one ⊢
  rw [List.find?_append]
  cases found : before.find? fun pair => pair.1 ≠ pair.2 with
  | some pair =>
    rw [found] at one
    rw [one]
    rfl
  | none =>
    rw [found] at one
    obtain ⟨a, rfl⟩ := one
    exact other.map (f a)

theorem zipNumbers_answers (op : Float → Float → Float) (v w : Value) :
    Answers (meetings v w) (zipNumbers op v w) := by
  induction v, w using induction_pairs fun xs ys => Answers (itemMeetings xs ys) (zipItemNumbers op xs ys) with
  | left v w single =>
    rw [zipNumbers_single_left single, meetings]
    · exact ⟨_, rfl⟩
    · exact fun xs _ array _ => single xs array
  | right v w single =>
    rw [zipNumbers_single_right single, meetings]
    · exact ⟨_, rfl⟩
    · exact fun _ ys _ array => single ys array
  | arrays xs ys items =>
    rw [meetings]
    by_cases same : xs.length = ys.length
    · have skipped : Answers ((xs.length, ys.length) :: itemMeetings xs ys) (zipItemNumbers op xs ys) := by
        unfold Answers firstMismatch? at items ⊢
        rwa [List.find?_cons_of_neg (by simpa using same)]
      rw [zipNumbers_arrays same]
      exact skipped.map Value.array
    · rw [zipNumbers_mismatch same, Answers, firstMismatch?, List.find?_cons_of_pos (by simpa using same)]
  | short xs ys empty =>
    have nothing : itemMeetings xs ys = [] := by
      rcases empty with rfl | rfl
      · rfl
      · cases xs <;> rfl
    rw [zipItemNumbers_none op empty, nothing]
    exact ⟨[], rfl⟩
  | further x y xs ys first others =>
    rw [itemMeetings, zipItemNumbers_cons]
    exact first.append others fun z rest => z :: rest

/-- Two nested arrays are combined alike from both sides. A single number stands for a nested array of that number in
the shape of the other side, and two single numbers make the number that the operation gives. Arrays of one length are
combined item by item; if there are arrays of different lengths at one place, the first two of them are named. -/
theorem zipNumbers_broadcasts (op : Float → Float → Float) (v w : Value) :
    (∀ z, zipNumbers op v w = .ok z ↔ zipNumbers (fun x y => op y x) w v = .ok z) ∧
    (∀ symmetric, symmetric = Arithmetic.add ∨ symmetric = Arithmetic.mul → ∀ z,
      Builtin.call (.pairwise symmetric) [v, w] = .ok z ↔ Builtin.call (.pairwise symmetric) [w, v] = .ok z) ∧
    ((∀ items, w ≠ .array items) → zipNumbers op v w = zipNumbers op v (filled w v)) ∧
    ((∀ items, v ≠ .array items) → (∀ items, w ≠ .array items) →
      zipNumbers op v w = .ok (.number (op v.toNumber w.toNumber))) ∧
    (∀ xs ys, v = .array xs → w = .array ys → ∀ z, zipNumbers op v w = .ok z ↔ xs.length = ys.length ∧
      ∃ zs, z = .array zs ∧ List.Forall₂ (fun pair z => zipNumbers op pair.1 pair.2 = .ok z) (xs.zip ys) zs) ∧
    match firstMismatch? (meetings v w) with
    | none => ∃ z, zipNumbers op v w = .ok z
    | some (m, n) => ∃ e, zipNumbers op v w = .error e ∧ e.kind = .range ∧
      e.message = "numeric: dimension mismatch (" ++ toString m ++ " vs " ++ toString n ++ ")" := by
  have sides (op : Float → Float → Float) (z : Value) :
      zipNumbers op v w = .ok z ↔ zipNumbers (fun x y => op y x) w v = .ok z := by
    rw [zipNumbers_flip op v w]
    cases zipNumbers op v w <;> simp [Except.mapError]
  refine ⟨sides op, ?_, ?_, ?_, ?_, ?_⟩
  · intro symmetric known z
    have swapped : (fun x y => symmetric.apply y x) = symmetric.apply := by
      funext x y
      exact Number.apply_swap known y x
    have pair (a b : Value) : Builtin.call (.pairwise symmetric) [a, b] = zipNumbers symmetric.apply a b :=
      bind_pure _
    rw [pair, pair, sides symmetric.apply z, swapped]
  · intro single
    rw [zipNumbers_filled op single, zipNumbers_single_right single]
  · intro left right
    rw [zipNumbers_single_left left, Builtin.mapNumbers_of_ne_array _ right]
  · rintro xs ys rfl rfl z
    by_cases same : xs.length = ys.length
    · simp only [zipNumbers_arrays same, ← zipItemNumbers_eq_ok_iff, same, true_and]
      cases zipItemNumbers op xs ys <;> simp [Except.map, eq_comm]
    · simp [zipNumbers_mismatch same, same]
  · have answers := zipNumbers_answers op v w
    unfold Answers at answers
    cases found : firstMismatch? (meetings v w) with
    | none =>
      rw [found] at answers
      exact answers
    | some pair =>
      rw [found] at answers
      exact ⟨_, answers, rfl, rfl⟩

/-- A number is taken from each number of a nested array, and no array is combined with one of another length. -/
theorem zipNumbers_broadcasts_numbers :
    let v : Value := .array [.number 5, .array [.number 7]]
    zipNumbers (· - ·) v (.number 2) = .ok (.array [.number 3, .array [.number 5]]) ∧
      ∃ e, zipNumbers (· - ·) v (.array [.number 1, .array []]) = .error e ∧ e.kind = .range ∧
        e.message = "numeric: dimension mismatch (1 vs 0)" := by
  intro v
  have leaf (x y : Float) : zipNumbers (· - ·) (.number x) (.number y) = .ok (.number (x - y)) := by
    obtain ⟨-, -, -, leaves, -⟩ := zipNumbers_broadcasts (· - ·) (.number x) (.number y)
    exact leaves nofun nofun
  have first : zipNumbers (· - ·) (.number 5) (.number 2) = .ok (.number 3) := by
    have difference : (5 : Float) - 2 = 3 := by decide +kernel
    rw [leaf, difference]
  have second : zipNumbers (· - ·) (.number 7) (.number 2) = .ok (.number 5) := by
    have difference : (7 : Float) - 2 = 5 := by decide +kernel
    rw [leaf, difference]
  have inner : zipNumbers (· - ·) (.array [.number 7]) (.array [.number 2]) = .ok (.array [.number 5]) := by
    obtain ⟨-, -, -, -, items, -⟩ := zipNumbers_broadcasts (· - ·) (.array [.number 7]) (.array [.number 2])
    exact (items _ _ rfl rfl _).2 ⟨by simp, _, rfl, .cons second .nil⟩
  have shape : filled (.number 2) v = .array [.number 2, .array [.number 2]] := rfl
  have outer : zipNumbers (· - ·) v (filled (.number 2) v) = .ok (.array [.number 3, .array [.number 5]]) := by
    rw [shape]
    obtain ⟨-, -, -, -, items, -⟩ := zipNumbers_broadcasts (· - ·) v (.array [.number 2, .array [.number 2]])
    exact (items _ _ rfl rfl _).2 ⟨by simp, _, rfl, .cons first (.cons inner .nil)⟩
  obtain ⟨-, -, single, -⟩ := zipNumbers_broadcasts (· - ·) v (.number 2)
  obtain ⟨-, -, -, -, -, lengths⟩ := zipNumbers_broadcasts (· - ·) v (.array [.number 1, .array []])
  exact ⟨(single nofun).trans outer, lengths⟩

end Value

end Reckoner
