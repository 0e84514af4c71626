import Mathlib.Data.Nat.Notation
import Mathlib.Logic.Basic
import Reckoner.Library.Call

namespace Reckoner.Value

/-- A matrix of the given rows. -/
def ofRows (rows : List (List Float)) : Value := .array (rows.map ofNumbers)

/-- A matrix of one column. -/
def ofColumn (xs : List Float) : Value := ofRows (xs.map fun x => [x])

/-- The sum of the products of the numbers at equal places. -/
def scalarProduct (xs ys : List Float) : Float := Number.sum (List.zipWith (· * ·) xs ys)

/-- A result for two inner dimensions, that have to be equal. -/
def conforming {α : Type} (m n : ℕ) (a : α) : Except EvalError α :=
  if m = n then .ok a else .error (.dimensionMismatch m n)

section Conforming

variable {α β : Type} {m n : ℕ}

theorem conforming_map (a : α) (f : α → β) : (conforming m n a).map f = conforming m n (f a) := by
  unfold conforming
  split <;> rfl

theorem conforming_self (a : α) : conforming n n a = .ok a := if_pos rfl

theorem innerProduct_eq (xs ys : List Float) :
    innerProduct xs ys = conforming xs.length ys.length (scalarProduct xs ys) :=
  ite_not ..

/-- Where all items have the same two dimensions, the first one is as good as all. -/
theorem mapM_conforming {items : List α} (compared : items ≠ [] ∨ m = n) {f : α → Except EvalError β} {g : α → β}
    (each : ∀ a ∈ items, f a = conforming m n (g a)) : items.mapM f = conforming m n (items.map g) := by
  by_cases equal : m = n
  · subst equal
    rw [conforming_self]
    induction items with
    | nil => rfl
    | cons a rest ih =>
      obtain ⟨here, others⟩ := List.forall_mem_cons.1 each
      rw [List.mapM_cons, here, conforming_self, ih (.inr rfl) others]
      rfl
  · obtain ⟨a, rest, rfl⟩ := List.exists_cons_of_ne_nil (compared.resolve_right equal)
    rw [List.mapM_cons, each a List.mem_cons_self, conforming, conforming, if_neg equal, if_neg equal]
    rfl

end Conforming

section Shapes

variable {rows : List (List Float)} {xs : List Float}

theorem rank_ofNumbers (xs : List Float) : rank (ofNumbers xs) = 1 := by cases xs <;> rfl

theorem rank_ofRows (nonempty : rows ≠ []) : rank (ofRows rows) = 2 := by
  obtain ⟨row, rest, rfl⟩ := List.exists_cons_of_ne_nil nonempty
  rfl

theorem vector_ofNumbers (xs : List Float) : vector (ofNumbers xs) = xs :=
  (List.map_map ..).trans (List.map_id xs)

theorem matrix_ofRows (rows : List (List Float)) : matrix (ofRows rows) = rows := by
  rw [ofRows, matrix, List.map_map]
  exact (List.map_congr_left fun row _ => vector_ofNumbers row).trans (List.map_id rows)

theorem length_of_mem_columns {column : List Float} (member : column ∈ columns rows) : column.length = rows.length := by
  obtain ⟨j, -, rfl⟩ := List.mem_map.1 member
  exact List.length_map _

theorem length_columns (nonempty : rows ≠ []) {width : ℕ} (rectangular : ∀ row ∈ rows, row.length = width) :
    (columns rows).length = width := by
  obtain ⟨row, rest, rfl⟩ := List.exists_cons_of_ne_nil nonempty
  rw [columns, List.length_map, List.length_range]
  exact rectangular row List.mem_cons_self

/-- The column of a matrix of one column. -/
theorem columns_column (nonempty : xs ≠ []) : columns (xs.map fun x => [x]) = [xs] := by
  obtain ⟨x, rest, rfl⟩ := List.exists_cons_of_ne_nil nonempty
  change [((x :: rest).map fun x => [x]).map _] = _
  rw [List.map_map]
  exact congrArg ([·]) (List.map_id _)

end Shapes

section Products

variable {u v : List Float} {rows : List (List Float)} {width : ℕ}

theorem dot_vectors (u v : List Float) :
    dot (ofNumbers u) (ofNumbers v) = conforming u.length v.length (.number (scalarProduct u v)) := by
  unfold dot
  simp only [rank_ofNumbers, vector_ofNumbers, innerProduct_eq, conforming_map]

theorem dot_vector_matrix (nonempty : rows ≠ []) (u : List Float) : dot (ofNumbers u) (ofRows rows) =
    conforming u.length rows.length (ofNumbers ((columns rows).map (scalarProduct u))) := by
  unfold dot
  simp only [rank_ofNumbers, rank_ofRows nonempty, vector_ofNumbers, matrix_ofRows]
  by_cases equal : u.length = rows.length
  · have products := mapM_conforming (m := u.length) (n := rows.length) (.inr equal)
      fun column member => (innerProduct_eq u column).trans (by rw [length_of_mem_columns member])
    rw [if_neg (not_not.2 equal), products, conforming_map]
  · rw [if_pos equal, conforming, if_neg equal]

theorem dot_matrix_vector (nonempty : rows ≠ []) (rectangular : ∀ row ∈ rows, row.length = width) (v : List Float) :
    dot (ofRows rows) (ofNumbers v) = conforming width v.length (ofNumbers (rows.map (scalarProduct · v))) := by
  have products := mapM_conforming (m := width) (n := v.length) (.inl nonempty)
    fun row member => (innerProduct_eq row v).trans (by rw [rectangular row member])
  unfold dot
  simp only [rank_ofNumbers, rank_ofRows nonempty, vector_ofNumbers, matrix_ofRows]
  rw [products, conforming_map]

/-- The inner dimensions of two matrices are compared in each product of a row and a column. -/
theorem dot_matrices {right : List (List Float)} (nonempty : rows ≠ []) (rectangular : ∀ row ∈ rows, row.length = width)
    (others : right ≠ []) (compared : columns right ≠ [] ∨ width = right.length) :
    dot (ofRows rows) (ofRows right) =
      conforming width right.length (ofRows (rows.map fun row => (columns right).map (scalarProduct row))) := by
  have row_products (row : List Float) (member : row ∈ rows) :
      ((columns right).mapM (innerProduct row)).map ofNumbers =
        conforming width right.length (ofNumbers ((columns right).map (scalarProduct row))) := by
    rw [← conforming_map, mapM_conforming compared]
    intro column inside
    rw [innerProduct_eq, rectangular row member, length_of_mem_columns inside]
  unfold dot
  simp only [rank_ofRows nonempty, rank_ofRows others, matrix_ofRows]
  rw [mapM_conforming (.inl nonempty) row_products, conforming_map, ofRows, List.map_map]
  rfl

/-- Without a column there is nothing that compares the inner dimensions. -/
theorem dot_matrices_empty {right : List (List Float)} (nonempty : rows ≠ []) (others : right ≠ [])
    (empty : columns right = []) : dot (ofRows rows) (ofRows right) = .ok (ofRows (rows.map fun _ => [])) := by
  unfold dot
  simp only [rank_ofRows nonempty, rank_ofRows others, matrix_ofRows, empty]
  have nothing : rows.mapM (fun row => (([] : List (List Float)).mapM (innerProduct row)).map ofNumbers) =
      conforming 0 0 (rows.map fun _ => ofNumbers []) :=
    mapM_conforming (.inr rfl) fun row _ => rfl
  rw [nothing, conforming_self, ofRows, List.map_map]
  rfl

/-- The products of vectors and matrices agree with each other: a vector is multiplied as a matrix of one row from the
left, and as a matrix of one column from the right. Only a right matrix of empty rows is multiplied by a matrix of any
width, where it demands a vector of its own height. -/
theorem dot_agrees (nonempty : rows ≠ []) (rectangular : ∀ row ∈ rows, row.length = width) (u : List Float)
    (entry : v ≠ []) :
    (dot (ofNumbers u) (ofRows rows) =
        conforming u.length rows.length (ofNumbers ((columns rows).map (scalarProduct u))) ∧
      (0 < width ∨ u.length = rows.length → dot (ofRows [u]) (ofRows rows) =
        conforming u.length rows.length (ofRows [(columns rows).map (scalarProduct u)])) ∧
      (width = 0 → dot (ofRows [u]) (ofRows rows) = .ok (ofRows [[]]))) ∧
    (dot (ofRows rows) (ofNumbers v) = conforming width v.length (ofNumbers (rows.map (scalarProduct · v))) ∧
      dot (ofRows rows) (ofColumn v) = conforming width v.length (ofColumn (rows.map (scalarProduct · v)))) ∧
    dot (ofNumbers u) (ofNumbers v) = conforming u.length v.length (.number (scalarProduct u v)) ∧
      dot (ofRows [u]) (ofColumn v) = conforming u.length v.length (ofRows [[scalarProduct u v]]) := by
  have one : ∀ row ∈ [u], row.length = u.length := fun row member => by rw [List.mem_singleton.1 member]
  have columns_length := length_columns nonempty rectangular
  have column := columns_column entry
  have column_nonempty : (v.map fun x => [x]) ≠ [] := by simpa using entry
  have column_length : (v.map fun x => [x]).length = v.length := List.length_map _
  have compared : columns (v.map fun x => [x]) ≠ [] := by simp [column]
  refine ⟨⟨dot_vector_matrix nonempty u, ?_, ?_⟩, ⟨dot_matrix_vector nonempty rectangular v, ?_⟩, dot_vectors u v, ?_⟩
  · intro wide
    refine dot_matrices (List.cons_ne_nil u []) one nonempty (wide.imp_left fun pos empty => ?_)
    rw [empty] at columns_length
    exact Nat.ne_of_lt pos columns_length
  · rintro rfl
    exact dot_matrices_empty (List.cons_ne_nil u []) nonempty (List.length_eq_zero_iff.1 columns_length)
  · have product := dot_matrices nonempty rectangular column_nonempty (.inl compared)
    rw [column, column_length] at product
    rw [ofColumn, product, ofColumn, List.map_map]
    rfl
  · have product := dot_matrices (List.cons_ne_nil u []) one column_nonempty (.inl compared)
    rw [column, column_length] at product
    exact product

/-- A matrix of two rows and three columns, multiplied from either side. -/
theorem dot_agrees_oblong : [[1.0, 2.0, 3.0], [4.0, 5.0, 6.0]] ≠ ([] : List (List Float)) ∧
    (∀ row ∈ [[1.0, 2.0, 3.0], [4.0, 5.0, (6.0 : Float)]], row.length = 3) ∧ [7.0, 8.0, 9.0] ≠ ([] : List Float) ∧
    dot (ofRows [[0.5, 0.25]]) (ofRows [[1.0, 2.0, 3.0], [4.0, 5.0, 6.0]]) =
      .ok (ofRows [[scalarProduct [0.5, 0.25] [1.0, 4.0], scalarProduct [0.5, 0.25] [2.0, 5.0],
        scalarProduct [0.5, 0.25] [3.0, 6.0]]]) ∧
    dot (ofRows [[1.0, 2.0, 3.0], [4.0, 5.0, 6.0]]) (ofColumn [7.0, 8.0, 9.0]) =
      .ok (ofColumn [scalarProduct [1.0, 2.0, 3.0] [7.0, 8.0, 9.0],
        scalarProduct [4.0, 5.0, 6.0] [7.0, 8.0, 9.0]]) := by
  have rectangular : ∀ row ∈ [[1.0, 2.0, 3.0], [4.0, 5.0, (6.0 : Float)]], row.length = 3 := by simp
  obtain ⟨⟨-, left, -⟩, ⟨-, right⟩, -⟩ :=
    dot_agrees (List.cons_ne_nil _ _) rectangular [0.5, 0.25] (List.cons_ne_nil 7.0 [8.0, 9.0])
  exact ⟨List.cons_ne_nil _ _, rectangular, List.cons_ne_nil _ _, left (.inl (by decide)), right⟩

/-- A row of two numbers does not conform to a matrix of one row, and is multiplied by it without an error if that row
is empty. -/
theorem dot_empty_row : ¬∀ (u : List Float) (rows : List (List Float)) (e : EvalError), u ≠ [] → rows ≠ [] →
    (∀ row ∈ rows, ∀ row' ∈ rows, row.length = row'.length) →
    (dot (ofNumbers u) (ofRows rows) = .error e ↔ dot (ofRows [u]) (ofRows rows) = .error e) := by
  intro all
  have equivalent :=
    all [1.0, 2.0] [[]] (.dimensionMismatch 2 1) (List.cons_ne_nil _ _) (List.cons_ne_nil _ _) (by simp)
  have failed : dot (ofNumbers [1.0, 2.0]) (ofRows [[]]) = .error (.dimensionMismatch 2 1) := rfl
  have succeeded : dot (ofRows [[1.0, 2.0]]) (ofRows [[]]) = .ok (ofRows [[]]) := rfl
  rw [equivalent.1 failed] at succeeded
  cases succeeded

end Products

end Reckoner.Value
