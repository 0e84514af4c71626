import Reckoner.Proofs.DecimalDigits
import Reckoner.Proofs.PlainKeys
import Reckoner.Proofs.Readers

namespace Reckoner

/-- A step as it is written behind others. -/
def Segment.text : Segment → List Char
  | .key name => '.' :: name.toList
  | .index i => '[' :: Number.decimalDigits i ++ [']']

/-- A name that is one step of a path wherever it stands. -/
def IsPlainKey (name : String) : Prop := name ≠ "" ∧ ∀ c ∈ name.toList, Path.isMark c = false

instance (name : String) : Decidable (IsPlainKey name) :=
  decidable_of_iff (name ≠ "" ∧ name.toList.all (!Path.isMark ·) = true) (by simp [IsPlainKey])

/-- Names without points and brackets, and indices of 64 bits. -/
def Segment.IsPlain : Segment → Prop
  | .key name => IsPlainKey name
  | .index i => i < 2 ^ 64

namespace Path

/-- The text of a path, written as in `a.b[2].c`: no point precedes the first name. -/
def text : Path → String
  | .key name :: rest => String.ofList (name.toList ++ rest.flatMap Segment.text)
  | path => String.ofList (path.flatMap Segment.text)

theorem bracketed_decimalDigits {i : Nat} (fits : i < 2 ^ 64) : bracketed (Number.decimalDigits i) = .index i := by
  have digits : (Number.decimalDigits i).all Char.isDigit = true :=
    List.all_eq_true.mpr fun _ => Number.isDigit_of_mem_decimalDigits
  have small : decide (i < Number.twoTo 64) = true := decide_eq_true fits
  rw [bracketed]
  simp only [Number.ofDecimalDigits_decimalDigits, digits, small, Bool.and_self, if_true]

theorem isDecimalDigit_of_isDigit {c : Char} (digit : c.isDigit = true) : Text.isDecimalDigit c = true := by
  rw [Text.isDecimalDigit, if_pos (Number.isAscii_of_isDigit digit)]
  exact digit

/-- The text behind a step is at its end or begins with a mark. -/
theorem isMark_of_mem_head? {path : Path} {c : Char} (head : c ∈ (path.flatMap Segment.text).head?) :
    isMark c = true := by
  cases path with
  | nil => cases head
  | cons step rest => cases step <;> cases head <;> rfl

/-- A name is read up to the text of the steps behind it. -/
theorem stepsFrom_name {name : String} (plain : IsPlainKey name) {path : Path} {limit : Nat} :
    stepsFrom (limit + 1) (name.toList ++ path.flatMap Segment.text) =
      .key name :: stepsFrom limit (path.flatMap Segment.text) := by
  obtain ⟨nonempty, free⟩ := plain
  have nonempty : name.toList ≠ [] := fun empty => nonempty (String.toList_eq_nil_iff.mp empty)
  obtain ⟨c, rest, spelled⟩ := List.exists_cons_of_ne_nil nonempty
  rw [spelled] at free
  obtain ⟨here, later⟩ := List.forall_mem_cons.mp free
  have run : (rest ++ path.flatMap Segment.text).takeWhile (!isMark ·) = rest ∧
      (rest ++ path.flatMap Segment.text).dropWhile (!isMark ·) = path.flatMap Segment.text :=
    Text.Reader.takeWhile_dropWhile_append (fun c member => congrArg not (later c member))
      fun c head => congrArg not (isMark_of_mem_head? head)
  rw [spelled, List.cons_append, stepsFrom, if_neg (by rw [here]; exact Bool.false_ne_true), run.1, run.2, ← spelled,
    String.ofList_toList]

theorem stepsFrom_point (text : List Char) (limit : Nat) :
    stepsFrom (limit + 1) ('.' :: text) = stepsFrom limit text := by
  have point : isMark '.' = true := rfl
  rw [stepsFrom, if_pos point]
  rfl

theorem stepsFrom_index {i : Nat} (fits : i < 2 ^ 64) (text : List Char) (limit : Nat) :
    stepsFrom (limit + 1) ('[' :: (Number.decimalDigits i ++ ']' :: text)) = .index i :: stepsFrom limit text := by
  have run : (Number.decimalDigits i ++ ']' :: text).takeWhile Text.isDecimalDigit = Number.decimalDigits i ∧
      (Number.decimalDigits i ++ ']' :: text).dropWhile Text.isDecimalDigit = ']' :: text := by
    refine Text.Reader.takeWhile_dropWhile_append
      (fun c member => isDecimalDigit_of_isDigit (Number.isDigit_of_mem_decimalDigits member)) fun c head => ?_
    cases head
    rfl
  have bracket : isMark '[' = true := rfl
  rw [stepsFrom, if_pos bracket]
  simp only [run.1, run.2, List.isEmpty_iff, Number.decimalDigits_ne_nil, if_false, bracketed_decimalDigits fits]

/-- Steps are read one after the other, each of them whole. -/
theorem stepsFrom_flatMap {path : Path} (plain : ∀ step ∈ path, step.IsPlain) {limit : Nat}
    (enough : (path.flatMap Segment.text).length ≤ limit) : stepsFrom limit (path.flatMap Segment.text) = path := by
  induction path generalizing limit with
  | nil => cases limit <;> rfl
  | cons step rest ih =>
    obtain ⟨here, later⟩ := List.forall_mem_cons.mp plain
    rw [List.flatMap_cons] at enough ⊢
    cases step with
    | key name =>
      have nonempty : 0 < name.toList.length := List.length_pos_of_ne_nil (here.1 ∘ String.toList_eq_nil_iff.mp)
      simp only [Segment.text, List.cons_append, List.length_cons, List.length_append] at enough ⊢
      obtain ⟨limit, rfl⟩ : ∃ n, limit = n + 2 := ⟨limit - 2, by omega⟩
      rw [stepsFrom_point, stepsFrom_name here, ih later (by omega)]
    | index i =>
      simp only [Segment.text, List.cons_append, List.append_assoc, List.nil_append, List.length_cons,
        List.length_append] at enough ⊢
      obtain ⟨limit, rfl⟩ : ∃ n, limit = n + 1 := ⟨limit - 1, by omega⟩
      rw [stepsFrom_index here, ih later (by omega)]

/-- A path that begins with a name is read back from its text. -/
theorem ofText_text {name : String} {rest : Path} (plain : ∀ step ∈ .key name :: rest, step.IsPlain) :
    ofText (text (.key name :: rest)) = .key name :: rest := by
  obtain ⟨here, later⟩ := List.forall_mem_cons.mp plain
  cases rest with
  | nil =>
    rw [text, List.flatMap_nil, List.append_nil, String.ofList_toList]
    exact ofText_unmarked here.2
  | cons step rest =>
    have nonempty : 0 < name.toList.length := List.length_pos_of_ne_nil (here.1 ∘ String.toList_eq_nil_iff.mp)
    have marked : (name.toList ++ (step :: rest).flatMap Segment.text).any (fun c => c == '.' || c == '[') = true := by
      rw [List.any_append, List.flatMap_cons, List.any_append]
      cases step <;> simp [Segment.text]
    rw [text, ofText, String.toList_ofList, if_pos marked]
    obtain ⟨limit, whole⟩ : ∃ n, (name.toList ++ (step :: rest).flatMap Segment.text).length = n + 1 :=
      ⟨_, (Nat.succ_pred_eq_of_pos (by rw [List.length_append]; omega)).symm⟩
    rw [whole, stepsFrom_name here, stepsFrom_flatMap later]
    rw [List.length_append] at whole
    omega

end Path

end Reckoner
