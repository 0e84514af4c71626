import Mathlib.Data.List.TakeWhile
import Reckoner.Proofs.PathAccess
import Reckoner.Proofs.PathText

namespace Reckoner

namespace Path

open Text Text.Reader

/-- Digits of any script in brackets stand at the front of a text whose first bracket is left out. -/
def Closes (rest digits behind : List Char) : Prop :=
  rest = digits ++ ']' :: behind ∧ digits ≠ [] ∧ ∀ d ∈ digits, isDecimalDigit d = true

/-- What stands at the front of a text: a name, digits in brackets, or a mark that is skipped. -/
inductive Front : Char → List Char → Option Segment → List Char → Prop
  | name {c : Char} {run behind : List Char} : isMark c = false → (∀ d ∈ run, isMark d = false) →
      (∀ d ∈ behind.head?, isMark d = true) → Front c (run ++ behind) (some (.key (String.ofList (c :: run)))) behind
  | digits {rest run behind : List Char} : Closes rest run behind → Front '[' rest (some (bracketed run)) behind
  | skip {c : Char} {rest : List Char} : isMark c = true → (c = '[' → ∀ run behind, ¬Closes rest run behind) →
      Front c rest none rest

/-- All steps in a text. -/
def steps (text : List Char) : Path := stepsFrom text.length text

section Scan

variable {c : Char} {rest left digits behind text : List Char} {step : Option Segment}

theorem Closes.run (closes : Closes rest digits behind) :
    rest.takeWhile isDecimalDigit = digits ∧ rest.dropWhile isDecimalDigit = ']' :: behind := by
  obtain ⟨rfl, -, digits⟩ := closes
  refine takeWhile_dropWhile_append digits fun d head => ?_
  cases head
  rfl

theorem closes_of_dropWhile (ending : rest.dropWhile isDecimalDigit = ']' :: behind)
    (nonempty : rest.takeWhile isDecimalDigit ≠ []) : Closes rest (rest.takeWhile isDecimalDigit) behind :=
  ⟨by rw [← ending, List.takeWhile_append_dropWhile], nonempty, fun _ => List.mem_takeWhile_imp⟩

theorem Front.stepsFrom_eq (front : Front c rest step left) (limit : ℕ) :
    stepsFrom (limit + 1) (c :: rest) = step.toList ++ stepsFrom limit left := by
  cases front with
  | name plain run stop =>
    have read := takeWhile_dropWhile_append (p := (!isMark ·)) (fun d member => congrArg not (run d member))
      fun d head => congrArg not (stop d head)
    rw [stepsFrom, if_neg (by rw [plain]; exact Bool.false_ne_true), read.1, read.2]
    rfl
  | digits closes =>
    obtain ⟨taken, ending⟩ := closes.run
    have bracket : isMark '[' = true := rfl
    rw [stepsFrom, if_pos bracket]
    simp only [taken, ending, List.isEmpty_iff, closes.2.1, if_false]
    rfl
  | skip mark unclosed =>
    rw [stepsFrom, if_pos mark]
    dsimp only
    split
    · rename_i ending
      split
      · rfl
      · rename_i nonempty
        exact absurd (closes_of_dropWhile ending fun empty => nonempty (List.isEmpty_iff.2 empty)) (unclosed rfl _ _)
    · rfl

theorem exists_front (c : Char) (rest : List Char) : ∃ step left, Front c rest step left := by
  cases mark : isMark c with
  | false =>
    have taken : takeWhile (!isMark ·) rest = some (rest.takeWhile (!isMark ·), rest.dropWhile (!isMark ·)) := rfl
    obtain ⟨whole, run, stop⟩ := takeWhile_eq_some.1 taken
    have front := Front.name mark (fun d member => by simpa using run d member) fun d head => by simpa using stop d head
    rw [← whole] at front
    exact ⟨_, _, front⟩
  | true =>
    by_cases closed : c = '[' ∧ ∃ run behind, Closes rest run behind
    · obtain ⟨rfl, run, behind, closes⟩ := closed
      exact ⟨_, _, .digits closes⟩
    · exact ⟨_, _, .skip mark fun bracket run behind closes => closed ⟨bracket, run, behind, closes⟩⟩

theorem Front.length_le (front : Front c rest step left) : left.length ≤ rest.length := by
  cases front with
  | name => simp
  | digits closes =>
    obtain ⟨rfl, -⟩ := closes
    simp
    omega
  | skip => exact le_rfl

/-- More than enough characters make no difference. -/
theorem stepsFrom_eq_steps {limit : ℕ} (enough : text.length ≤ limit) : stepsFrom limit text = steps text := by
  induction limit using Nat.strong_induction_on generalizing text with
  | _ limit ih =>
    cases text with
    | nil => cases limit <;> rfl
    | cons c rest =>
      rw [List.length_cons] at enough
      obtain ⟨limit, rfl⟩ : ∃ n, limit = n + 1 := ⟨limit - 1, by omega⟩
      obtain ⟨step, left, front⟩ := exists_front c rest
      have short := front.length_le
      rw [steps, List.length_cons, front.stepsFrom_eq, front.stepsFrom_eq, ih limit (by omega) (by omega)]
      rcases (Nat.le_of_succ_le_succ enough).eq_or_lt with same | less
      · rw [same, ih limit (by omega) (by omega)]
      · rw [ih rest.length (by omega) short]

theorem Front.steps_eq (front : Front c rest step left) : steps (c :: rest) = step.toList ++ steps left := by
  rw [steps, List.length_cons, front.stepsFrom_eq, stepsFrom_eq_steps front.length_le]

/-- An opening bracket ends whatever stands before it. -/
theorem Front.append (front : Front c rest step left) (more : List Char) :
    Front c (rest ++ '[' :: more) step (left ++ '[' :: more) := by
  cases front with
  | name plain run stop =>
    rw [List.append_assoc]
    refine .name plain run fun d head => ?_
    cases left with
    | nil =>
      cases head
      rfl
    | cons => exact stop d head
  | digits closes =>
    obtain ⟨rfl, nonempty, decimal⟩ := closes
    exact .digits ⟨by simp, nonempty, decimal⟩
  | skip mark unclosed =>
    refine .skip mark fun bracket run behind ⟨whole, nonempty, decimal⟩ => ?_
    rcases List.append_eq_append_iff.1 whole with ⟨between, rfl, ending⟩ | ⟨between, rfl, ending⟩
    · cases between with
      | nil => cases ending
      | cons d between =>
        cases ending
        exact absurd (decimal '[' (by simp)) (by decide)
    · cases between with
      | nil => cases ending
      | cons d between =>
        cases ending
        exact unclosed bracket run between ⟨rfl, nonempty, decimal⟩

theorem steps_append (before more : List Char) :
    steps (before ++ '[' :: more) = steps before ++ steps ('[' :: more) := by
  induction size : before.length using Nat.strong_induction_on generalizing before with
  | _ size ih =>
    cases before with
    | nil => rfl
    | cons c rest =>
      obtain ⟨step, left, front⟩ := exists_front c rest
      have short := front.length_le
      rw [List.length_cons] at size
      rw [List.cons_append, (front.append more).steps_eq, front.steps_eq, ih left.length (by omega) left rfl,
        List.append_assoc]

/-- Digits in brackets are a step wherever they stand. -/
theorem steps_bracketed (before : List Char) (closes : Closes rest digits behind) :
    steps (before ++ '[' :: rest) = steps before ++ bracketed digits :: steps behind := by
  rw [steps_append, (Front.digits closes).steps_eq]
  rfl

theorem ofText_bracketed {s : String} {before : List Char} (spelled : s.toList = before ++ '[' :: rest)
    (closes : Closes rest digits behind) : ofText s = steps before ++ bracketed digits :: steps behind := by
  have marked : s.toList.any (fun c => c == '.' || c == '[') = true := by
    rw [spelled, List.any_append, List.any_cons]
    simp
  have whole : stepsFrom s.toList.length s.toList = steps before ++ bracketed digits :: steps behind := by
    rw [spelled]
    exact steps_bracketed before closes
  rw [ofText, if_pos marked, whole]
  split
  · rename_i nothing
    simp at nothing
  · rfl

theorem bracketed_eq_index_iff {i : ℕ} : bracketed digits = .index i ↔
    (∀ d ∈ digits, d.isDigit = true) ∧ Number.ofDecimalDigits digits = i ∧ i < 2 ^ 64 := by
  have power : Number.twoTo 64 = 2 ^ 64 := rfl
  rw [bracketed, power]
  split
  · rename_i fits
    rw [Bool.and_eq_true, List.all_eq_true, decide_eq_true_eq] at fits
    rw [Segment.index.injEq]
    exact ⟨fun same => ⟨fits.1, same, same ▸ fits.2⟩, fun denotes => denotes.2.1⟩
  · rename_i fits
    rw [Bool.and_eq_true, List.all_eq_true, decide_eq_true_eq] at fits
    constructor
    · intro same
      cases same
    · rintro ⟨ascii, rfl, small⟩
      exact absurd ⟨ascii, small⟩ fits

theorem bracketed_eq_key (outside : (∃ d ∈ digits, d.isDigit = false) ∨ 2 ^ 64 ≤ Number.ofDecimalDigits digits) :
    bracketed digits = .key (String.ofList digits) := by
  have power : Number.twoTo 64 = 2 ^ 64 := rfl
  rw [bracketed, power]
  refine if_neg fun fits => ?_
  rw [Bool.and_eq_true, List.all_eq_true, decide_eq_true_eq] at fits
  rcases outside with ⟨d, member, other⟩ | large
  · rw [fits.1 d member] at other
    cases other
  · omega

/-- An index in a text stands there in brackets. -/
theorem exists_closes_of_mem_steps {i : ℕ} (member : .index i ∈ steps text) : ∃ before rest digits behind,
    text = before ++ '[' :: rest ∧ Closes rest digits behind ∧ bracketed digits = .index i := by
  induction size : text.length using Nat.strong_induction_on generalizing text with
  | _ size ih =>
    cases text with
    | nil => cases member
    | cons c rest =>
      obtain ⟨step, left, front⟩ := exists_front c rest
      have short := front.length_le
      rw [List.length_cons] at size
      rw [front.steps_eq, List.mem_append] at member
      have later (taken : List Char) (whole : c :: rest = taken ++ left) (member : .index i ∈ steps left) :
          ∃ before rest' digits behind, c :: rest = before ++ '[' :: rest' ∧ Closes rest' digits behind ∧
            bracketed digits = .index i := by
        obtain ⟨before, rest', digits, behind, rfl, closes, index⟩ := ih left.length (by omega) member rfl
        exact ⟨taken ++ before, rest', digits, behind, by rw [whole, List.append_assoc], closes, index⟩
      cases front with
      | name => exact later (c :: _) (List.cons_append ..).symm (member.resolve_left (by simp))
      | @digits _ run _ closes =>
        rcases member with here | member
        · exact ⟨[], rest, run, left, rfl, closes, (List.mem_singleton.1 here).symm⟩
        · exact later ('[' :: run ++ [']']) (by simp [closes.1]) member
      | skip mark unclosed => exact later [c] rfl (member.resolve_left (by simp))

/-- The indices of a path are the numbers in brackets that fit 64 bits. -/
theorem index_mem_ofText_iff {s : String} {i : ℕ} : .index i ∈ ofText s ↔ ∃ before digits behind,
    s.toList = before ++ '[' :: (digits ++ ']' :: behind) ∧ digits ≠ [] ∧ (∀ d ∈ digits, d.isDigit = true) ∧
      Number.ofDecimalDigits digits = i ∧ i < 2 ^ 64 := by
  constructor
  · intro member
    have inside : .index i ∈ steps s.toList := by
      unfold ofText at member
      dsimp only at member
      split at member
      · split at member
        · cases List.mem_singleton.1 member
        · exact member
      · cases List.mem_singleton.1 member
    obtain ⟨before, rest, digits, behind, spelled, ⟨rfl, nonempty, -⟩, index⟩ := exists_closes_of_mem_steps inside
    exact ⟨before, digits, behind, spelled, nonempty, bracketed_eq_index_iff.1 index⟩
  · rintro ⟨before, digits, behind, spelled, nonempty, ascii, fits⟩
    have closes : Closes (digits ++ ']' :: behind) digits behind :=
      ⟨rfl, nonempty, fun d member => isDecimalDigit_of_isDigit (ascii d member)⟩
    rw [ofText_bracketed spelled closes, bracketed_eq_index_iff.2 ⟨ascii, fits⟩]
    simp

end Scan

end Path

/-- Digits in brackets denote the greatest number of 64 bits. -/
def Path.NamesLastIndex (s : String) : Prop := ∃ before digits behind,
  s.toList = before ++ '[' :: (digits ++ ']' :: behind) ∧ (∀ d ∈ digits, d.isDigit = true) ∧
    Number.ofDecimalDigits digits = 2 ^ 64 - 1

theorem Path.namesLastIndex_iff {s : String} : NamesLastIndex s ↔ .index (2 ^ 64 - 1) ∈ ofText s := by
  rw [index_mem_ofText_iff]
  constructor
  · rintro ⟨before, digits, behind, spelled, ascii, value⟩
    refine ⟨before, digits, behind, spelled, ?_, ascii, value, by decide⟩
    rintro rfl
    exact absurd value (by decide)
  · rintro ⟨before, digits, behind, spelled, -, ascii, value, -⟩
    exact ⟨before, digits, behind, spelled, ascii, value⟩

/-- The indices of a path are the numbers of 64 bits that stand in brackets in ASCII digits, and all other digits in
brackets are keys. Exactly if none of these numbers is the greatest one of 64 bits, the length of the array that an
index needs always fits 64 bits as well, and then every item is set inside of its array. -/
theorem unflatten_inRange (flat : Dict Value) :
    (∀ s i, .index i ∈ Path.ofText s ↔ ∃ before digits behind, s.toList = before ++ '[' :: (digits ++ ']' :: behind) ∧
      digits ≠ [] ∧ (∀ d ∈ digits, d.isDigit = true) ∧ Number.ofDecimalDigits digits = i ∧ i < 2 ^ 64) ∧
    (∀ s before digits behind, s.toList = before ++ '[' :: (digits ++ ']' :: behind) → digits ≠ [] →
      (∀ d ∈ digits, Text.isDecimalDigit d = true) →
      ((∃ d ∈ digits, d.isDigit = false) ∨ 2 ^ 64 ≤ Number.ofDecimalDigits digits) →
      Path.ofText s = Path.steps before ++ .key (String.ofList digits) :: Path.steps behind) ∧
    ((∀ entry ∈ flat, ∀ i, .index i ∈ Path.ofText entry.1 → i + 1 ≤ 2 ^ 64 - 1) ↔
      ∀ entry ∈ flat, ¬Path.NamesLastIndex entry.1) ∧
    ((∀ entry ∈ flat, ¬Path.NamesLastIndex entry.1) → unflatten? flat = some (unflatten flat)) := by
  have bounded : (∀ entry ∈ flat, ∀ i, .index i ∈ Path.ofText entry.1 → i + 1 ≤ 2 ^ 64 - 1) ↔
      ∀ entry ∈ flat, ¬Path.NamesLastIndex entry.1 := by
    refine forall₂_congr fun entry _ => ?_
    rw [Path.namesLastIndex_iff]
    constructor
    · intro fits last
      exact absurd (fits _ last) (by decide)
    · intro other i index
      obtain ⟨-, -, -, -, -, -, -, small⟩ := Path.index_mem_ofText_iff.1 index
      have different : i ≠ 2 ^ 64 - 1 := fun last => other (last ▸ index)
      omega
  refine ⟨fun s i => Path.index_mem_ofText_iff, ?_, bounded, fun below => unflatten?_eq ?_⟩
  · intro s before digits behind spelled nonempty decimal outside
    rw [Path.ofText_bracketed spelled ⟨rfl, nonempty, decimal⟩, Path.bracketed_eq_key outside]
  · intro entry member i index
    have fits := bounded.2 below entry member i index
    omega

/-- An item behind a hole, and the digit three of another script. -/
theorem unflatten_inRange_scripts :
    let flat : Dict Value := [("a[12]", .null)]
    (¬Path.NamesLastIndex "a[12]" ∧ (∀ i, .index i ∈ Path.ofText "a[12]" → i + 1 ≤ 2 ^ 64 - 1) ∧
      unflatten? flat = some (unflatten flat)) ∧
      Path.ofText "[٣]" = [.key "٣"] := by
  intro flat
  have path : Path.ofText "a[12]" = [.key "a", .index 12] := by decide +kernel
  have below : ¬Path.NamesLastIndex "a[12]" := by
    rw [Path.namesLastIndex_iff, path]
    decide
  obtain ⟨-, keys, bounded, inside⟩ := unflatten_inRange flat
  have below' : ∀ entry ∈ flat, ¬Path.NamesLastIndex entry.1 := List.forall_mem_singleton.2 below
  refine ⟨⟨below, bounded.2 below' _ (List.mem_singleton.2 rfl), inside below'⟩, ?_⟩
  exact keys "[٣]" [] ['٣'] [] rfl (List.cons_ne_nil _ _) (List.forall_mem_singleton.2 (by cbv))
    (.inl ⟨'٣', by simp, rfl⟩)

/-- The greatest number of 64 bits is an index, and a zero in front of it is lost as in all indices, where a key would
keep it. The length of an array that has an item there does not fit a word. -/
theorem unflatten_lastIndex :
    .index (2 ^ 64 - 1) ∈ Path.ofText "[018446744073709551615]" ∧ ¬2 ^ 64 - 1 + 1 ≤ 2 ^ 64 - 1 ∧
      unflatten [("[018446744073709551615]", .null)] = .object [("18446744073709551615", .null)] ∧
      unflatten? [("a[018446744073709551615]", .null)] = none := by
  have single : Path.ofText "[018446744073709551615]" = [.index (2 ^ 64 - 1)] := by decide +kernel
  have behind : Path.ofText "a[018446744073709551615]" = [.key "a", .index (2 ^ 64 - 1)] := by decide +kernel
  have name : toString (2 ^ 64 - 1) = "18446744073709551615" := by decide +kernel
  refine ⟨by rw [single]; exact List.mem_singleton.2 rfl, by decide, ?_, ?_⟩
  · rw [unflatten, List.foldl_cons]
    dsimp only
    rw [single, Value.setAt]
    rw [name]
    rfl
  · rw [unflatten?, List.foldlM_cons]
    dsimp only
    rw [behind]
    rfl

end Reckoner
