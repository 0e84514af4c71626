import Mathlib.Data.List.Induction
import Reckoner.Proofs.Compilation

namespace Reckoner

theorem step_of_implements {steps : List Step} {definitions : List Definition} {d : Definition}
    (compiled : List.Forall₂ Step.Implements steps definitions) (member : d ∈ definitions) :
    ∃ step ∈ steps, step.Implements d := by
  induction compiled with
  | nil => cases member
  | cons here _ ih =>
    rcases List.mem_cons.mp member with same | later
    · exact ⟨_, List.mem_cons_self .., same ▸ here⟩
    · obtain ⟨step, among, implements⟩ := ih later
      exact ⟨step, List.mem_cons_of_mem _ among, implements⟩

namespace Script

/-- What is wrong with a definition behind others of the names seen. The name is looked at before its
repetition, and that before the statements. -/
inductive Offends (reject : Bool) (seen : List String) (d : Definition) : CompileError → Prop
  | invalid (invalid : isValidName d.name = false) : Offends reject seen d (.invalidName d.name)
  | repeated (valid : isValidName d.name = true) (strict : reject = true) (known : d.name ∈ seen) :
      Offends reject seen d (.duplicate d.name)
  | malformed {e : CompileError} (valid : isValidName d.name = true) (fresh : reject = true → d.name ∉ seen)
      (fails : compileBody d.name d.operation = .error e) : Offends reject seen d e

theorem Offends.congr {reject : Bool} {seen others : List String} {d : Definition} {e : CompileError}
    (same : ∀ name, name ∈ seen ↔ name ∈ others) (offends : Offends reject seen d e) : Offends reject others d e := by
  cases offends with
  | invalid invalid => exact .invalid invalid
  | repeated valid strict known => exact .repeated valid strict ((same _).mp known)
  | malformed valid fresh fails => exact .malformed valid (fun strict => (same _).not.mp (fresh strict)) fails

theorem stepOf_eq_error_iff {reject : Bool} {seen : List String} {d : Definition} {e : CompileError} :
    stepOf reject seen d = .error e ↔ Offends reject seen d e := by
  unfold stepOf
  constructor
  · intro refused
    split at refused
    · rename_i invalid
      cases refused
      exact .invalid (by simpa using invalid)
    · rename_i valid
      have valid : isValidName d.name = true := by simpa using valid
      split at refused
      · rename_i known
        simp only [Bool.and_eq_true, decide_eq_true_eq] at known
        cases refused
        exact .repeated valid known.1 known.2
      · rename_i fresh
        cases compiled : compileBody d.name d.operation with
        | ok body => rw [compiled] at refused; cases refused
        | error e =>
          rw [compiled] at refused
          cases refused
          exact .malformed valid (rejects_eq_false_iff.mp (Bool.eq_false_iff.mpr fresh)) compiled
  · intro offends
    cases offends with
    | invalid invalid => simp [invalid]
    | repeated valid strict known => simp [valid, strict, known]
    | malformed valid fresh fails => simp [valid, rejects_eq_false_iff.mpr fresh, fails, Except.map]

theorem add_eq_error_iff {reject : Bool} {script : Script} {d : Definition} {e : CompileError} :
    add reject script d = .error e ↔ Offends reject script.declarations d e := by
  rw [← stepOf_eq_error_iff, add]
  cases stepOf reject script.declarations d with
  | error =>
    constructor <;>
      · intro same
        cases same
        rfl
  | ok =>
    constructor <;>
      · intro same
        cases same

/-- A loop that fails has gone on up to some definition, and fails there. -/
theorem foldlM_add_eq_error_iff {reject : Bool} {script : Script} {definitions : List Definition} {e : CompileError} :
    definitions.foldlM (add reject) script = .error e ↔ ∃ front d back part, definitions = front ++ d :: back ∧
      front.foldlM (add reject) script = .ok part ∧ Offends reject part.declarations d e := by
  simp only [← add_eq_error_iff]
  constructor
  · intro fails
    induction definitions generalizing script with
    | nil => cases fails
    | cons first rest ih =>
      rw [List.foldlM_cons] at fails
      cases added : add reject script first with
      | error =>
        rw [added] at fails
        cases fails
        exact ⟨[], first, rest, script, rfl, rfl, added⟩
      | ok next =>
        rw [added] at fails
        obtain ⟨front, d, back, part, rfl, accepted, refused⟩ := ih fails
        refine ⟨first :: front, d, back, part, rfl, ?_, refused⟩
        rw [List.foldlM_cons, added]
        exact accepted
  · rintro ⟨front, d, back, part, rfl, accepted, refused⟩
    rw [List.foldlM_append, accepted]
    change (d :: back).foldlM (add reject) part = .error e
    rw [List.foldlM_cons, refused]
    rfl

/-- Definitions are refused for the first one with which something is wrong. -/
theorem compile_eq_error_iff {reject : Bool} {definitions : List Definition} {e : CompileError} :
    compile definitions reject = .error e ↔ ∃ front d back, definitions = front ++ d :: back ∧
      (∃ part, compile front reject = .ok part) ∧ Offends reject (front.map Definition.name) d e := by
  rw [compile, foldlM_add_eq_error_iff]
  constructor
  · rintro ⟨front, d, back, part, split, accepted, offends⟩
    exact ⟨front, d, back, split, ⟨part, accepted⟩, offends.congr fun _ => mem_declarations accepted⟩
  · rintro ⟨front, d, back, split, ⟨part, accepted⟩, offends⟩
    exact ⟨front, d, back, part, split, accepted, offends.congr fun _ => (mem_declarations accepted).symm⟩

/-- Some names are the first occurrences of others, in their order. -/
structure AreFirst (found names : List String) : Prop where
  mem_iff (name : String) : name ∈ found ↔ name ∈ names
  ordered : found.Pairwise fun a b => names.idxOf a < names.idxOf b

theorem distinct_append_singleton (names : List String) (last : String) : distinct (names ++ [last]) =
    if last ∈ names then distinct names else distinct names ++ [last] := by
  have known : last ∈ names ↔ last ∈ distinct names := mem_distinct.symm
  rw [if_congr known rfl rfl, distinct, List.foldl_append]
  rfl

theorem areFirst_distinct (names : List String) : AreFirst (distinct names) names := by
  refine ⟨fun _ => mem_distinct, ?_⟩
  induction names using List.reverseRecOn with
  | nil => exact .nil
  | append_singleton names last ih =>
    have kept : (distinct names).Pairwise fun a b => (names ++ [last]).idxOf a < (names ++ [last]).idxOf b := by
      refine ih.imp_of_mem fun {a b} first second before => ?_
      rw [List.idxOf_append_of_mem (mem_distinct.mp first), List.idxOf_append_of_mem (mem_distinct.mp second)]
      exact before
    rw [distinct_append_singleton]
    split
    · exact kept
    · rename_i new
      refine List.pairwise_append.mpr ⟨kept, List.pairwise_singleton .., fun a first b only => ?_⟩
      rw [List.mem_singleton.mp only, List.idxOf_append_of_mem (mem_distinct.mp first), List.idxOf_append_of_notMem new]
      exact Nat.lt_add_right _ (List.idxOf_lt_length_of_mem (mem_distinct.mp first))

theorem distinct_isPrefix (front back : List String) : distinct front <+: distinct (front ++ back) := by
  induction back using List.reverseRecOn with
  | nil => simp
  | append_singleton back last ih =>
    rw [← List.append_assoc, distinct_append_singleton]
    split
    · exact ih
    · exact ih.trans (List.prefix_append ..)

variable {reject : Bool} {definitions : List Definition} {script : Script}

theorem compile_isOk_iff : (∃ script, compile definitions reject = .ok script) ↔
    (∀ d ∈ definitions, isValidName d.name = true ∧ ∃ body, compileBody d.name d.operation = .ok body) ∧
      (reject = true → (definitions.map Definition.name).Nodup) := by
  constructor
  · rintro ⟨script, compiled⟩
    obtain ⟨implements, apart, -⟩ := compile_eq_ok_iff.mp compiled
    refine ⟨fun d member => ?_, apart⟩
    obtain ⟨step, _, here⟩ := step_of_implements implements member
    exact ⟨here.valid, step.body, here.body⟩
  · rintro ⟨each, apart⟩
    cases compiled : compile definitions reject with
    | ok script => exact ⟨script, rfl⟩
    | error e =>
      obtain ⟨front, d, back, rfl, _, offends⟩ := compile_eq_error_iff.mp compiled
      obtain ⟨valid, body, accepted⟩ := each d (List.mem_append_right _ (List.mem_cons_self ..))
      cases offends with
      | invalid invalid => rw [valid] at invalid; cases invalid
      | repeated _ strict known =>
        rw [List.map_append, List.map_cons] at apart
        exact absurd rfl ((List.nodup_append.mp (apart strict)).2.2 _ known _ (List.mem_cons_self ..))
      | malformed _ _ fails => rw [accepted] at fails; cases fails

/-- Definitions in front of others of an accepted list. -/
theorem compile_of_isPrefix {front : List Definition} (compiled : compile definitions reject = .ok script)
    (inFront : front <+: definitions) : ∃ part, compile front reject = .ok part ∧
      part.declarations <+: script.declarations ∧ part.steps <+: script.steps := by
  obtain ⟨back, rfl⟩ := inFront
  obtain ⟨implements, apart, declared⟩ := compile_eq_ok_iff.mp compiled
  have here := List.forall₂_take_append script.steps front back implements
  refine ⟨⟨distinct (front.map Definition.name), script.steps.take front.length⟩,
    compile_eq_ok_iff.mpr ⟨here, fun strict => ?_, rfl⟩, ?_, List.take_prefix ..⟩
  · rw [List.map_append] at apart
    exact (List.nodup_append.mp (apart strict)).1
  · rw [declared, List.map_append]
    exact distinct_isPrefix ..

/-- A list of definitions is accepted if all names are valid, all bodies are, and, where repetitions are
rejected, no name occurs twice. The script then has the first occurrences of the names and one step for each
definition; definitions in front of others make the front of the script, and rejecting repetitions does not
change it. A list that is not accepted has the error of the first definition with which something is wrong,
those before it being accepted. -/
theorem compile_outcome (definitions : List Definition) (reject : Bool) :
    ((∃ script, compile definitions reject = .ok script) ↔
        (∀ d ∈ definitions, isValidName d.name = true ∧ ∃ body, compileBody d.name d.operation = .ok body) ∧
          (reject = true → (definitions.map Definition.name).Nodup)) ∧
      (∀ script, compile definitions reject = .ok script →
        AreFirst script.declarations (definitions.map Definition.name) ∧
          List.Forall₂ Step.Implements script.steps definitions ∧
          (∀ front, front <+: definitions → ∃ part, compile front reject = .ok part ∧
            part.declarations <+: script.declarations ∧ part.steps <+: script.steps) ∧
          compile definitions false = .ok script) ∧
      ∀ e, compile definitions reject = .error e ↔ ∃ front d back, definitions = front ++ d :: back ∧
        (∃ part, compile front reject = .ok part) ∧ Offends reject (front.map Definition.name) d e := by
  refine ⟨compile_isOk_iff, fun script compiled => ?_, fun e => compile_eq_error_iff⟩
  obtain ⟨implements, -, declared⟩ := compile_eq_ok_iff.mp compiled
  refine ⟨?_, implements, fun front => compile_of_isPrefix compiled,
    compile_eq_ok_iff.mpr ⟨implements, nofun, declared⟩⟩
  rw [declared]
  exact areFirst_distinct _

end Script

end Reckoner
