import Mathlib.Data.List.Forall2
import Reckoner.Calculator

namespace Reckoner

/-- What follows from a success holds of one that is seen to be one. -/
theorem exists_ok_and {ε α : Type} {x : Except ε α} {P : α → Prop} (ok : x.isOk = true)
    (follows : ∀ a, x = .ok a → P a) : ∃ a, x = .ok a ∧ P a := by
  cases x with
  | error => exact absurd ok Bool.false_ne_true
  | ok a => exact ⟨a, rfl, follows a rfl⟩

theorem exists_ok_of_map {ε α β : Type} {x : Except ε α} {f : α → β} {b : β}
    (mapped : x.toOption.map f = some b) : ∃ a, x = .ok a ∧ f a = b := by
  cases x with
  | error => cases mapped
  | ok a => exact ⟨a, rfl, Option.some.inj mapped⟩

/-- A step belongs to a definition: it has its name, type and source, its name is valid, and its body
is the one that this source alone compiles to. -/
structure Step.Implements (step : Step) (d : Definition) : Prop where
  name : step.name = d.name
  type : step.type = d.type
  source : step.source = d.operation
  valid : isValidName d.name = true
  body : compileBody d.name d.operation = .ok step.body

namespace Script

/-- A name is not refused for its repetition, if repetitions are allowed or it is new. -/
theorem rejects_eq_false_iff {reject : Bool} {seen : List String} {name : String} :
    (reject && decide (name ∈ seen)) = false ↔ (reject = true → name ∉ seen) := by
  cases reject with
  | false => exact iff_of_true rfl fun strict => absurd strict Bool.false_ne_true
  | true => simp

theorem stepOf_eq_ok_iff {reject : Bool} {seen : List String} {d : Definition} {step : Step} :
    stepOf reject seen d = .ok step ↔ step.Implements d ∧ (reject = true → d.name ∉ seen) := by
  unfold stepOf
  constructor
  · intro made
    split at made
    · exact absurd made (by simp)
    · rename_i valid
      split at made
      · exact absurd made (by simp)
      · rename_i fresh
        cases compiled : compileBody d.name d.operation with
        | error e => rw [compiled] at made; exact absurd made (by simp [Except.map])
        | ok body =>
          rw [compiled] at made
          cases made
          exact ⟨⟨rfl, rfl, rfl, by simpa using valid, compiled⟩,
            rejects_eq_false_iff.mp (Bool.eq_false_iff.mpr fresh)⟩
  · rintro ⟨⟨name, type, source, valid, body⟩, fresh⟩
    obtain ⟨_, _, statements, _⟩ := step
    cases name
    cases type
    cases source
    rw [valid, rejects_eq_false_iff.mpr fresh, body]
    rfl

theorem mem_declare {seen : List String} {name other : String} :
    other ∈ declare seen name ↔ other ∈ seen ∨ other = name := by
  unfold declare
  split
  · rename_i known
    exact ⟨.inl, fun either => either.elim id fun same => same ▸ known⟩
  · rw [List.mem_append, List.mem_singleton]

theorem mem_foldl_declare {seen names : List String} {name : String} :
    name ∈ names.foldl declare seen ↔ name ∈ seen ∨ name ∈ names := by
  induction names generalizing seen with
  | nil => simp
  | cons first rest ih => rw [List.foldl_cons, ih, mem_declare, List.mem_cons, or_assoc]

theorem mem_distinct {name : String} {names : List String} : name ∈ distinct names ↔ name ∈ names := by
  rw [distinct, mem_foldl_declare, or_iff_right List.not_mem_nil]

theorem add_eq_ok_iff {reject : Bool} {script next : Script} {d : Definition} : add reject script d = .ok next ↔
    ∃ step : Step, step.Implements d ∧ (reject = true → d.name ∉ script.declarations) ∧
      next = ⟨declare script.declarations d.name, script.steps ++ [step]⟩ := by
  unfold add
  constructor
  · intro added
    cases made : stepOf reject script.declarations d with
    | error e => rw [made] at added; cases added
    | ok step =>
      rw [made] at added
      cases added
      obtain ⟨implements, fresh⟩ := stepOf_eq_ok_iff.mp made
      exact ⟨step, implements, fresh, rfl⟩
  · rintro ⟨step, implements, fresh, rfl⟩
    rw [stepOf_eq_ok_iff.mpr ⟨implements, fresh⟩]
    rfl

/-- Adding definitions to a script declares the names that are new, and adds a step for each definition, in their
order. Where duplicates are rejected, each name is new. -/
theorem foldlM_add_eq_ok_iff {reject : Bool} {definitions : List Definition} {script whole : Script} :
    definitions.foldlM (add reject) script = .ok whole ↔ ∃ steps, List.Forall₂ Step.Implements steps definitions ∧
      (reject = true → (definitions.map Definition.name).Nodup ∧ ∀ d ∈ definitions, d.name ∉ script.declarations) ∧
      whole = ⟨(definitions.map Definition.name).foldl declare script.declarations, script.steps ++ steps⟩ := by
  induction definitions generalizing script with
  | nil =>
    constructor
    · intro made
      cases made
      exact ⟨[], .nil, fun _ => ⟨.nil, by simp⟩, by simp⟩
    · rintro ⟨steps, implements, -, rfl⟩
      cases implements
      rw [List.append_nil]
      rfl
  | cons d rest ih =>
    rw [List.foldlM_cons]
    constructor
    · intro made
      cases added : add reject script d with
      | error e => rw [added] at made; cases made
      | ok next =>
        rw [added] at made
        obtain ⟨step, here, new, rfl⟩ := add_eq_ok_iff.mp added
        obtain ⟨steps, behind, fresh, rfl⟩ := ih.mp made
        refine ⟨step :: steps, .cons here behind, fun rejected => ?_, by simp⟩
        obtain ⟨apart, unseen⟩ := fresh rejected
        simp only [mem_declare, not_or] at unseen
        refine ⟨List.nodup_cons.mpr ⟨fun again => ?_, apart⟩, List.forall_mem_cons.mpr ⟨new rejected, ?_⟩⟩
        · obtain ⟨other, member, same⟩ := List.mem_map.mp again
          exact (unseen other member).2 same
        · exact fun other member => (unseen other member).1
    · rintro ⟨steps, implements, fresh, rfl⟩
      obtain ⟨step, steps, here, behind, rfl⟩ := List.forall₂_cons_right_iff.mp implements
      have added : add reject script d = .ok ⟨declare script.declarations d.name, script.steps ++ [step]⟩ :=
        add_eq_ok_iff.mpr ⟨step, here, fun rejected => (fresh rejected).2 d (List.mem_cons_self ..), rfl⟩
      rw [added]
      refine ih.mpr ⟨steps, behind, fun rejected => ?_, by simp⟩
      obtain ⟨apart, unseen⟩ := fresh rejected
      obtain ⟨new, apart⟩ := List.nodup_cons.mp apart
      refine ⟨apart, fun other member => ?_⟩
      rw [mem_declare, not_or]
      exact ⟨unseen other (List.mem_cons_of_mem _ member), fun same => new (same ▸ List.mem_map_of_mem member)⟩

/-- The script of accepted definitions has a step for each of them, in their order, and declares the first occurrences
of their names. -/
theorem compile_eq_ok_iff {reject : Bool} {definitions : List Definition} {script : Script} :
    compile definitions reject = .ok script ↔ List.Forall₂ Step.Implements script.steps definitions ∧
      (reject = true → (definitions.map Definition.name).Nodup) ∧
      script.declarations = distinct (definitions.map Definition.name) := by
  rw [compile, foldlM_add_eq_ok_iff]
  constructor
  · rintro ⟨steps, implements, fresh, rfl⟩
    exact ⟨implements, fun rejected => (fresh rejected).1, rfl⟩
  · rintro ⟨implements, apart, declared⟩
    refine ⟨script.steps, implements, fun rejected => ⟨apart rejected, fun _ _ => List.not_mem_nil⟩, ?_⟩
    rw [List.nil_append, ← distinct, ← declared]

theorem compile_implements {reject : Bool} {definitions : List Definition} {script : Script}
    (compiled : compile definitions reject = .ok script) :
    List.Forall₂ Step.Implements script.steps definitions :=
  (compile_eq_ok_iff.mp compiled).1

theorem mem_declarations {reject : Bool} {definitions : List Definition} {script : Script} {name : String}
    (compiled : compile definitions reject = .ok script) :
    name ∈ script.declarations ↔ name ∈ definitions.map Definition.name := by
  rw [(compile_eq_ok_iff.mp compiled).2.2, mem_distinct]

end Script

theorem names_of_implements {steps : List Step} {definitions : List Definition}
    (compiled : List.Forall₂ Step.Implements steps definitions) :
    steps.map Step.name = definitions.map Definition.name := by
  induction compiled with
  | nil => rfl
  | cons first _ ih => rw [List.map_cons, List.map_cons, first.name, ih]

theorem definition_of_implements {steps : List Step} {definitions : List Definition} {step : Step}
    (compiled : List.Forall₂ Step.Implements steps definitions) (member : step ∈ steps) :
    ∃ d ∈ definitions, step.Implements d := by
  induction compiled with
  | nil => cases member
  | @cons first d _ _ here _ ih =>
    rcases List.mem_cons.mp member with same | later
    · exact ⟨d, List.mem_cons_self .., same ▸ here⟩
    · obtain ⟨found, among, implements⟩ := ih later
      exact ⟨found, List.mem_cons_of_mem _ among, implements⟩

theorem valid_of_implements {steps : List Step} {definitions : List Definition}
    (compiled : List.Forall₂ Step.Implements steps definitions) :
    ∀ d ∈ definitions, isValidName d.name = true := by
  induction compiled with
  | nil => exact fun _ member => absurd member List.not_mem_nil
  | cons first _ ih =>
    intro d member
    rcases List.mem_cons.mp member with here | later
    · exact here ▸ first.valid
    · exact ih d later

namespace Calculator

variable {configuration : Configuration} {settings : Settings} {c : Calculator}

/-- What a calculator is made of. -/
theorem create_eq_ok_iff :
    create configuration settings = .ok c ↔
      Script.compile configuration.definitions settings.rejectDuplicates = .ok c.script ∧
      c.template = .ofNames (configuration.definitions.map Definition.name) ∧ c.builtins = settings.builtins ∧
      c.moduleName = settings.moduleName ∧ c.segment = configuration.name := by
  unfold create
  constructor
  · intro created
    cases compiled : Script.compile configuration.definitions settings.rejectDuplicates with
    | error e => rw [compiled] at created; exact absurd created (by simp [Except.map])
    | ok script =>
      rw [compiled] at created
      cases created
      exact ⟨rfl, rfl, rfl, rfl, rfl⟩
  · rintro ⟨compiled, template, builtins, moduleName, segment⟩
    rw [compiled, Except.map, ← template, ← builtins, ← moduleName, ← segment]

theorem create_ok (created : create configuration settings = .ok c) :
    Script.compile configuration.definitions settings.rejectDuplicates = .ok c.script ∧
      c.template = .ofNames (configuration.definitions.map Definition.name) ∧ c.builtins = settings.builtins ∧
      c.moduleName = settings.moduleName ∧ c.segment = configuration.name :=
  create_eq_ok_iff.mp created

end Calculator

end Reckoner
