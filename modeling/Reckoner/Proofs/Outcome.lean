import Reckoner.Proofs.Compilation
import Reckoner.Proofs.EmptyTexts
import Reckoner.Proofs.PlainKeys
import Reckoner.Proofs.ScriptRun

namespace Reckoner

/-- The environment before the first step. -/
def Calculator.initial (c : Calculator) (state : State) : Environment :=
  c.template.instantiate c.script.declarations state c.builtins

/-- All that a run tells of a record is in the results and the error message. -/
theorem Calculator.evaluate_eq {c other : Calculator} {state otherState : State}
    (moduleName : other.moduleName = c.moduleName) (segment : other.segment = c.segment)
    (results : (other.script.run (other.initial otherState)).results = (c.script.run (c.initial state)).results)
    (error : (other.script.run (other.initial otherState)).error = (c.script.run (c.initial state)).error) :
    other.evaluate otherState = c.evaluate state := by
  unfold initial at results error
  simp only [evaluate, moduleName, segment, results, error]

namespace Calculator

variable {configuration : Configuration} {settings : Settings} {c : Calculator}

theorem names_declared (created : create configuration settings = .ok c) :
    ∀ step ∈ c.script.steps, step.name ∈ configuration.definitions.map Definition.name := by
  intro step member
  rw [← names_of_implements (Script.compile_implements (create_ok created).1)]
  exact List.mem_map_of_mem member

theorem initial_results (created : create configuration settings = .ok c) (state : State) :
    (c.initial state).results =
      (Template.ofNames (configuration.definitions.map Definition.name)).results := by
  rw [initial, (create_ok created).2.1]
  rfl

theorem initial_results_find? (created : create configuration settings = .ok c) (state : State) (name : String) :
    (c.initial state).results.find? name =
      if name ∈ configuration.definitions.map Definition.name then some .null else none := by
  rw [initial_results created]
  exact Dict.find?_ofList_map ..

theorem initial_siblings_find? (created : create configuration settings = .ok c) (state : State) (name : String) :
    (c.initial state).siblings.find? name =
      if name ∈ configuration.definitions.map Definition.name then some .undefined else none := by
  change (Dict.ofList (c.script.declarations.map (·, Value.undefined))).find? name = _
  simp only [Dict.find?_ofList_map, Script.mem_declarations (create_ok created).1]

/-- It plays no part for the start in which order the names are defined. -/
theorem initial_congr {other : Calculator} {otherConfiguration : Configuration}
    (created : create configuration settings = .ok c) (createdOther : create otherConfiguration settings = .ok other)
    (same : ∀ name, name ∈ otherConfiguration.definitions.map Definition.name ↔
      name ∈ configuration.definitions.map Definition.name) (state : State) :
    other.initial state = c.initial state := by
  have siblings : ∀ name, name ∈ other.script.declarations ↔ name ∈ c.script.declarations := by
    intro name
    rw [Script.mem_declarations (create_ok created).1, Script.mem_declarations (create_ok createdOther).1]
    exact same name
  obtain ⟨_, template, builtins, _⟩ := create_ok created
  obtain ⟨_, templateOther, builtinsOther, _⟩ := create_ok createdOther
  simp only [initial, Template.instantiate, Template.ofNames, template, templateOther, builtins, builtinsOther,
    Dict.ofList_map_congr siblings, Dict.ofList_map_congr same]

theorem initial_error (created : create configuration settings = .ok c) (state : State) :
    (c.initial state).error = "" := by
  rw [initial, (create_ok created).2.1]
  rfl

/-- No name that is accepted holds a path, so the results are nested as they stand. -/
theorem unflatten_results (created : create configuration settings = .ok c) {values : List Value}
    {results : Dict Value} (so : Script.ResultsAfter c.script.steps values
      (configuration.definitions.map Definition.name) results) : unflatten results = .object results := by
  refine unflatten_plain so.sorted fun entry member => ?_
  have held : results.contains entry.1 = true :=
    List.lookup_isSome_iff.mpr ⟨entry, member, beq_self_eq_true _⟩
  obtain ⟨d, declared, named⟩ := List.mem_map.mp ((so.names entry.1).mp held)
  rw [← named]
  exact ofText_of_isValidName
    (valid_of_implements (Script.compile_implements (create_ok created).1) d declared)

theorem run_resultsAfter (created : create configuration settings = .ok c) (state : State) :
    ∃ values, Script.ResultsAfter c.script.steps values (configuration.definitions.map Definition.name)
      (c.script.run (c.initial state)).results := by
  obtain ⟨values, env, fault, reach, ends⟩ := Script.Reach.start.exists_end
  have so := reach.resultsAfter (names_declared created) (initial_results created state)
  rw [← (reach.runSteps_of_ends ends).1] at so
  exact ⟨values, so⟩

theorem evaluate_calculation? (created : create configuration settings = .ok c) (state : State) (name : String) :
    (c.evaluate state).calculation? name = (c.script.run (c.initial state)).results.find? name := by
  obtain ⟨values, so⟩ := run_resultsAfter created state
  have nested : (c.evaluate state).calculations = _ := unflatten_results created so
  rw [Record.calculation?, nested]
  rfl

theorem exists_calculation (created : create configuration settings = .ok c) (state : State) {name : String}
    (declared : name ∈ configuration.definitions.map Definition.name) :
    ∃ v, (c.evaluate state).calculation? name = some v := by
  obtain ⟨values, so⟩ := run_resultsAfter created state
  rw [evaluate_calculation? created]
  exact Option.isSome_iff_exists.mp ((so.names name).mpr declared)

/-- The calculations of a record are an object that holds the names of all definitions and no others.
A name shows the value of the last step of that name before the run ended, brought to its type, or
`null`. Before every step the results are made up in this way from the steps so far. -/
theorem evaluate_calculations (created : create configuration settings = .ok c) (state : State) :
    List.Forall₂ Step.Implements c.script.steps configuration.definitions ∧
      (∀ values env, Script.Reach c.script.steps (c.initial state) values env →
        Script.ResultsAfter c.script.steps values (configuration.definitions.map Definition.name)
          env.results) ∧
      (∃ values env fault, Script.Reach c.script.steps (c.initial state) values env ∧
        Script.Ends c.script.steps values env fault) ∧
      ∀ values env fault, Script.Reach c.script.steps (c.initial state) values env →
        Script.Ends c.script.steps values env fault →
        (c.evaluate state).calculations = .object env.results := by
  have follow {values env} (reach : Script.Reach c.script.steps (c.initial state) values env) :=
    reach.resultsAfter (names_declared created) (initial_results created state)
  refine ⟨Script.compile_implements (create_ok created).1, fun _ _ => follow, Script.Reach.start.exists_end, ?_⟩
  intro values env fault reach ends
  change unflatten (Script.runSteps c.script.steps (c.initial state)).results = _
  rw [(reach.runSteps_of_ends ends).1]
  exact unflatten_results created (follow reach)

/-- Three steps, two of them for one name, and the last one fails. -/
theorem evaluate_calculations_twice :
    ∃ c, create ⟨"c", [⟨"a", "return b;", .string⟩, ⟨"a", "let t = a; return t;", .untyped⟩,
        ⟨"d", "throw a;", .number⟩]⟩ Settings.default = .ok c ∧
      ∃ results : Dict Value, (c.evaluate [("b", .bool true)]).calculations = .object results ∧
        results.Sorted ∧ ∀ name, results.contains name = true ↔ name ∈ ["a", "a", "d"] := by
  refine exists_ok_and (by decide +kernel) fun c created => ?_
  obtain ⟨_, follow, ⟨values, env, fault, reach, ends⟩, shown⟩ := evaluate_calculations created [("b", .bool true)]
  have so := follow values env reach
  exact ⟨env.results, shown values env fault reach ends, so.sorted, so.names⟩

theorem evaluate_error (created : create configuration settings = .ok c) (state : State) {values : List Value}
    {env : Environment} {fault : Option EvalError}
    (reach : Script.Reach c.script.steps (c.initial state) values env)
    (ends : Script.Ends c.script.steps values env fault) :
    (c.evaluate state).error = (fault.map EvalError.message).filter (· ≠ "") := by
  have slot := (reach.runSteps_of_ends ends).2
  rw [reach.error_eq, initial_error created] at slot
  change (if (Script.runSteps c.script.steps (c.initial state)).error = "" then none
    else some (Script.runSteps c.script.steps (c.initial state)).error) = _
  rw [slot]
  cases fault with
  | none => rfl
  | some e => by_cases empty : e.message = "" <;> simp [empty, Option.filter]

/-- A record reports a fault just if some step failed with an error that is not silent, and then the
message of the first step that failed. The message is all that is kept of an error, and an empty one
counts as none. -/
theorem evaluate_isFaulted_iff (created : create configuration settings = .ok c) (state : State) :
    (∃ values env fault, Script.Reach c.script.steps (c.initial state) values env ∧
      Script.Ends c.script.steps values env fault) ∧
    ∀ values env fault, Script.Reach c.script.steps (c.initial state) values env →
      Script.Ends c.script.steps values env fault →
      ((c.evaluate state).isFaulted = true ↔ ∃ e, fault = some e ∧ ¬ e.IsSilent) ∧
        (c.evaluate state).fault?.isSome = (c.evaluate state).isFaulted ∧
        ∀ e, fault = some e → ¬ e.IsSilent →
          (c.evaluate state).error = some e.message ∧ (c.evaluate state).fault? = some ⟨"", e.message⟩ := by
  refine ⟨Script.Reach.start.exists_end, fun values env fault reach ends => ?_⟩
  have error := evaluate_error created state reach ends
  have told (e : EvalError) (failed : fault = some e) (loud : ¬ e.IsSilent) :
      (c.evaluate state).error = some e.message := by
    rw [error, failed]
    simp [Option.filter, mt e.message_eq_empty_iff.mp loud]
  refine ⟨⟨fun faulted => ?_, ?_⟩, ?_, fun e failed loud => ?_⟩
  · cases fault with
    | none => rw [Record.isFaulted, error] at faulted; exact absurd faulted Bool.false_ne_true
    | some e =>
      refine ⟨e, rfl, fun silent => ?_⟩
      rw [Record.isFaulted, error, Option.map_some, e.message_eq_empty_iff.mpr silent] at faulted
      exact absurd faulted (by decide)
  · rintro ⟨e, failed, loud⟩
    rw [Record.isFaulted, told e failed loud]
    rfl
  · rw [Record.fault?, Record.isFaulted, Option.isSome_map]
  · refine ⟨told e failed loud, ?_⟩
    rw [Record.fault?, told e failed loud]
    rfl

/-- A thrown text that is not empty makes a fault with this message. -/
theorem evaluate_isFaulted_iff_low :
    ∃ c, create ⟨"c", [⟨"x", "throw 'low';", .untyped⟩]⟩ Settings.default = .ok c ∧
      ∃ values env e, Script.Reach c.script.steps (c.initial []) values env ∧
        Script.Ends c.script.steps values env (some e) ∧ ¬ e.IsSilent ∧ e.message = "low" ∧
        (c.evaluate []).isFaulted = true ∧ (c.evaluate []).error = some "low" ∧
        (c.evaluate []).fault? = some ⟨"", "low"⟩ := by
  have checked : (create ⟨"c", [⟨"x", "throw 'low';", .untyped⟩]⟩ Settings.default).toOption.map
      (fun c => (c.evaluate []).error) = some (some "low") := by decide +kernel
  obtain ⟨c, created, error⟩ := exists_ok_of_map checked
  obtain ⟨⟨values, env, fault, reach, ends⟩, reported⟩ := evaluate_isFaulted_iff created []
  obtain ⟨faulted, -, told⟩ := reported values env fault reach ends
  have isFaulted : (c.evaluate []).isFaulted = true := by rw [Record.isFaulted, error]; rfl
  obtain ⟨e, rfl, loud⟩ := faulted.mp isFaulted
  obtain ⟨message, reason⟩ := told e rfl loud
  have low : e.message = "low" := Option.some.inj (message.symm.trans error)
  rw [low] at reason
  exact ⟨c, created, values, env, e, reach, ends, loud, low, isFaulted, error, reason⟩

/-- A thrown empty string ends the run at its step, but the record reports no fault. -/
theorem not_isFaulted_of_empty_throw :
    ∃ c, create ⟨"c", [⟨"x", "throw '';", .untyped⟩]⟩ Settings.default = .ok c ∧
      (∃ env e, Script.Reach c.script.steps (c.initial []) [] env ∧ Script.Ends c.script.steps [] env (some e)) ∧
      (c.evaluate []).isFaulted = false ∧ (c.evaluate []).fault? = none := by
  have checked : (create ⟨"c", [⟨"x", "throw '';", .untyped⟩]⟩ Settings.default).toOption.all (fun c =>
      (c.evaluate []).error.isNone && c.script.steps.head?.any fun step =>
        !(step.body.run (c.initial [])).1.isOk) = true := by decide +kernel
  refine exists_ok_and (by decide +kernel) fun c created => ?_
  rw [created, Except.toOption, Option.all_some, Bool.and_eq_true, Option.isNone_iff_eq_none,
    Option.any_eq_true] at checked
  obtain ⟨silent, step, first, fails⟩ := checked
  refine ⟨⟨c.initial [], ?_⟩, ?_, ?_⟩
  · cases outcome : step.body.run (c.initial []) with
    | mk result after =>
      cases result with
      | ok v => rw [outcome] at fails; exact absurd fails Bool.false_ne_true
      | error e => exact ⟨e, .start, .failed (List.head?_eq_getElem?.symm.trans first) outcome⟩
  · rw [Record.isFaulted, silent]
    rfl
  · rw [Record.fault?, silent]
    rfl

end Calculator

end Reckoner
