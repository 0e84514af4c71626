import Reckoner.Calculator
import Reckoner.Proofs.Dictionary
import Reckoner.Proofs.EvaluationFrame

namespace Reckoner.Script

/-- The environment before a step, once the earlier steps have returned the given values, one each
and in their order. -/
inductive Reach (steps : List Step) (initial : Environment) : List Value → Environment → Prop
  | start : Reach steps initial [] initial
  | next {values env step v after} :
      Reach steps initial values env → steps[values.length]? = some step →
      step.body.run env = (.ok v, after) →
      Reach steps initial (values ++ [v])
        ((after.setSibling step.name v).setResult step.name (step.type.coerce v))

/-- Where a run comes to its end: behind the last step, or at a step that fails. -/
inductive Ends (steps : List Step) (values : List Value) (env : Environment) : Option EvalError → Prop
  | finished : values.length = steps.length → Ends steps values env none
  | failed {step e after} : steps[values.length]? = some step →
      step.body.run env = (.error e, after) → Ends steps values env (some e)

variable {steps : List Step} {initial env : Environment} {values : List Value}

theorem Reach.length_le (reach : Reach steps initial values env) : values.length ≤ steps.length := by
  cases reach with
  | start => exact Nat.zero_le _
  | @next earlier before step v after _ atStep _ =>
    obtain ⟨bound, _⟩ := List.getElem?_eq_some_iff.mp atStep
    rw [List.length_append, List.length_singleton]
    exact bound

/-- The steps behind a reached place, run from there, give what the whole run gives. -/
theorem Reach.runSteps_rest (reach : Reach steps initial values env) :
    runSteps (steps.drop values.length) env = runSteps steps initial := by
  induction reach with
  | start => rfl
  | @next values env step v after _ atStep run ih =>
    obtain ⟨bound, here⟩ := List.getElem?_eq_some_iff.mp atStep
    have unfolded : steps.drop values.length = step :: steps.drop (values.length + 1) := by
      rw [List.drop_eq_getElem_cons bound, here]
    rw [← ih, unfolded, runSteps, run, List.length_append, List.length_singleton]

theorem Reach.runSteps_finished (reach : Reach steps initial values env) (all : values.length = steps.length) :
    runSteps steps initial = env := by
  rw [← reach.runSteps_rest, all, List.drop_length, runSteps]

theorem Reach.runSteps_failed {step : Step} {e : EvalError} {after : Environment}
    (reach : Reach steps initial values env) (atStep : steps[values.length]? = some step)
    (run : step.body.run env = (.error e, after)) : runSteps steps initial = after.setError e.message := by
  obtain ⟨bound, here⟩ := List.getElem?_eq_some_iff.mp atStep
  rw [← reach.runSteps_rest, List.drop_eq_getElem_cons bound, here, runSteps, run]

theorem Reach.runSteps_of_ends {fault : Option EvalError} (reach : Reach steps initial values env)
    (ends : Ends steps values env fault) :
    (runSteps steps initial).results = env.results ∧
      (runSteps steps initial).error = (fault.map EvalError.message).getD env.error := by
  cases ends with
  | finished all =>
    rw [reach.runSteps_finished all]
    exact ⟨rfl, rfl⟩
  | @failed step e after atStep run =>
    have frame := step.body.run_sameReport env
    rw [run] at frame
    rw [reach.runSteps_failed atStep run]
    exact ⟨frame.1, rfl⟩

/-- Every run comes to its end. -/
theorem Reach.exists_end (reach : Reach steps initial values env) :
    ∃ last final fault, Reach steps initial last final ∧ Ends steps last final fault := by
  generalize left : steps.length - values.length = remaining
  induction remaining generalizing values env with
  | zero => exact ⟨values, env, none, reach, .finished (Nat.le_antisymm reach.length_le (by omega))⟩
  | succ remaining ih =>
    have bound : values.length < steps.length := by omega
    have atStep := List.getElem?_eq_getElem bound
    generalize steps[values.length] = step at atStep
    cases outcome : step.body.run env with
    | mk result after =>
      cases result with
      | error e => exact ⟨values, env, some e, reach, .failed atStep outcome⟩
      | ok v =>
        refine ih (reach.next atStep outcome) ?_
        rw [List.length_append, List.length_singleton]
        omega

theorem getElem?_extend {back : List Step} {i : Nat} {step : Step} (atStep : steps[i]? = some step) :
    (steps ++ back)[i]? = some step := by
  obtain ⟨bound, _⟩ := List.getElem?_eq_some_iff.mp atStep
  exact (List.getElem?_append_left bound).trans atStep

/-- What stands behind the steps of a run plays no part in it until they are done. -/
theorem Reach.extend {back : List Step} (reach : Reach steps initial values env) :
    Reach (steps ++ back) initial values env := by
  induction reach with
  | start => exact .start
  | next _ atStep run ih => exact ih.next (getElem?_extend atStep) run

theorem Ends.extend {back : List Step} {e : EvalError} (ends : Ends steps values env (some e)) :
    Ends (steps ++ back) values env (some e) := by
  cases ends with
  | failed atStep run => exact .failed (getElem?_extend atStep) run

theorem runSteps_results {name : String} (others : ∀ step ∈ steps, step.name ≠ name) :
    (runSteps steps env).results.find? name = env.results.find? name := by
  induction steps generalizing env with
  | nil => rfl
  | cons step rest ih =>
    obtain ⟨other, later⟩ := List.forall_mem_cons.mp others
    have frame := step.body.run_sameReport env
    unfold runSteps
    cases outcome : step.body.run env with
    | mk result after =>
      rw [outcome] at frame
      cases result with
      | error e => exact congrArg (·.find? name) frame.1
      | ok v =>
        dsimp only
        rw [ih later, Environment.setResult, Dict.find?_insert, if_neg (Ne.symm other)]
        exact congrArg (·.find? name) frame.1

theorem Reach.runSteps_append (reach : Reach steps initial values env) (all : values.length = steps.length)
    (back : List Step) : runSteps (steps ++ back) initial = runSteps back env := by
  have extended : Reach (steps ++ back) initial values env := reach.extend
  rw [← extended.runSteps_rest, all, List.drop_left]

/-- Steps of other names that stand behind the end of a run leave the result of a name as it is there. -/
theorem Reach.results_extend {back : List Step} {fault : Option EvalError} {name : String}
    (reach : Reach steps initial values env) (ends : Ends steps values env fault)
    (others : ∀ step ∈ back, step.name ≠ name) :
    (runSteps (steps ++ back) initial).results.find? name = env.results.find? name := by
  cases ends with
  | finished all => rw [reach.runSteps_append all, runSteps_results others]
  | failed atStep run =>
    have ends : Ends steps values env _ := .failed atStep run
    exact congrArg (·.find? name) (reach.extend.runSteps_of_ends ends.extend).1

/-- Until the run ends the error message is the one that it started with. -/
theorem Reach.error_eq (reach : Reach steps initial values env) : env.error = initial.error := by
  induction reach with
  | start => rfl
  | @next values env step v after _ _ run ih =>
    have frame := step.body.run_sameReport env
    rw [run] at frame
    exact frame.2.1.trans ih

/-- What a name shows after some steps: the value of the last of them that bears the name, brought to
the type of that step, or `null` if none of them does. -/
inductive LastResult (steps : List Step) (values : List Value) (name : String) : Value → Prop
  | never : (∀ i step, i < values.length → steps[i]? = some step → step.name ≠ name) →
      LastResult steps values name .null
  | last {i step v} : steps[i]? = some step → values[i]? = some v → step.name = name →
      (∀ j later, i < j → j < values.length → steps[j]? = some later → later.name ≠ name) →
      LastResult steps values name (step.type.coerce v)

theorem LastResult.here {step : Step} (atStep : steps[values.length]? = some step) (v : Value) :
    LastResult steps (values ++ [v]) step.name (step.type.coerce v) := by
  refine .last atStep (by simp) rfl fun j later after bound => ?_
  rw [List.length_append, List.length_singleton] at bound
  omega

/-- A result stays what it is over a step of another name. -/
theorem LastResult.keep {step : Step} {name : String} {shown : Value} (v : Value)
    (result : LastResult steps values name shown) (atStep : steps[values.length]? = some step)
    (other : step.name ≠ name) : LastResult steps (values ++ [v]) name shown := by
  have skip : ∀ j later, j < (values ++ [v]).length → steps[j]? = some later →
      (j < values.length → later.name ≠ name) → later.name ≠ name := by
    intro j later bound atLater earlier
    rw [List.length_append, List.length_singleton] at bound
    by_cases before : j < values.length
    · exact earlier before
    · have same : j = values.length := by omega
      rw [same, atStep] at atLater
      exact Option.some.inj atLater ▸ other
  cases result with
  | never absent =>
    exact .never fun i step bound atStep => skip i step bound atStep fun before => absent i step before atStep
  | @last i last w atLast returned named latest =>
    obtain ⟨bound, _⟩ := List.getElem?_eq_some_iff.mp returned
    refine .last atLast ?_ named fun j later after within atLater =>
      skip j later within atLater fun before => latest j later after before atLater
    rw [List.getElem?_append_left bound, returned]

/-- The results after some steps: an entry for each of the names and no others, which shows the last
value of that name. -/
structure ResultsAfter (steps : List Step) (values : List Value) (names : List String)
    (results : Dict Value) : Prop where
  sorted : results.Sorted
  names (name : String) : results.contains name = true ↔ name ∈ names
  entry (name : String) (v : Value) : results.find? name = some v → LastResult steps values name v

theorem resultsAfter_start (steps : List Step) (names : List String) :
    ResultsAfter steps [] names (Template.ofNames names).results where
  sorted := Dict.sorted_ofList _
  names name := by
    unfold Template.ofNames Dict.contains
    rw [Dict.find?_ofList_map]
    split <;> simp [*]
  entry name v found := by
    unfold Template.ofNames at found
    rw [Dict.find?_ofList_map] at found
    split at found
    · cases found
      exact .never fun i step bound => absurd bound (Nat.not_lt_zero i)
    · cases found

theorem ResultsAfter.next {names : List String} {results : Dict Value} {step : Step}
    (so : ResultsAfter steps values names results) (atStep : steps[values.length]? = some step)
    (declared : step.name ∈ names) (v : Value) :
    ResultsAfter steps (values ++ [v]) names (results.insert step.name (step.type.coerce v)) where
  sorted := so.sorted.insert _ _
  names name := by
    rw [Dict.contains_insert, Bool.or_eq_true, beq_iff_eq, so.names]
    exact ⟨fun either => either.elim (fun same => same ▸ declared) id, Or.inr⟩
  entry name shown found := by
    rw [Dict.find?_insert] at found
    split at found
    · rename_i same
      cases found
      exact same ▸ .here atStep v
    · rename_i other
      exact (so.entry name shown found).keep v atStep (Ne.symm other)

/-- The results follow the steps, whatever the statements of the steps do. -/
theorem Reach.resultsAfter {names : List String} (reach : Reach steps initial values env)
    (declared : ∀ step ∈ steps, step.name ∈ names)
    (fresh : initial.results = (Template.ofNames names).results) :
    ResultsAfter steps values names env.results := by
  induction reach with
  | start => exact fresh ▸ resultsAfter_start steps names
  | @next values env step v after _ atStep run ih =>
    have frame := step.body.run_sameReport env
    rw [run] at frame
    have next := ih.next atStep (declared step (List.mem_of_getElem? atStep)) v
    rw [← frame.1] at next
    exact next

end Reckoner.Script
