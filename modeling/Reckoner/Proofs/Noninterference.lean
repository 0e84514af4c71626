import Reckoner.Proofs.Outcome
import Reckoner.Proofs.Views

namespace Reckoner

/-- Everything but those entries of the state that are not seen. -/
def inputView (seen : String → Prop) : View where
  siblings _ := True
  results _ := True
  state := seen
  report := True
  wholeState := False

theorem Body.allows_inputView {body : Body} {seen : String → Prop} (named : .this ∉ body.mentions)
    (sees : ∀ m ∈ body.mentions, ∀ name, m.name? = some name → seen name) :
    ∀ m ∈ body.mentions, (inputView seen).Allows m := by
  intro m mentioned
  have here := sees m mentioned
  cases m with
  | read name => exact ⟨trivial, here name rfl, fun _ => trivial⟩
  | assigned name => exact ⟨trivial, here name rfl⟩
  | property name => exact here name rfl
  | this => exact named mentioned

namespace Calculator

variable (c : Calculator) {state other : State}

theorem inputView_same :
    (inputView fun name => other.find? name = state.find? name).Same (c.initial state) (c.initial other) where
  scopes := rfl
  builtins := rfl
  siblings _ _ := rfl
  results _ _ := rfl
  state _ agrees := agrees
  report _ := ⟨rfl, rfl⟩
  wholeState := False.elim

/-- The entries of a state play no part in the record unless some calculation names them. The one way to come by an
entry without its name is to use `this` as a whole. Both runs end at the same step with the same outcome, and all that a
record reports is among what they share. -/
theorem evaluate_eq_of_agree (named : ∀ step ∈ c.script.steps, Mention.this ∉ step.body.mentions)
    (agree : ∀ step ∈ c.script.steps, ∀ m ∈ step.body.mentions, ∀ name, m.name? = some name →
      other.find? name = state.find? name) : c.evaluate other = c.evaluate state := by
  have may := fun step member => Body.allows_inputView (named step member) (agree step member)
  obtain ⟨values, env, fault, reach, ends⟩ := Script.Reach.start.exists_end
  obtain ⟨otherEnv, otherReach, same⟩ := c.inputView_same.reach may reach
  obtain ⟨results, error⟩ := reach.runSteps_of_ends ends
  obtain ⟨otherResults, otherError⟩ := otherReach.runSteps_of_ends (same.ends may ends)
  obtain ⟨sameResults, sameError⟩ := same.report trivial
  refine evaluate_eq rfl rfl ?_ ?_
  · exact otherResults.trans (sameResults.trans results.symm)
  · exact otherError.trans ((congrArg _ sameError).trans error.symm)

/-- The first step takes its object from `this`, and the second one fails with what `typeof` tells of a name
that has no value. -/
theorem evaluate_eq_of_agree_beside :
    ∃ c, create ⟨"c", [⟨"a", "return this.b;", .untyped⟩, ⟨"d", "throw typeof e;", .untyped⟩]⟩
        Settings.default = .ok c ∧
      c.evaluate [("b", .bool true), ("f", .null)] = c.evaluate [("b", .bool true)] := by
  have checked : (create ⟨"c", [⟨"a", "return this.b;", .untyped⟩, ⟨"d", "throw typeof e;", .untyped⟩]⟩
      Settings.default).toOption.all (fun c => c.script.steps.all fun step => step.body.mentions.all fun m =>
        m = .property "b" || m = .read "e") = true := by decide +kernel
  refine exists_ok_and (by decide +kernel) fun c created => ?_
  simp only [created, Except.toOption, Option.all_some, List.all_eq_true, Bool.or_eq_true,
    decide_eq_true_eq] at checked
  refine evaluate_eq_of_agree c (fun step member whole => ?_) fun step member m mentioned name named => ?_
  · rcases checked step member _ whole with property | read
    · cases property
    · cases read
  · rcases checked step member m mentioned with rfl | rfl <;> cases named <;> rfl

end Calculator

end Reckoner
