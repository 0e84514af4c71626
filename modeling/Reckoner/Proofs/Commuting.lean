import Reckoner.Proofs.Outcome
import Reckoner.Proofs.Views

namespace Reckoner

/-- A calculation assigns nothing, and it reads neither the name of the other calculation nor `_global`. -/
structure Body.Independent (body : Body) (other : String) : Prop where
  assigns (name : String) : .assigned name ∉ body.mentions
  reads : .read other ∉ body.mentions
  global : .read Environment.globalName ∉ body.mentions

/-- Without assignments only the scopes change. -/
theorem scopes_invariant (outside : Environment) :
    Invariant (fun m => ∀ name, m ≠ .assigned name) (fun _ => True) (·.exit = outside) where
  read _ _ _ := trivial
  property _ _ := trivial
  this _ _ := trivial
  assign may := absurd rfl (may _)
  declare kind _ _ _ here := by cases kind <;> exact here
  pushScope here := here
  popScope {env} here := by
    unfold Environment.popScope
    split <;> exact here
  exit here := here

/-- What a calculation can be told of its environment that does not look at one name nor at `_global`. -/
def besideView (other : String) : View where
  siblings name := name ≠ other
  results _ := False
  state _ := True
  report := False
  wholeState := True

namespace Body.Independent

variable {body : Body} {other : String} {env : Environment}

theorem allows (independent : body.Independent other) : ∀ m ∈ body.mentions, (besideView other).Allows m := by
  intro m mentioned
  cases m with
  | read name =>
    refine ⟨?_, trivial, ?_⟩
    · rintro rfl
      exact independent.reads mentioned
    · rintro rfl
      exact independent.global mentioned
  | assigned name => exact absurd mentioned (independent.assigns name)
  | property | this => exact trivial

/-- A calculation that assigns nothing leaves nothing behind. -/
theorem run_eq (independent : body.Independent other) {outcome : Except EvalError Value}
    (gives : (body.run env).1 = outcome) : body.run env = (outcome, env.exit) :=
  Prod.ext gives (body.run_invariant Value.hereditary_true (scopes_invariant env.exit)
    (fun _ mentioned name same => independent.assigns name (same ▸ mentioned)) rfl).1

/-- The calculation gives the same before and behind the other one. -/
theorem run_behind (independent : body.Independent other) (value result : Value) :
    (body.run ((env.exit.setSibling other value).setResult other result)).1 = (body.run env).1 := by
  refine (View.Same.run independent.allows ?_).1
  exact
    { scopes := rfl
      builtins := rfl
      siblings := fun name seen => (Dict.find?_insert ..).trans (if_neg seen)
      results := fun _ => False.elim
      state := fun _ _ => rfl
      report := False.elim
      wholeState := fun _ => rfl }

end Body.Independent

/-- Two steps that both succeed and have nothing to do with each other can change places: neither of them changes more
than its own sibling and its own result, and the two names are different. -/
theorem Script.runSteps_swap {first second : Step} {rest : List Step} {env : Environment} {v w : Value}
    (different : first.name ≠ second.name) (independent : first.body.Independent second.name)
    (independentBack : second.body.Independent first.name) (firstGives : (first.body.run env).1 = .ok v)
    (secondGives : (second.body.run env).1 = .ok w) :
    runSteps (first :: second :: rest) env = runSteps (second :: first :: rest) env := by
  have firstRan := independent.run_eq firstGives
  have secondRan := independentBack.run_eq secondGives
  have firstBehind := independent.run_eq ((independent.run_behind w (second.type.coerce w)).trans firstGives)
  have secondBehind := independentBack.run_eq
    ((independentBack.run_behind v (first.type.coerce v)).trans secondGives)
  simp only [runSteps, firstRan, secondRan, firstBehind, secondBehind]
  congr 1
  simp only [Environment.setSibling, Environment.setResult, Environment.exit, Dict.insert_comm different]

/-- The same behind other steps, as long as neither of the two fails there. The run may also come to its end before it
gets to them. -/
theorem Script.runSteps_swap_behind {before behind : List Step} {first second : Step} {initial : Environment}
    (different : first.name ≠ second.name) (independent : first.body.Independent second.name)
    (independentBack : second.body.Independent first.name)
    (steady : ∀ values env e, Reach (before ++ first :: second :: behind) initial values env →
      Ends (before ++ first :: second :: behind) values env (some e) →
      values.length ≠ before.length ∧ values.length ≠ before.length + 1) :
    runSteps (before ++ second :: first :: behind) initial =
      runSteps (before ++ first :: second :: behind) initial := by
  have opening : Reach before initial [] initial := .start
  obtain ⟨values, env, fault, reach, ends⟩ := opening.exists_end
  cases ends with
  | failed atStep ran =>
    rw [reach.extend.runSteps_failed (getElem?_extend atStep) ran,
      reach.extend.runSteps_failed (getElem?_extend atStep) ran]
  | finished all =>
    have atFirst : (before ++ first :: second :: behind)[values.length]? = some first := by simp [all]
    cases firstGives : (first.body.run env).1 with
    | error e =>
      have fails := independent.run_eq firstGives
      exact absurd all (steady values env e reach.extend (.failed atFirst fails)).1
    | ok v =>
      have next := reach.extend.next atFirst (independent.run_eq firstGives)
      have atSecond : (before ++ first :: second :: behind)[(values ++ [v]).length]? = some second := by simp [all]
      cases secondGives : (second.body.run env).1 with
      | error e =>
        have fails := independentBack.run_eq
          ((independentBack.run_behind v (first.type.coerce v)).trans secondGives)
        exact absurd (by simp [all]) (steady _ _ e next (.failed atSecond fails)).2
      | ok w =>
        rw [reach.runSteps_append all, reach.runSteps_append all,
          runSteps_swap different independent independentBack firstGives secondGives]

namespace Calculator

variable {title : String} {front back : List Definition} {d e : Definition} {settings : Settings}
  {c swapped : Calculator}

theorem create_swap (created : create ⟨title, front ++ d :: e :: back⟩ settings = .ok c) :
    ∃ swapped before first second behind, create ⟨title, front ++ e :: d :: back⟩ settings = .ok swapped ∧
      c.script.steps = before ++ first :: second :: behind ∧
      swapped.script.steps = before ++ second :: first :: behind ∧
      before.length = front.length ∧ first.Implements d ∧ second.Implements e := by
  obtain ⟨compiled, _, builtins, moduleName, segment⟩ := create_ok created
  obtain ⟨implements, fresh, -⟩ := Script.compile_eq_ok_iff.mp compiled
  have atFront := List.forall₂_take_append c.script.steps front (d :: e :: back) implements
  have atBack := List.forall₂_drop_append c.script.steps front (d :: e :: back) implements
  have whole := List.take_append_drop front.length c.script.steps
  obtain ⟨first, _, atFirst, atBack, split⟩ := List.forall₂_cons_right_iff.mp atBack
  obtain ⟨second, behind, atSecond, atBehind, rfl⟩ := List.forall₂_cons_right_iff.mp atBack
  rw [split] at whole
  generalize c.script.steps.take front.length = before at atFront whole
  let names := (front ++ e :: d :: back).map Definition.name
  refine ⟨⟨c.moduleName, c.segment, .ofNames names,
    ⟨Script.distinct names, before ++ second :: first :: behind⟩, c.builtins⟩, before, first, second, behind,
    create_eq_ok_iff.mpr ?_, whole.symm, rfl, atFront.length_eq, atFirst, atSecond⟩
  refine ⟨Script.compile_eq_ok_iff.mpr ⟨?_, fun rejected => ?_, rfl⟩, rfl, builtins, moduleName, segment⟩
  · exact List.rel_append atFront (.cons atSecond (.cons atFirst atBehind))
  · have exchanged : (front ++ e :: d :: back).Perm (front ++ d :: e :: back) :=
      (List.Perm.swap d e back).append_left front
    exact (exchanged.map Definition.name).nodup_iff.mpr (fresh rejected)

/-- Two neighbours among the definitions that have nothing to do with each other can change places, unless the
run comes to its end at one of them. The record stays the same. -/
theorem evaluate_swap (created : create ⟨title, front ++ d :: e :: back⟩ settings = .ok c)
    (different : d.name ≠ e.name)
    (independent : ∀ body, compileBody d.name d.operation = .ok body → body.Independent e.name)
    (independentBack : ∀ body, compileBody e.name e.operation = .ok body → body.Independent d.name)
    (state : State)
    (steady : ∀ values env fault, Script.Reach c.script.steps (c.initial state) values env →
      Script.Ends c.script.steps values env (some fault) →
      values.length ≠ front.length ∧ values.length ≠ front.length + 1) :
    ∃ swapped, create ⟨title, front ++ e :: d :: back⟩ settings = .ok swapped ∧
      swapped.evaluate state = c.evaluate state := by
  obtain ⟨swapped, before, first, second, behind, createdSwapped, steps, swappedSteps, length, atFirst,
    atSecond⟩ := create_swap created
  have start : swapped.initial state = c.initial state := by
    refine initial_congr created createdSwapped (fun name => ?_) state
    simp only [List.map_append, List.map_cons, List.mem_append, List.mem_cons]
    tauto
  rw [steps, ← length] at steady
  have run := Script.runSteps_swap_behind (atFirst.name ▸ atSecond.name ▸ different)
    (atSecond.name ▸ independent _ atFirst.body) (atFirst.name ▸ independentBack _ atSecond.body) steady
  refine ⟨swapped, createdSwapped, ?_⟩
  obtain ⟨_, _, _, moduleName, segment⟩ := create_ok created
  obtain ⟨_, _, _, swappedModule, swappedSegment⟩ := create_ok createdSwapped
  refine evaluate_eq (swappedModule.trans moduleName.symm) (swappedSegment.trans segment.symm) ?_ ?_
  · rw [Script.run, Script.run, steps, swappedSteps, start, run]
  · rw [Script.run, Script.run, steps, swappedSteps, start, run]

/-- The third step fails with the value of the second one, whichever of the first two comes first. That `b` shows a
value at the end tells that the run has got past it. -/
theorem evaluate_swap_before_throw :
    ∃ c, create ⟨"c", [] ++ ⟨"a", "return typeof x;", .string⟩ :: ⟨"b", "return this.a;", .untyped⟩ ::
        [⟨"f", "throw b;", .number⟩]⟩ Settings.default = .ok c ∧
      ∃ swapped, create ⟨"c", [] ++ ⟨"b", "return this.a;", .untyped⟩ :: ⟨"a", "return typeof x;", .string⟩ ::
          [⟨"f", "throw b;", .number⟩]⟩ Settings.default = .ok swapped ∧
        swapped.evaluate [("a", .string "e")] = c.evaluate [("a", .string "e")] := by
  have mentions : (compileBody "a" "return typeof x;").toOption.all (·.mentions.all (· = .read "x")) = true ∧
      (compileBody "b" "return this.a;").toOption.all (·.mentions.all (· = .property "a")) = true := by
    decide +kernel
  have shown : (create ⟨"c", [] ++ ⟨"a", "return typeof x;", .string⟩ :: ⟨"b", "return this.a;", .untyped⟩ ::
      [⟨"f", "throw b;", .number⟩]⟩ Settings.default).toOption.all (fun c =>
        ((c.evaluate [("a", .string "e")]).calculation? "b").any (·.text = "e")) = true := by decide +kernel
  refine exists_ok_and (by decide +kernel) fun c created => ?_
  refine evaluate_swap created (by decide) (fun body compiled => ?_) (fun body compiled => ?_) _ ?_
  · have all := mentions.1
    rw [compiled, Except.toOption, Option.all_some, List.all_eq_true] at all
    constructor
    · intro name mentioned
      simpa using all _ mentioned
    · intro mentioned
      simpa using all _ mentioned
    · intro mentioned
      simpa [Environment.globalName] using all _ mentioned
  · have all := mentions.2
    rw [compiled, Except.toOption, Option.all_some, List.all_eq_true] at all
    constructor
    · intro name mentioned
      simpa using all _ mentioned
    · intro mentioned
      simpa using all _ mentioned
    · intro mentioned
      simpa using all _ mentioned
  · intro values env fault reach ends
    rw [created, Except.toOption, Option.all_some, Option.any_eq_true] at shown
    obtain ⟨v, found, text⟩ := shown
    rw [evaluate_calculation? created, Script.run, (reach.runSteps_of_ends ends).1] at found
    have so := reach.resultsAfter (names_declared created) (initial_results created _)
    cases so.entry "b" v found with
    | never => simp [Value.text] at text
    | @last i step w atStep returned named =>
      have names : c.script.steps.map Step.name = ["a", "b", "f"] :=
        names_of_implements (Script.compile_implements (create_ok created).1)
      have placed : (c.script.steps.map Step.name)[i]? = some "b" := by
        rw [List.getElem?_map, atStep, Option.map_some, named]
      rw [names] at placed
      obtain ⟨bound, _⟩ := List.getElem?_eq_some_iff.mp returned
      have further : i ≠ 0 := by
        rintro rfl
        simp at placed
      rw [List.length_nil]
      omega

end Calculator

end Reckoner
