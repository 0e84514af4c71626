import Reckoner.Proofs.Outcome
import Reckoner.Proofs.Views

namespace Reckoner

/-- What definitions can be told of their environment when others stand behind them: not which names only
those others bear, and not the whole of the results. -/
def frontView (front back : List Definition) : View where
  siblings name := name ∈ back.map Definition.name → name ∈ front.map Definition.name
  results name := name ∈ front.map Definition.name
  state _ := True
  report := False
  wholeState := True

/-- A calculation keeps clear of the names that only definitions behind bear, and of `_global`. -/
def Body.KeepsClear (body : Body) (front back : List Definition) : Prop :=
  ∀ name, body.Uses name → name ≠ Environment.globalName ∧
    (name ∈ back.map Definition.name → name ∈ front.map Definition.name)

theorem Body.KeepsClear.allows {body : Body} {front back : List Definition} (clear : body.KeepsClear front back) :
    ∀ m ∈ body.mentions, (frontView front back).Allows m := by
  intro m mentioned
  cases m with
  | read name =>
    obtain ⟨other, among⟩ := clear name (.inl mentioned)
    exact ⟨among, trivial, fun global => absurd global other⟩
  | assigned name => exact ⟨(clear name (.inr mentioned)).2, trivial⟩
  | property | this => exact trivial

namespace Calculator

variable {title : String} {front back : List Definition} {settings : Settings} {whole part : Calculator}

/-- The front of accepted definitions is accepted, and its calculator runs the front of the steps. -/
theorem create_front (created : create ⟨title, front ++ back⟩ settings = .ok whole) :
    ∃ part later, create ⟨title, front⟩ settings = .ok part ∧
      whole.script.steps = part.script.steps ++ later ∧ List.Forall₂ Step.Implements later back := by
  obtain ⟨compiled, _, builtins, moduleName, segment⟩ := create_ok created
  obtain ⟨implements, fresh, -⟩ := Script.compile_eq_ok_iff.mp compiled
  have atFront := List.forall₂_take_append whole.script.steps front back implements
  have atBack := List.forall₂_drop_append whole.script.steps front back implements
  refine ⟨⟨whole.moduleName, whole.segment, .ofNames (front.map Definition.name),
    ⟨Script.distinct (front.map Definition.name), whole.script.steps.take front.length⟩, whole.builtins⟩, _,
    create_eq_ok_iff.mpr ?_,
    (List.take_append_drop front.length whole.script.steps).symm, atBack⟩
  refine ⟨Script.compile_eq_ok_iff.mpr ⟨atFront, fun rejected => ?_, rfl⟩, rfl, builtins, moduleName, segment⟩
  have apart := fresh rejected
  rw [List.map_append] at apart
  exact (List.nodup_append.mp apart).1

theorem frontView_allows (created : create ⟨title, front⟩ settings = .ok part)
    (clear : ∀ d ∈ front, ∀ body, compileBody d.name d.operation = .ok body → body.KeepsClear front back) :
    ∀ step ∈ part.script.steps, ∀ m ∈ step.body.mentions, (frontView front back).Allows m := by
  intro step member
  obtain ⟨d, among, implements⟩ := definition_of_implements (Script.compile_implements (create_ok created).1) member
  exact (clear d among step.body implements.body).allows

/-- Before the first step, what differs is only which names of the definitions behind are there. -/
theorem frontView_same (created : create ⟨title, front ++ back⟩ settings = .ok whole)
    (createdFront : create ⟨title, front⟩ settings = .ok part) (state : State) :
    (frontView front back).Same (part.initial state) (whole.initial state) where
  scopes := rfl
  builtins := (create_ok created).2.2.1.trans (create_ok createdFront).2.2.1.symm
  siblings name seen := by
    simp only [initial_siblings_find? created, initial_siblings_find? createdFront, List.map_append, List.mem_append,
      or_iff_left_of_imp seen]
  results name seen := by
    have known : name ∈ front.map Definition.name := seen
    simp only [initial_results_find? created, initial_results_find? createdFront, List.map_append, List.mem_append,
      known, true_or]
  state _ _ := rfl
  report := False.elim
  wholeState _ := rfl

theorem calculation_of_same (created : create ⟨title, front ++ back⟩ settings = .ok whole)
    (createdFront : create ⟨title, front⟩ settings = .ok part) {state : State} {name : String}
    (known : name ∈ front.map Definition.name) {env wholeEnv : Environment}
    (same : (frontView front back).Same env wholeEnv)
    (atPart : (part.script.run (part.initial state)).results.find? name = env.results.find? name)
    (atWhole : (whole.script.run (whole.initial state)).results.find? name = wholeEnv.results.find? name) :
    ∃ v, (part.evaluate state).calculation? name = some v ∧ (whole.evaluate state).calculation? name = some v := by
  obtain ⟨v, found⟩ := exists_calculation createdFront state known
  refine ⟨v, found, ?_⟩
  rw [evaluate_calculation? createdFront, atPart] at found
  rw [evaluate_calculation? created, atWhole, same.results name known, found]

/-- Definitions that are put behind others leave these alone, as long as these keep clear of the names that come new
with them and of `_global`. A name shows the value that it shows without them, unless it is defined anew: no step behind
bears it, so that its result stays what it is at the end of the front. If a step fails without them, that step is the
one that fails with them, with the same error, and then all names show what they show without them. -/
theorem evaluate_append (created : create ⟨title, front ++ back⟩ settings = .ok whole)
    (clear : ∀ d ∈ front, ∀ body, compileBody d.name d.operation = .ok body → body.KeepsClear front back)
    (state : State) :
    ∃ part, create ⟨title, front⟩ settings = .ok part ∧
      (∀ name ∈ front.map Definition.name, name ∉ back.map Definition.name →
        ∃ v, (part.evaluate state).calculation? name = some v ∧
          (whole.evaluate state).calculation? name = some v) ∧
      ∀ values env e, Script.Reach part.script.steps (part.initial state) values env →
        Script.Ends part.script.steps values env (some e) →
        (∃ wholeEnv, Script.Reach whole.script.steps (whole.initial state) values wholeEnv ∧
          Script.Ends whole.script.steps values wholeEnv (some e)) ∧
        (whole.evaluate state).error = (part.evaluate state).error ∧
        ∀ name ∈ front.map Definition.name, ∃ v, (part.evaluate state).calculation? name = some v ∧
          (whole.evaluate state).calculation? name = some v := by
  obtain ⟨part, later, createdFront, split, behind⟩ := create_front created
  have may := frontView_allows createdFront clear
  have start := frontView_same created createdFront state
  refine ⟨part, createdFront, fun name known other => ?_, fun values env e reach ends => ?_⟩
  · obtain ⟨values, env, fault, reach, ends⟩ := Script.Reach.start.exists_end
    obtain ⟨wholeEnv, wholeReach, same⟩ := start.reach may reach
    refine calculation_of_same created createdFront known same
      (congrArg (·.find? name) (reach.runSteps_of_ends ends).1) ?_
    rw [Script.run, split]
    refine wholeReach.results_extend (same.ends may ends) fun step member => ?_
    rintro rfl
    obtain ⟨d, among, implements⟩ := definition_of_implements behind member
    exact other (implements.name ▸ List.mem_map_of_mem among)
  · obtain ⟨wholeEnv, wholeReach, same⟩ := start.reach may reach
    have extended : Script.Reach whole.script.steps (whole.initial state) values wholeEnv :=
      split ▸ wholeReach.extend
    have extendedEnds : Script.Ends whole.script.steps values wholeEnv (some e) :=
      split ▸ (same.ends may ends).extend
    refine ⟨⟨wholeEnv, extended, extendedEnds⟩, ?_, fun name known => ?_⟩
    · rw [evaluate_error created state extended extendedEnds, evaluate_error createdFront state reach ends]
    · exact calculation_of_same created createdFront known same
        (congrArg (·.find? name) (reach.runSteps_of_ends ends).1)
        (congrArg (·.find? name) (extended.runSteps_of_ends extendedEnds).1)

/-- Behind `a` and the failing `b` there are a new `a` and an `e`, of which `a` and `b` know nothing. -/
theorem evaluate_append_twice :
    ∃ whole, create ⟨"c", [⟨"a", "let t = d; return t;", .untyped⟩, ⟨"b", "throw a;", .string⟩] ++
        [⟨"a", "return e;", .untyped⟩, ⟨"e", "return 1;", .number⟩]⟩ Settings.default = .ok whole ∧
      ∃ part, create ⟨"c", [⟨"a", "let t = d; return t;", .untyped⟩, ⟨"b", "throw a;", .string⟩]⟩
          Settings.default = .ok part ∧
        ∃ v, (part.evaluate [("d", .bool true)]).calculation? "b" = some v ∧
          (whole.evaluate [("d", .bool true)]).calculation? "b" = some v := by
  refine exists_ok_and (by decide +kernel) fun whole created => ?_
  have clear : ∀ d ∈ [Definition.mk "a" "let t = d; return t;" .untyped, ⟨"b", "throw a;", .string⟩],
      ∀ body, compileBody d.name d.operation = .ok body →
        body.KeepsClear [⟨"a", "let t = d; return t;", .untyped⟩, ⟨"b", "throw a;", .string⟩]
          [⟨"a", "return e;", .untyped⟩, ⟨"e", "return 1;", .number⟩] := by
    intro d member body compiled
    have checked : (compileBody d.name d.operation).toOption.all (fun body => body.mentions.all fun m =>
        m = .read "d" || m = .read "t" || m = .read "a") = true := by
      clear compiled
      revert d
      decide +kernel
    simp only [compiled, Except.toOption, Option.all_some, List.all_eq_true, Bool.or_eq_true,
      decide_eq_true_eq] at checked
    rintro name (read | assigned)
    · rcases checked _ read with (same | same) | same <;> cases same <;> decide
    · rcases checked _ assigned with (same | same) | same <;> cases same
  obtain ⟨part, createdFront, shown, _⟩ := evaluate_append created clear [("d", .bool true)]
  exact ⟨part, createdFront, shown "b" (by decide) (by decide)⟩

end Calculator

end Reckoner
