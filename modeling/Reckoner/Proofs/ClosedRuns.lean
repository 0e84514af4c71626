import Reckoner.Proofs.Applications
import Reckoner.Proofs.DataValues
import Reckoner.Proofs.NameResolution
import Reckoner.Proofs.Outcome
import Reckoner.Proofs.Tasks

namespace Reckoner

/-- The built-ins are switched off, and all values that the environment holds are data. -/
structure Environment.IsClosed (env : Environment) : Prop where
  builtins : env.builtins = false
  scopes : ∀ scope ∈ env.scopes, Dict.All (·.value.isData = true) scope
  siblings : env.siblings.All (·.isData = true)
  results : env.results.All (·.isData = true)
  state : Dict.All (·.isData = true) env.state

theorem Value.applied?_isData {receiver f : Value} (data : receiver.isData = true) {key : String}
    (found : receiver.applied? key = some f) : f.isData = true := by
  cases receiver <;> cases found <;> exact Value.property_isData data key

namespace Environment

variable {env : Environment} {P : Dict Binding → Prop} {f : Dict Binding → Dict Binding} {scopes : List (Dict Binding)}

theorem forall_modifyOutermost (all : ∀ scope ∈ scopes, P scope)
    (changed : ∀ scope, P scope → P (f scope)) : ∀ scope ∈ modifyOutermost f scopes, P scope := by
  induction scopes with
  | nil => exact all
  | cons scope rest ih =>
    obtain ⟨here, later⟩ := List.forall_mem_cons.mp all
    cases rest with
    | nil => exact List.forall_mem_singleton.mpr (changed scope here)
    | cons => exact List.forall_mem_cons.mpr ⟨here, ih later⟩

theorem forall_modifyInnermost (all : ∀ scope ∈ scopes, P scope)
    (changed : ∀ scope, P scope → P (f scope)) : ∀ scope ∈ modifyInnermost f scopes, P scope := by
  cases scopes with
  | nil => exact all
  | cons scope rest =>
    obtain ⟨here, later⟩ := List.forall_mem_cons.mp all
    exact List.forall_mem_cons.mpr ⟨changed scope here, later⟩

namespace IsClosed

theorem global? (closed : env.IsClosed) {name : String} {v : Value} (found : env.global? name = some v) :
    v.isData = true := by
  unfold Environment.global? at found
  rw [closed.builtins] at found
  split at found
  · rename_i inState
    cases found
    exact closed.state.find? inState
  · cases found

theorem thisProperty (closed : env.IsClosed) (name : String) : (env.thisProperty name).isData = true := by
  unfold Environment.thisProperty
  cases found : env.global? name with
  | none => rfl
  | some v => exact closed.global? found

theorem globalValue (closed : env.IsClosed) : env.globalValue.isData = true := by
  refine Value.isData_object.mpr (List.forall_mem_cons.mpr ⟨?_, List.forall_mem_singleton.mpr rfl⟩)
  exact Value.isData_object.mpr closed.results

theorem lookup? (closed : env.IsClosed) {name : String} {v : Value} (found : env.lookup? name = some v) :
    v.isData = true := by
  unfold Environment.lookup? at found
  split at found
  · rename_i binding declared
    cases found
    obtain ⟨scope, member, held⟩ := List.exists_of_findSome?_eq_some declared
    exact (closed.scopes scope member).find? held
  · split at found
    · rename_i sibling
      cases found
      exact closed.siblings.find? sibling
    · split at found
      · cases found
        exact closed.globalValue
      · exact closed.global? found

/-- Nothing in the course of a calculation opens a closed environment. -/
theorem invariant : Invariant (fun _ => True) (·.isData = true) IsClosed where
  read _ closed found := closed.lookup? found
  property _ closed := closed.thisProperty _
  this _ closed := Value.isData_object.mpr closed.state
  assign _ given closed assigned := by
    rcases assign_cases assigned with ⟨inner, scope, outer, binding, split, _, _, _, rfl⟩ | ⟨_, _, rfl⟩ |
      ⟨_, _, _, rfl⟩
    · refine { closed with scopes := ?_ }
      have scopes := closed.scopes
      rw [split] at scopes
      simp only [List.forall_mem_append, List.forall_mem_cons] at scopes ⊢
      exact ⟨scopes.1, scopes.2.1.insert _ given, scopes.2.2⟩
    · exact { closed with siblings := closed.siblings.insert _ given }
    · exact { closed with state := closed.state.insert _ given }
  declare kind name value given closed := by
    have entered : (value.getD .undefined).isData = true := by
      cases value with
      | none => rfl
      | some v => exact given v rfl
    cases kind with
    | letK | constK =>
      exact { closed with scopes := forall_modifyInnermost closed.scopes fun _ all => all.insert name entered }
    | varK =>
      refine { closed with scopes := forall_modifyOutermost closed.scopes fun scope all => ?_ }
      split
      · exact all
      · exact all.insert name entered
  pushScope closed := { closed with scopes := List.forall_mem_cons.mpr ⟨nofun, closed.scopes⟩ }
  popScope closed := by
    unfold Environment.popScope
    split
    · rename_i scopes
      have held := closed.scopes
      rw [scopes] at held
      exact { closed with scopes := (List.forall_mem_cons.mp held).2 }
    · exact closed
  exit closed := { closed with scopes := nofun }

theorem enter (closed : env.IsClosed) : env.enter.IsClosed :=
  { closed with scopes := List.forall_mem_singleton.mpr nofun }

theorem setSibling (closed : env.IsClosed) (name : String) {value : Value} (data : value.isData = true) :
    (env.setSibling name value).IsClosed :=
  { closed with siblings := closed.siblings.insert name data }

theorem setResult (closed : env.IsClosed) (name : String) {value : Value} (data : value.isData = true) :
    (env.setResult name value).IsClosed :=
  { closed with results := closed.results.insert name data }

theorem evaluated (closed : env.IsClosed) {e : Expr} {v : Value} {mid : Environment}
    (run : e.eval env = (.ok v, mid)) : mid.IsClosed ∧ v.isData = true := by
  obtain ⟨still, so⟩ := Task.evaluated_invariant Value.hereditary_isData invariant run closed
  exact ⟨still, so v rfl⟩

/-- A value that is applied is data, so that it is no function. -/
theorem applies (closed : env.IsClosed) {e : Expr} {f : Value} {args : List Value} (applies : e.Applies env f args) :
    f.isData = true := by
  cases applies with
  | ofThis => exact closed.thisProperty _
  | ofThisKey atKey _ => exact (closed.evaluated atKey).1.thisProperty _
  | ofMember _ atBase _ found | ofIndex _ atBase _ _ found =>
    exact Value.applied?_isData (closed.evaluated atBase).2 found
  | ofCallee _ _ atCallee _ | ofConstruct atCallee _ => exact (closed.evaluated atCallee).2

end IsClosed

end Environment

/-- What an expression does in an environment without any built-in: its value is data, it applies no function,
`new` fails, and a call can only succeed with a method of data. -/
structure Expr.IsClosedAt (e : Expr) (env : Environment) : Prop where
  value (v : Value) : (e.eval env).1 = .ok v → v.isData = true
  applies (builtin : Builtin) (args : List Value) : ¬ e.Applies env (.function builtin) args
  construct (callee : Expr) (args : List Expr) : e = .construct callee args → ∃ err, (e.eval env).1 = .error err
  call (callee : Expr) (args : List Expr) (v : Value) : e = .call callee args → (e.eval env).1 = .ok v →
    ∃ (receiver : Value) (key : String) (values : List Value), receiver.isData = true ∧
      receiver.callMethod key values = some (.ok v)

theorem Expr.isClosedAt (e : Expr) {env : Environment} (closed : env.IsClosed) : e.IsClosedAt env where
  value v given := (closed.evaluated (Prod.ext given rfl)).2
  applies builtin args applies := nomatch closed.applies applies
  construct := by
    rintro callee args rfl
    cases outcome : ((Expr.construct callee args).eval env).1 with
    | error err => exact ⟨err, rfl⟩
    | ok v =>
      obtain ⟨f, values, applies, made⟩ := construct_eq_ok (Prod.ext outcome rfl)
      rw [Value.constructAs_of_isData (closed.applies applies)] at made
      cases made
  call := by
    rintro callee args v rfl given
    rcases call_eq_ok (Prod.ext given rfl) with ⟨f, values, applies, called⟩ |
      ⟨_, receiver, _, key, values, run, called⟩
    · rw [Value.callAs_of_isData (closed.applies applies)] at called
      cases called
    · exact ⟨receiver, key, values, (closed.evaluated run).2, called⟩

/-- A task, carried out from an environment, finds it closed and leaves it closed, and if it is an expression it
does without built-ins. -/
structure Task.IsClosedAt (task : Task) (env : Environment) : Prop where
  before : env.IsClosed
  after : (task.after env).IsClosed
  expression (e : Expr) : task = .expression e → e.IsClosedAt env

theorem Task.isClosedAt (task : Task) {env : Environment} (closed : env.IsClosed) : task.IsClosedAt env where
  before := closed
  after := task.after_invariant Value.hereditary_isData Environment.IsClosed.invariant closed
  expression e _ := e.isClosedAt closed

namespace Script

variable {steps : List Step} {initial env : Environment} {values : List Value}

theorem isClosed_of_run {step : Step} {outcome : Except EvalError Value} {after : Environment} (closed : env.IsClosed)
    (run : step.body.run env = (outcome, after)) : after.IsClosed ∧ ∀ v, outcome = .ok v → v.isData = true := by
  have ran := step.body.run_invariant Value.hereditary_isData Environment.IsClosed.invariant (fun _ _ => trivial)
    closed.enter
  rw [run] at ran
  exact ran

theorem Reach.isClosed (reach : Reach steps initial values env) (closed : initial.IsClosed) : env.IsClosed := by
  induction reach with
  | start => exact closed
  | @next values env step v after _ _ run ih =>
    obtain ⟨still, so⟩ := isClosed_of_run ih run
    exact (still.setSibling step.name (so v rfl)).setResult step.name (step.type.coerce_isData (so v rfl))

theorem runSteps_isClosed (closed : initial.IsClosed) : (runSteps steps initial).IsClosed := by
  have opening : Reach steps initial [] initial := .start
  obtain ⟨values, env, fault, reach, ends⟩ := opening.exists_end
  have atEnd := reach.isClosed closed
  cases ends with
  | finished all =>
    rw [reach.runSteps_finished all]
    exact atEnd
  | failed atStep run =>
    rw [reach.runSteps_failed atStep run]
    exact { (isClosed_of_run atEnd run).1 with }

end Script

namespace Calculator

variable {configuration : Configuration} {settings : Settings} {c : Calculator}

theorem initial_isClosed (created : create configuration settings = .ok c) (disabled : settings.builtins = false)
    {state : State} (data : Dict.All (·.isData = true) state) : (c.initial state).IsClosed where
  builtins := (create_ok created).2.2.1.trans disabled
  scopes := nofun
  siblings entry member := by
    obtain ⟨name, _, same⟩ := List.mem_map.mp (Dict.mem_ofList member)
    exact same ▸ rfl
  results entry member := by
    rw [initial_results created] at member
    obtain ⟨name, _, same⟩ := List.mem_map.mp (Dict.mem_ofList member)
    exact same ▸ rfl
  state := data

/-- Without built-ins a run on data stays among data: before every step, in all that is carried out in the
course of the steps, and in the record. What is carried out takes in, with an expression, every part that
its evaluation comes to. -/
theorem evaluate_closed (created : create configuration settings = .ok c) (disabled : settings.builtins = false)
    {state : State} (data : Dict.All (·.isData = true) state) :
    (∀ values env, Script.Reach c.script.steps (c.initial state) values env → env.IsClosed ∧
      ∀ step task mid, c.script.steps[values.length]? = some step →
        (Task.statements step.body).Performs env.enter task mid → task.IsClosedAt mid ∧
          ∀ e, task = .expression e → ∃ evaluated, e.course.Runs mid evaluated (e.eval mid) ∧
            ∀ part ∈ evaluated, ∃ last, (Task.statements step.body).Performs env.enter (.expression part) last) ∧
    (c.script.run (c.initial state)).IsClosed ∧ (c.evaluate state).calculations.isData = true ∧
    ∀ document fields, Value.ofJson document = .object fields → Dict.All (·.isData = true) fields := by
  have start := initial_isClosed created disabled data
  have closed : (c.script.run (c.initial state)).IsClosed := Script.runSteps_isClosed start
  refine ⟨fun values env reach => ⟨reach.isClosed start, fun step task mid _ performs => ?_⟩, closed, ?_, ?_⟩
  · refine ⟨task.isClosedAt (performs.invariant Value.hereditary_isData Environment.IsClosed.invariant
      (reach.isClosed start).enter), ?_⟩
    rintro e rfl
    exact performs.parts
  · obtain ⟨values, so⟩ := run_resultsAfter created state
    have nested : (c.evaluate state).calculations = _ := unflatten_results created so
    rw [nested]
    exact Value.isData_object.mpr closed.results
  · intro document fields read
    exact Value.isData_object.mp (read ▸ Value.ofJson_isData document)

/-- The second step calls a method and makes an array of a view of the results, and the third one fails at its
`new`, whatever the name `Date` may stand for. -/
theorem evaluate_closed_new :
    ∃ c, create ⟨"c", [⟨"a", "return this.b;", .untyped⟩, ⟨"d", "return [_global, a.trim()];", .untyped⟩,
        ⟨"e", "return new Date(0);", .date⟩]⟩ ⟨"m", false, false⟩ = .ok c ∧
      (c.script.run (c.initial [("b", .string " f ")])).IsClosed ∧
      (c.evaluate [("b", .string " f ")]).calculations.isData = true := by
  refine exists_ok_and (by decide +kernel) fun c created => ?_
  have data : Dict.All (·.isData = true) [("b", Value.string " f ")] := List.forall_mem_singleton.mpr rfl
  obtain ⟨_, closed, record, _⟩ := evaluate_closed created rfl data
  exact ⟨closed, record⟩

end Calculator

end Reckoner
