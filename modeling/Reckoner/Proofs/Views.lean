import Reckoner.Proofs.ScriptRun

namespace Reckoner

/-- A part of what environments hold: siblings, results and entries of the state by their names, and perhaps
the report or the state as a whole. -/
structure View where
  siblings : String → Prop
  results : String → Prop
  state : String → Prop
  report : Prop
  wholeState : Prop

namespace View

variable {view : View} {env other : Environment}

/-- Two environments hold the same in a part. The scopes and the choice of built-ins are in every part. -/
structure Same (view : View) (env other : Environment) : Prop where
  scopes : other.scopes = env.scopes
  builtins : other.builtins = env.builtins
  siblings (name : String) : view.siblings name → other.siblings.find? name = env.siblings.find? name
  results (name : String) : view.results name → other.results.find? name = env.results.find? name
  state (name : String) : view.state name → other.state.find? name = env.state.find? name
  report : view.report → other.results = env.results ∧ other.error = env.error
  wholeState : view.wholeState → other.state = env.state

/-- The mentions for which a part is enough. Behind `_global` is the report, and behind a computed property of
`this` there may be any entry of the state. -/
def Allows (view : View) : Mention → Prop
  | .read name => view.siblings name ∧ view.state name ∧ (name = Environment.globalName → view.report)
  | .assigned name => view.siblings name ∧ view.state name
  | .property name => view.state name
  | .this => view.wholeState

namespace Same

theorem setScopes (same : view.Same env other) (scopes : List (Dict Binding)) :
    view.Same { env with scopes } { other with scopes } :=
  { same with scopes := rfl }

theorem setSibling (same : view.Same env other) (name : String) (value : Value) :
    view.Same (env.setSibling name value) (other.setSibling name value) where
  scopes := same.scopes
  builtins := same.builtins
  siblings key seen := by
    simp only [Environment.setSibling, Dict.find?_insert, same.siblings key seen]
  results := same.results
  state := same.state
  report := same.report
  wholeState := same.wholeState

theorem setResult (same : view.Same env other) (name : String) (value : Value) :
    view.Same (env.setResult name value) (other.setResult name value) where
  scopes := same.scopes
  builtins := same.builtins
  siblings := same.siblings
  results key seen := by
    simp only [Environment.setResult, Dict.find?_insert, same.results key seen]
  state := same.state
  report seen := ⟨congrArg (Dict.insert name value) (same.report seen).1, (same.report seen).2⟩
  wholeState := same.wholeState

theorem setState (same : view.Same env other) (name : String) (value : Value) :
    view.Same { env with state := env.state.insert name value }
      { other with state := other.state.insert name value } where
  scopes := same.scopes
  builtins := same.builtins
  siblings := same.siblings
  results := same.results
  state key seen := by simp only [Dict.find?_insert, same.state key seen]
  report := same.report
  wholeState seen := congrArg (Dict.insert name value) (same.wholeState seen)

theorem global? (same : view.Same env other) {name : String}
    (found : other.state.find? name = env.state.find? name) : other.global? name = env.global? name := by
  unfold Environment.global?
  rw [found, same.builtins]

theorem lookup? (same : view.Same env other) {name : String} (may : view.Allows (.read name)) :
    other.lookup? name = env.lookup? name := by
  obtain ⟨among, known, reported⟩ := may
  unfold Environment.lookup? Environment.local?
  rw [same.scopes, same.siblings name among, same.global? (same.state name known)]
  by_cases global : name = Environment.globalName
  · obtain ⟨results, error⟩ := same.report (reported global)
    simp only [Environment.globalValue, results, error]
  · simp only [if_neg global]

/-- An assignment does the same in both environments, or fails in both with the same error. -/
theorem assign (same : view.Same env other) {name : String} (may : view.Allows (.assigned name)) (value : Value) :
    (∃ after otherAfter, env.assign name value = .ok after ∧ other.assign name value = .ok otherAfter ∧
      view.Same after otherAfter) ∨
    ∃ e, env.assign name value = .error e ∧ other.assign name value = .error e := by
  have among : other.siblings.contains name = env.siblings.contains name := by
    rw [Dict.contains, Dict.contains, same.siblings name may.1]
  have known : other.state.contains name = env.state.contains name := by
    rw [Dict.contains, Dict.contains, same.state name may.2]
  obtain ⟨scopes, siblings, results, error, state, builtins⟩ := env
  obtain ⟨_, otherSiblings, otherResults, otherError, otherState, _⟩ := other
  cases same.scopes
  cases same.builtins
  unfold Environment.assign
  dsimp only at among known ⊢
  rw [among, known]
  cases Environment.assignLocal name value scopes with
  | some result =>
    cases result with
    | error e => exact Or.inr ⟨e, rfl, rfl⟩
    | ok changed => exact Or.inl ⟨_, _, rfl, rfl, same.setScopes changed⟩
  | none =>
    cases siblings.contains name with
    | true => exact Or.inl ⟨_, _, rfl, rfl, same.setSibling name value⟩
    | false =>
      cases state.contains name with
      | true => exact Or.inl ⟨_, _, rfl, rfl, same.setState name value⟩
      | false =>
        cases decide (name = Environment.globalName) || (builtins && globals.contains name) with
        | true | false => exact Or.inr ⟨_, rfl, rfl⟩

end Same

/-- What a part is enough for cannot tell two environments apart that are the same there. -/
theorem simulation (view : View) : Simulation view.Allows (fun _ => True) view.Same where
  read may same := ⟨same.lookup? may, fun _ _ => trivial⟩
  property {env other name} may same := by
    have found : other.state.find? name = env.state.find? name :=
      may.elim (same.state name) fun whole => congrArg (·.find? name) (same.wholeState whole)
    exact ⟨congrArg (·.getD .undefined) (same.global? found), trivial⟩
  this may same := ⟨congrArg Value.object (same.wholeState may), trivial⟩
  assign {name value} may _ env other same := by
    unfold Eval.assign
    rcases same.assign may value with ⟨after, otherAfter, here, there, still⟩ | ⟨e, here, there⟩
    · rw [here, there]
      exact ⟨rfl, still, fun _ _ => trivial⟩
    · rw [here, there]
      exact ⟨rfl, same, fun _ _ => trivial⟩
  declare {env other} kind name value _ same := by
    cases kind <;> simp only [Environment.declare, same.scopes] <;> exact same.setScopes _
  pushScope {env other} same := by
    simp only [Environment.pushScope, same.scopes]
    exact same.setScopes _
  popScope {env other} same := by
    unfold Environment.popScope
    rw [same.scopes]
    split
    · exact same.setScopes _
    · exact same
  exit same := same.setScopes []

theorem Same.run {body : Body} (may : ∀ m ∈ body.mentions, view.Allows m) (start : view.Same env.enter other.enter) :
    (body.run other).1 = (body.run env).1 ∧ view.Same (body.run env).2 (body.run other).2 := by
  obtain ⟨same, still, _⟩ := body.run_alike Value.hereditary_true view.simulation may start
  exact ⟨same, still⟩

variable {steps : List Step} {values : List Value} {initial otherInitial : Environment}

/-- Runs from environments that are the same in a part agree step by step, if the part is enough for what the
steps mention. -/
theorem Same.reach (may : ∀ step ∈ steps, ∀ m ∈ step.body.mentions, view.Allows m)
    (start : view.Same initial otherInitial) (reach : Script.Reach steps initial values env) :
    ∃ other, Script.Reach steps otherInitial values other ∧ view.Same env other := by
  induction reach with
  | start => exact ⟨otherInitial, .start, start⟩
  | @next values env step v after _ atStep ran ih =>
    obtain ⟨other, reached, same⟩ := ih
    obtain ⟨outcome, still⟩ := Same.run (may step (List.mem_of_getElem? atStep)) (same.setScopes [[]])
    rw [ran] at outcome still
    have again : step.body.run other = (.ok v, (step.body.run other).2) := Prod.ext outcome rfl
    exact ⟨_, reached.next atStep again,
      (still.setSibling step.name v).setResult step.name (step.type.coerce v)⟩

/-- Where one of two such runs comes to its end, so does the other, and if a step fails there, it fails with the
same error. -/
theorem Same.ends {fault : Option EvalError} (may : ∀ step ∈ steps, ∀ m ∈ step.body.mentions, view.Allows m)
    (same : view.Same env other) (ends : Script.Ends steps values env fault) :
    Script.Ends steps values other fault := by
  cases ends with
  | finished all => exact .finished all
  | @failed step e after atStep ran =>
    have outcome := (Same.run (may step (List.mem_of_getElem? atStep)) (same.setScopes [[]])).1
    rw [ran] at outcome
    have again : step.body.run other = (.error e, (step.body.run other).2) := Prod.ext outcome rfl
    exact .failed atStep again

end View

end Reckoner
