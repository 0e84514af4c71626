import Reckoner.Proofs.EvaluationFrame
import Reckoner.Proofs.NameResolution

namespace Reckoner

/-- How a scope may have changed, where some names may have been added and some written anew. Only an
assignment changes any other binding, and it leaves constants alone. -/
structure ScopeChange (added written : String → Prop) (before after : Dict Binding) : Prop where
  kept (name : String) : before.contains name = true → after.contains name = true
  gained (name : String) : after.contains name = true → before.contains name = true ∨ added name
  constant (name : String) (v : Value) : before.find? name = some ⟨v, true⟩ → ¬ written name →
    after.find? name = some ⟨v, true⟩

namespace ScopeChange

variable {added written : String → Prop} {first second third : Dict Binding}

theorem refl (scope : Dict Binding) : ScopeChange added written scope scope where
  kept _ := id
  gained _ := Or.inl
  constant _ _ held _ := held

theorem trans (start : ScopeChange added written first second) (next : ScopeChange added written second third) :
    ScopeChange added written first third where
  kept name held := next.kept name (start.kept name held)
  gained name held := (next.gained name held).elim (start.gained name) Or.inr
  constant name v held spared := next.constant name v (start.constant name v held spared) spared

theorem mono {added' written' : String → Prop} (change : ScopeChange added written first second)
    (more : ∀ name, added name → added' name) (moreWritten : ∀ name, written name → written' name) :
    ScopeChange added' written' first second where
  kept := change.kept
  gained name held := (change.gained name held).imp_right (more name)
  constant name v held spared := change.constant name v held fun anew => spared (moreWritten name anew)

theorem enter {name : String} {scope : Dict Binding} (binding : Binding) (adds : added name)
    (writes : scope.contains name = true → written name) :
    ScopeChange added written scope (scope.insert name binding) where
  kept other held := by rw [Dict.contains_insert, held, Bool.or_true]
  gained other held := by
    rw [Dict.contains_insert, Bool.or_eq_true, beq_iff_eq] at held
    rcases held with rfl | old
    · exact Or.inr adds
    · exact Or.inl old
  constant other v held spared := by
    have distinct : other ≠ name := by
      rintro rfl
      exact spared (writes (by rw [Dict.contains, held]; rfl))
    rw [Dict.find?_insert, if_neg distinct, held]

theorem assign {name : String} {scope : Dict Binding} {binding : Binding} (held : scope.find? name = some binding)
    (mutable : binding.isConstant = false) (value : Value) :
    ScopeChange added written scope (scope.insert name ⟨value, false⟩) where
  kept other there := by rw [Dict.contains_insert, there, Bool.or_true]
  gained other there := by
    rw [Dict.contains_insert, Bool.or_eq_true, beq_iff_eq] at there
    refine Or.inl (there.elim (fun same => ?_) id)
    rw [same, Dict.contains, held]
    rfl
  constant other v there _ := by
    have distinct : other ≠ name := by
      rintro rfl
      rw [held] at there
      cases there
      cases mutable
    rw [Dict.find?_insert, if_neg distinct, there]

end ScopeChange

namespace Environment

theorem length_modifyOutermost (f : Dict Binding → Dict Binding) (scopes : List (Dict Binding)) :
    (modifyOutermost f scopes).length = scopes.length := by
  fun_induction modifyOutermost f scopes with
  | case1 | case2 => rfl
  | case3 scope rest _ ih => rw [List.length_cons, ih, List.length_cons]

theorem getElem?_modifyOutermost (f : Dict Binding → Dict Binding) (scopes : List (Dict Binding)) (i : Nat) :
    (modifyOutermost f scopes)[i]? =
      scopes[i]?.map fun scope => if i + 1 = scopes.length then f scope else scope := by
  fun_induction modifyOutermost f scopes generalizing i with
  | case1 => rfl
  | case2 scope => cases i <;> simp
  | case3 scope rest nonempty ih =>
    have positive : rest.length ≠ 0 := fun empty => nonempty (List.eq_nil_of_length_eq_zero empty)
    cases i with
    | zero =>
      have inner : ¬ 0 + 1 = (scope :: rest).length := by rw [List.length_cons]; omega
      rw [List.getElem?_cons_zero, List.getElem?_cons_zero, Option.map_some, if_neg inner]
    | succ i => simp [ih]

theorem getElem?_modifyInnermost (f : Dict Binding → Dict Binding) (scopes : List (Dict Binding)) (i : Nat) :
    (modifyInnermost f scopes)[i]? = scopes[i]?.map fun scope => if i = 0 then f scope else scope := by
  cases scopes with
  | nil => rfl
  | cons => cases i <;> simp [modifyInnermost]

theorem length_modifyInnermost (f : Dict Binding → Dict Binding) (scopes : List (Dict Binding)) :
    (modifyInnermost f scopes).length = scopes.length := by
  cases scopes <;> rfl

/-- Some of the declarators enter the name in the scope at a place, counted from the innermost of so
many scopes. -/
def EntersAt (direct hoisted : Declarator → Prop) (depth place : Nat) (name : String) : Prop :=
  ∃ d, d.name = name ∧ (place = 0 ∧ direct d ∨ place + 1 = depth ∧ hoisted d)

/-- A declaration writes the binding of its name anew, but a `var` without a value does not. -/
def WritesAt (direct hoisted : Declarator → Prop) (depth place : Nat) (name : String) : Prop :=
  EntersAt direct (fun d => hoisted d ∧ d.value.isSome = true) depth place name

/-- What statements with these declarators may make of an environment. -/
structure Evolves (direct hoisted : Declarator → Prop) (env after : Environment) : Prop where
  report : env.SameReport after
  siblings (name : String) : after.siblings.contains name = env.siblings.contains name
  state (name : String) : after.state.contains name = env.state.contains name
  depth : after.scopes.length = env.scopes.length
  scope (place : Nat) (before now : Dict Binding) : env.scopes[place]? = some before →
    after.scopes[place]? = some now →
    ScopeChange (EntersAt direct hoisted env.scopes.length place) (WritesAt direct hoisted env.scopes.length place)
      before now

namespace Evolves

variable {direct hoisted inner : Declarator → Prop} {env after first second third : Environment}

theorem refl (env : Environment) : Evolves direct hoisted env env where
  report := ⟨rfl, rfl, rfl⟩
  siblings _ := rfl
  state _ := rfl
  depth := rfl
  scope place before now there here := by
    cases there.symm.trans here
    exact .refl before

theorem trans (start : Evolves direct hoisted first second) (next : Evolves direct hoisted second third) :
    Evolves direct hoisted first third where
  report := start.report.trans next.report
  siblings name := (next.siblings name).trans (start.siblings name)
  state name := (next.state name).trans (start.state name)
  depth := next.depth.trans start.depth
  scope place before now there here := by
    obtain ⟨bound, _⟩ := List.getElem?_eq_some_iff.mp there
    obtain ⟨middle, between⟩ : ∃ middle, second.scopes[place]? = some middle :=
      ⟨_, List.getElem?_eq_getElem (start.depth ▸ bound)⟩
    have later := next.scope place middle now between here
    rw [start.depth] at later
    exact (start.scope place before middle there between).trans later

theorem assign {name : String} {value : Value} (assigned : env.assign name value = .ok after) :
    Evolves direct hoisted env after := by
  have report := sameReport_assign assigned
  rcases assign_cases assigned with ⟨skipped, scope, outer, binding, split, _, held, mutable, rfl⟩ |
    ⟨_, sibling, rfl⟩ | ⟨_, _, inState, rfl⟩
  · refine ⟨report, fun _ => rfl, fun _ => rfl, by simp [split], fun place before now there here => ?_⟩
    simp only [split] at there
    rcases Nat.lt_trichotomy place skipped.length with front | rfl | behind
    · rw [List.getElem?_append_left front] at there here
      cases there.symm.trans here
      exact .refl before
    · rw [List.getElem?_append_right (Nat.le_refl _), Nat.sub_self, List.getElem?_cons_zero] at there here
      cases there
      cases here
      exact .assign held mutable value
    · rw [List.getElem?_append_right (Nat.le_of_lt behind)] at there here
      obtain ⟨k, past⟩ : ∃ k, place - skipped.length = k + 1 := ⟨place - skipped.length - 1, by omega⟩
      rw [past, List.getElem?_cons_succ] at there here
      cases there.symm.trans here
      exact .refl before
  · refine ⟨report, fun other => ?_, fun _ => rfl, rfl, (refl env).scope⟩
    rw [Dict.contains_insert]
    by_cases same : other = name
    · simp [same, sibling]
    · simp [same]
  · refine ⟨report, fun _ => rfl, fun other => ?_, rfl, (refl env).scope⟩
    rw [Dict.contains_insert]
    by_cases same : other = name
    · simp [same, inState]
    · simp [same]

/-- One and the same change to all scopes at some places. -/
theorem changeScopes {scopes : List (Dict Binding)} {f : Dict Binding → Dict Binding} {target : Nat → Prop}
    [DecidablePred target] (length : scopes.length = env.scopes.length)
    (changed : ∀ place, scopes[place]? = env.scopes[place]?.map fun scope => if target place then f scope else scope)
    (change : ∀ place scope, target place → ScopeChange (EntersAt direct hoisted env.scopes.length place)
      (WritesAt direct hoisted env.scopes.length place) scope (f scope)) :
    Evolves direct hoisted env { env with scopes } := by
  refine ⟨⟨rfl, rfl, rfl⟩, fun _ => rfl, fun _ => rfl, length, fun place before now there here => ?_⟩
  simp only [changed, there, Option.map_some, Option.some.injEq] at here
  subst here
  split
  · rename_i atTarget
    exact change place before atTarget
  · exact .refl before

theorem declare {kind : DeclarationKind} {d : Declarator} {value : Option Value} (env : Environment)
    (allowed : kind.entering direct hoisted d) (given : value.isSome = d.value.isSome) :
    Evolves direct hoisted env (env.declare kind d.name value) := by
  have block (constant : Bool) (atDirect : direct d) (place : Nat) (scope : Dict Binding) (innermost : place = 0) :
      ScopeChange (EntersAt direct hoisted env.scopes.length place)
        (WritesAt direct hoisted env.scopes.length place) scope
        (scope.insert d.name ⟨value.getD .undefined, constant⟩) :=
    .enter _ ⟨d, rfl, Or.inl ⟨innermost, atDirect⟩⟩ fun _ => ⟨d, rfl, Or.inl ⟨innermost, atDirect⟩⟩
  cases kind with
  | letK => exact changeScopes (length_modifyInnermost _ _) (getElem?_modifyInnermost _ _) (block false allowed)
  | constK => exact changeScopes (length_modifyInnermost _ _) (getElem?_modifyInnermost _ _) (block true allowed)
  | varK =>
    refine changeScopes (length_modifyOutermost _ _) (getElem?_modifyOutermost _ _) fun place scope outermost => ?_
    split
    · exact .refl scope
    · rename_i anew
      refine .enter _ ⟨d, rfl, Or.inr ⟨outermost, allowed⟩⟩ fun present => ?_
      have valued : d.value.isSome = true := by
        rw [present, Bool.and_true, Option.isNone_iff_eq_none] at anew
        rw [← given]
        exact Option.isSome_iff_ne_none.mpr anew
      exact ⟨d, rfl, Or.inr ⟨outermost, allowed, valued⟩⟩

/-- Behind a block its scope is gone, and with it all that was declared directly in the block. -/
theorem leaveBlock (evolved : Evolves inner hoisted env.pushScope after) (opened : env.scopes ≠ []) :
    Evolves direct hoisted env after.popScope := by
  obtain ⟨report, siblings, state, depth, scope⟩ := evolved
  have positive : 0 < env.scopes.length := List.length_pos_iff.mpr opened
  have pushed : env.pushScope.scopes = [] :: env.scopes := rfl
  rw [pushed, List.length_cons] at depth
  obtain ⟨top, below, rest, shape⟩ : ∃ top below rest, after.scopes = top :: below :: rest := by
    match shape : after.scopes with
    | [] | [_] => simp only [shape, List.length_cons, List.length_nil] at depth; omega
    | top :: below :: rest => exact ⟨top, below, rest, rfl⟩
  have popped : after.popScope = { after with scopes := below :: rest } := by
    unfold popScope
    rw [shape]
  rw [popped]
  refine ⟨report, siblings, state, ?_, fun place before now there here => ?_⟩
  · rw [shape] at depth
    simpa using depth
  · have change := scope (place + 1) before now (by rw [pushed, List.getElem?_cons_succ, there])
      (by rw [shape, List.getElem?_cons_succ]; exact here)
    rw [pushed, List.length_cons] at change
    have outwards (outer : Declarator → Prop) (name : String)
        (entered : EntersAt inner outer (env.scopes.length + 1) (place + 1) name) :
        EntersAt direct outer env.scopes.length place name := by
      obtain ⟨d, named, (⟨innermost, _⟩ | ⟨outermost, atHoisted⟩)⟩ := entered
      · exact absurd innermost (Nat.succ_ne_zero place)
      · exact ⟨d, named, Or.inr ⟨by omega, atHoisted⟩⟩
    exact change.mono (outwards _) (outwards _)

/-- Without any scope a block would leave its own one behind, so there has to be one. -/
theorem frame : DeclarationFrame fun direct hoisted env after =>
    env.scopes ≠ [] → Evolves direct hoisted env after where
  expression direct hoisted :=
    { refl := fun env _ => refl env
      trans := fun start next opened => by
        have first := start opened
        refine first.trans (next fun empty => opened ?_)
        rw [← List.length_eq_zero_iff, ← first.depth, empty, List.length_nil]
      assign := fun assigned _ => assign assigned }
  declare env allowed given _ := declare env allowed given
  scope evolved opened := (evolved (List.cons_ne_nil _ _)).leaveBlock opened

end Evolves

end Environment

namespace Stmt

variable {env : Environment}

theorem run_evolves (s : Stmt) (opened : env.scopes ≠ []) :
    env.Evolves (· ∈ s.direct) (· ∈ s.hoisted) (s.run env).2 :=
  run_within_declared Environment.Evolves.frame s _ _ (fun _ => id) (fun _ => id) env opened

theorem runAll_evolves (body : List Stmt) (last : Completion) (opened : env.scopes ≠ []) :
    env.Evolves (· ∈ directAll body) (· ∈ hoistedAll body) (runAll last body env).2 :=
  runAll_within_declared Environment.Evolves.frame body last _ _ (fun _ => id) (fun _ => id) env opened

/-- However a statement ends, it leaves as many scopes as it found and no other trace outside of the
values: the report is out of its reach, the siblings and the state keep their names, and scopes only
gain names, the innermost one those of its own declarations, the outermost one those declared by `var`,
the others none. A calculation, which opens a scope of its own, therefore does not depend on the scopes
around it and leaves none. -/
theorem run_scopes :
    (∀ (s : Stmt) (env : Environment), env.scopes ≠ [] →
      (s.run env).2.scopes.length = env.scopes.length ∧ env.SameReport (s.run env).2 ∧
      (∀ name, (s.run env).2.siblings.contains name = env.siblings.contains name) ∧
      (∀ name, (s.run env).2.state.contains name = env.state.contains name) ∧
      ∀ (place : Nat) (before now : Dict Binding), env.scopes[place]? = some before →
        (s.run env).2.scopes[place]? = some now →
        (∀ name, before.contains name = true → now.contains name = true) ∧
        ∀ name, now.contains name = true → before.contains name = true ∨
          (place = 0 ∧ ∃ d ∈ s.direct, d.name = name) ∨
          (place + 1 = env.scopes.length ∧ ∃ d ∈ s.hoisted, d.name = name)) ∧
    ∀ (body : Body) (env : Environment),
      (∀ scopes, body.run { env with scopes } = body.run env) ∧ (body.run env).2.scopes = [] := by
  refine ⟨fun s env opened => ?_, fun body env => ⟨fun scopes => rfl, rfl⟩⟩
  have evolved := s.run_evolves opened
  refine ⟨evolved.depth, evolved.report, evolved.siblings, evolved.state, fun place before now there here => ?_⟩
  have change := evolved.scope place before now there here
  refine ⟨change.kept, fun name held => (change.gained name held).imp_right ?_⟩
  rintro ⟨d, named, (⟨innermost, atDirect⟩ | ⟨outermost, atHoisted⟩)⟩
  · exact Or.inl ⟨innermost, d, atDirect, named⟩
  · exact Or.inr ⟨outermost, d, atHoisted, named⟩

/-- A block that declares in its own and in the outermost scope and then fails, two scopes deep. The scope
around the block gains nothing. -/
theorem run_scopes_failing :
    ∃ (s : Stmt) (env : Environment),
      env = ((Template.ofNames ["a"]).instantiate ["a"] [] false).enter.pushScope ∧
      s = .block [.declare .letK [⟨"t", none⟩], .declare .varK [⟨"u", some (.name "a")⟩], .throw (.name "t")] ∧
      env.scopes ≠ [] ∧ (s.run env).1.isOk = false ∧ (s.run env).2.scopes.length = env.scopes.length ∧
      ∀ now, (s.run env).2.scopes[0]? = some now → ∀ name, now.contains name = false := by
  refine ⟨_, _, rfl, rfl, List.cons_ne_nil _ _, by decide +kernel, ?_⟩
  obtain ⟨depth, _, _, _, scopes⟩ := run_scopes.1
    (.block [.declare .letK [⟨"t", none⟩], .declare .varK [⟨"u", some (.name "a")⟩], .throw (.name "t")])
    ((Template.ofNames ["a"]).instantiate ["a"] [] false).enter.pushScope (List.cons_ne_nil _ _)
  refine ⟨depth, fun now here name => Bool.eq_false_iff.mpr fun held => ?_⟩
  rcases (scopes 0 [] now rfl here).2 name held with old | ⟨_, d, direct, _⟩ | ⟨outermost, _⟩
  · exact absurd old Bool.false_ne_true
  · exact absurd direct List.not_mem_nil
  · exact absurd outermost (by decide)

/-- A constant declaration puts a constant binding into the innermost scope. A constant binding, in
whatever scope it is, keeps its value and stays constant whatever statements run, unless they declare
its name once more for the same scope; a `var` without a value does no harm. As environment and
statements are arbitrary, this holds at every point of a run, also inside of blocks. -/
theorem constant_kept (env : Environment) (name : String) :
    (∀ value : Option Value, env.scopes ≠ [] →
      ∃ scope, (env.declare .constK name value).scopes[0]? = some scope ∧
        scope.find? name = some ⟨value.getD .undefined, true⟩) ∧
    ∀ (body : List Stmt) (last : Completion) (place : Nat) (before : Dict Binding) (v : Value),
      env.scopes[place]? = some before → before.find? name = some ⟨v, true⟩ →
      (place = 0 → ∀ d ∈ directAll body, d.name ≠ name) →
      (place + 1 = env.scopes.length → ∀ d ∈ hoistedAll body, d.name = name → d.value = none) →
      ∃ now, (runAll last body env).2.scopes[place]? = some now ∧ now.find? name = some ⟨v, true⟩ := by
  refine ⟨fun value opened => ?_, ?_⟩
  · obtain ⟨scope, rest, shape⟩ := List.exists_cons_of_ne_nil opened
    refine ⟨scope.insert name ⟨value.getD .undefined, true⟩, ?_, ?_⟩
    · simp [Environment.declare, shape, Environment.modifyInnermost]
    · rw [Dict.find?_insert, if_pos rfl]
  · intro body last place before v there constant noDirect noHoisted
    obtain ⟨bound, _⟩ := List.getElem?_eq_some_iff.mp there
    have evolved := runAll_evolves body last (List.ne_nil_of_length_pos (Nat.zero_lt_of_lt bound))
    obtain ⟨now, here⟩ : ∃ now, (runAll last body env).2.scopes[place]? = some now :=
      ⟨_, List.getElem?_eq_getElem (evolved.depth ▸ bound)⟩
    refine ⟨now, here, (evolved.scope place before now there here).constant name v constant ?_⟩
    rintro ⟨d, named, (⟨innermost, atDirect⟩ | ⟨outermost, atHoisted, valued⟩)⟩
    · exact noDirect innermost d atDirect named
    · rw [noHoisted outermost d atHoisted named] at valued
      cases valued

/-- A constant of the outermost scope outlives a local name of a block that hides it, an assignment to
that, a `var` of its own name and the attempt to assign it. -/
theorem constant_kept_hidden :
    ∃ (body : List Stmt) (env : Environment) (before : Dict Binding),
      env = ((Template.ofNames []).instantiate [] [] true).enter.declare .constK "x" (some .null) ∧
      body = [.block [.declare .letK [⟨"x", none⟩], .expression (.assign "x" .assign .this)],
        .declare .varK [⟨"x", none⟩], .expression (.assign "x" .add .this)] ∧
      env.scopes[0]? = some before ∧ before.find? "x" = some ⟨.null, true⟩ ∧
      (runAll (.value .undefined) body env).1.isOk = false ∧
      ∃ now, (runAll (.value .undefined) body env).2.scopes[0]? = some now ∧
        now.find? "x" = some ⟨.null, true⟩ := by
  refine ⟨_, _, _, rfl, rfl, rfl, rfl, by decide +kernel, ?_⟩
  refine (constant_kept _ "x").2 _ _ 0 _ .null rfl rfl (fun _ d member => ?_) fun _ d member _ => ?_
  · exact absurd member List.not_mem_nil
  · cases List.mem_singleton.mp member
    rfl

/-- A second declaration in the same scope replaces a constant, and so does a `var` of a block in the
outermost scope. -/
theorem constant_redeclared :
    (runAll (.value .undefined) [.declare .constK [⟨"x", some (.literal (.bool true))⟩],
      .declare .letK [⟨"x", some (.literal (.bool false))⟩]]
      ((Template.ofNames []).instantiate [] [] true).enter).2.scopes = [[("x", ⟨.bool false, false⟩)]] ∧
    (runAll (.value .undefined) [.declare .constK [⟨"x", some (.literal (.bool true))⟩],
      .block [.declare .varK [⟨"x", some (.literal (.bool false))⟩]]]
      ((Template.ofNames []).instantiate [] [] true).enter).2.scopes = [[("x", ⟨.bool false, false⟩)]] :=
  ⟨rfl, rfl⟩

end Stmt

end Reckoner
