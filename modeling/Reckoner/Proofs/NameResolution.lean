import Reckoner.Evaluation.Basic
import Reckoner.Proofs.Dictionary

namespace Reckoner.Environment

variable {env after : Environment} {name : String} {value : Value}

theorem assignLocal_eq_none_iff {scopes : List (Dict Binding)} :
    assignLocal name value scopes = none ↔ scopes.findSome? (·.find? name) = none := by
  induction scopes with
  | nil => simp [assignLocal]
  | cons scope rest ih =>
    cases found : scope.find? name with
    | none => simp [assignLocal, found, ih]
    | some binding =>
      simp only [assignLocal, found, List.findSome?_cons]
      split <;> simp

/-- An assignment among the scopes replaces one binding, in the innermost scope that has the name, and
this binding is no constant. -/
theorem assignLocal_ok {scopes changed : List (Dict Binding)}
    (assigned : assignLocal name value scopes = some (.ok changed)) :
    ∃ inner scope outer binding, scopes = inner ++ scope :: outer ∧
      (∀ skipped ∈ inner, skipped.find? name = none) ∧
      scope.find? name = some binding ∧ binding.isConstant = false ∧
      changed = inner ++ scope.insert name ⟨value, false⟩ :: outer := by
  induction scopes generalizing changed with
  | nil => simp [assignLocal] at assigned
  | cons scope rest ih =>
    cases found : scope.find? name with
    | none =>
      simp only [assignLocal, found, Option.map_eq_some_iff] at assigned
      obtain ⟨result, further, shape⟩ := assigned
      cases result with
      | error => simp [Except.map] at shape
      | ok rest' =>
        obtain ⟨inner, holder, outer, binding, split, skipped, held, mutable, there⟩ := ih further
        cases shape
        refine ⟨scope :: inner, holder, outer, binding, by rw [split]; rfl, ?_, held, mutable, by rw [there]; rfl⟩
        intro passed member
        rcases List.mem_cons.mp member with here | later
        · exact here ▸ found
        · exact skipped passed later
    | some binding =>
      simp only [assignLocal, found] at assigned
      split at assigned
      · simp at assigned
      · rename_i mutable
        cases assigned
        exact ⟨[], scope, rest, binding, rfl, by simp, found, by simpa using mutable, rfl⟩

/-- All that a successful assignment can do: it sets the name in a scope, among the siblings or in the
state, in this order. -/
theorem assign_cases (assigned : env.assign name value = .ok after) :
    (∃ inner scope outer binding, env.scopes = inner ++ scope :: outer ∧
      (∀ skipped ∈ inner, skipped.find? name = none) ∧
      scope.find? name = some binding ∧ binding.isConstant = false ∧
      after = { env with scopes := inner ++ scope.insert name ⟨value, false⟩ :: outer }) ∨
    (env.local? name = none ∧ env.siblings.contains name = true ∧
      after = { env with siblings := env.siblings.insert name value }) ∨
    (env.local? name = none ∧ env.siblings.contains name = false ∧ env.state.contains name = true ∧
      after = { env with state := env.state.insert name value }) := by
  unfold assign at assigned
  split at assigned
  · rename_i result among
    cases result with
    | error => simp [Except.map] at assigned
    | ok changed =>
      cases assigned
      obtain ⟨inner, scope, outer, binding, split, skipped, held, mutable, there⟩ := assignLocal_ok among
      exact Or.inl ⟨inner, scope, outer, binding, split, skipped, held, mutable, by rw [there]⟩
  · rename_i nowhere
    have free := assignLocal_eq_none_iff.mp nowhere
    split at assigned
    · rename_i sibling
      cases assigned
      exact Or.inr (Or.inl ⟨free, sibling, rfl⟩)
    · rename_i noSibling
      split at assigned
      · rename_i inState
        cases assigned
        exact Or.inr (Or.inr ⟨free, by simpa using noSibling, inState, rfl⟩)
      · split at assigned <;> simp at assigned

/-- What a name means depends on what the places hold under this very name. -/
theorem lookup?_congr (locals : after.local? name = env.local? name)
    (siblings : after.siblings.find? name = env.siblings.find? name)
    (state : after.state.find? name = env.state.find? name) (report : after.globalValue = env.globalValue)
    (builtins : after.builtins = env.builtins) : after.lookup? name = env.lookup? name := by
  simp only [lookup?, global?, locals, siblings, state, report, builtins]

/-- The name is `_global`, and of the places that an assignment looks at only the state has it. There
an assignment sets it, but reading it stops before the state. -/
def WritesUnseen (env : Environment) (name : String) : Prop :=
  name = globalName ∧ env.local? name = none ∧ env.siblings.contains name = false ∧
    env.state.contains name = true

theorem lookup?_assign_self (assigned : env.assign name value = .ok after) (seen : ¬ env.WritesUnseen name) :
    after.lookup? name = some value := by
  rcases assign_cases assigned with ⟨inner, scope, outer, binding, _, skipped, _, _, rfl⟩ |
    ⟨free, _, rfl⟩ | ⟨free, noSibling, inState, rfl⟩
  · have passed : inner.findSome? (·.find? name) = none := by
      simpa [List.findSome?_eq_none_iff] using skipped
    simp [lookup?, local?, List.findSome?_append, passed, Dict.find?_insert]
  · have unchanged : Environment.local? { env with siblings := env.siblings.insert name value } name = none := free
    simp [lookup?, unchanged, Dict.find?_insert]
  · have unchanged : Environment.local? { env with state := env.state.insert name value } name = none := free
    have other : name ≠ globalName := fun same => seen ⟨same, free, noSibling, inState⟩
    simp [lookup?, unchanged, Dict.contains_eq_false_iff.mp noSibling, other, global?, Dict.find?_insert]

theorem lookup?_assign_ne (assigned : env.assign name value = .ok after) {other : String}
    (distinct : other ≠ name) : after.lookup? other = env.lookup? other := by
  rcases assign_cases assigned with ⟨inner, scope, outer, binding, split, _, _, _, rfl⟩ |
    ⟨_, _, rfl⟩ | ⟨_, _, _, rfl⟩
  · refine lookup?_congr ?_ rfl rfl rfl rfl
    simp [local?, split, List.findSome?_append, List.findSome?_cons, Dict.find?_insert, distinct]
  · refine lookup?_congr rfl ?_ rfl rfl rfl
    simp [Dict.find?_insert, distinct]
  · refine lookup?_congr rfl rfl ?_ rfl rfl
    simp [Dict.find?_insert, distinct]

theorem assignLocal_error {scopes : List (Dict Binding)} {e : EvalError}
    (failed : assignLocal name value scopes = some (.error e)) : e = .constantAssignment := by
  induction scopes with
  | nil => simp [assignLocal] at failed
  | cons scope rest ih =>
    cases found : scope.find? name with
    | none =>
      simp only [assignLocal, found, Option.map_eq_some_iff] at failed
      obtain ⟨result, further, shape⟩ := failed
      cases result with
      | ok => simp [Except.map] at shape
      | error => cases shape; exact ih further
    | some binding =>
      simp only [assignLocal, found] at failed
      split at failed <;> simp_all

theorem lookup?_eq_none_iff : env.lookup? name = none ↔
    env.local? name = none ∧ env.siblings.contains name = false ∧ name ≠ globalName ∧
      env.state.contains name = false ∧ ¬ (env.builtins = true ∧ globals.contains name = true) := by
  simp only [Dict.contains, lookup?, global?]
  cases env.local? name with
  | some => simp
  | none =>
    cases env.siblings.find? name with
    | some => simp
    | none =>
      by_cases view : name = globalName
      · simp [view]
      · cases env.state.find? name with
        | some => simp [view]
        | none => simp [view]

/-- An assignment finds no such name just if reading finds none: the two look in the same places, though
not in the same order. -/
theorem assign_reference_iff (value : Value) :
    (∃ e, env.assign name value = .error e ∧ e.kind = .reference) ↔ env.lookup? name = none := by
  rw [lookup?_eq_none_iff]
  constructor
  · rintro ⟨e, failed, reference⟩
    unfold assign at failed
    split at failed
    · rename_i result among
      cases result with
      | ok => simp [Except.map] at failed
      | error cause =>
        cases failed
        rw [assignLocal_error among] at reference
        cases reference
    · rename_i nowhere
      have free : env.local? name = none := assignLocal_eq_none_iff.mp nowhere
      split at failed
      · simp at failed
      · split at failed
        · simp at failed
        · split at failed
          · cases failed
            cases reference
          · rename_i noSibling notInState writable
            simp only [Bool.or_eq_true, decide_eq_true_eq, Bool.and_eq_true, not_or] at writable
            exact ⟨free, Bool.eq_false_iff.mpr noSibling, writable.1, Bool.eq_false_iff.mpr notInState, writable.2⟩
  · rintro ⟨free, noSibling, other, notInState, noBuiltin⟩
    have nowhere : assignLocal name value env.scopes = none := assignLocal_eq_none_iff.mpr free
    refine ⟨.notDefined name, ?_, rfl⟩
    have writable : (decide (name = globalName) || (env.builtins && globals.contains name)) = false := by
      simpa [other] using noBuiltin
    simp only [assign, nowhere, noSibling, notInState, writable, Bool.false_eq_true, if_false]

/-- The environments that come about from one by the operations of a run, in any order. -/
inductive Reachable (initial : Environment) : Environment → Prop
  | start : Reachable initial initial
  | enter {before : Environment} : Reachable initial before → Reachable initial before.enter
  | exit {before : Environment} : Reachable initial before → Reachable initial before.exit
  | pushScope {before : Environment} : Reachable initial before → Reachable initial before.pushScope
  | popScope {before : Environment} : Reachable initial before → Reachable initial before.popScope
  | declare {before : Environment} (kind : DeclarationKind) (name : String) (value : Option Value) :
      Reachable initial before → Reachable initial (before.declare kind name value)
  | assign {before after : Environment} {name : String} {value : Value} :
      Reachable initial before → before.assign name value = .ok after → Reachable initial after
  | setSibling {before : Environment} (name : String) (value : Value) :
      Reachable initial before → Reachable initial (before.setSibling name value)
  | setResult {before : Environment} (name : String) (value : Value) :
      Reachable initial before → Reachable initial (before.setResult name value)
  | setError {before : Environment} (message : String) :
      Reachable initial before → Reachable initial (before.setError message)

theorem popScope_state (env : Environment) : env.popScope.state = env.state := by
  unfold popScope
  split <;> rfl

theorem declare_state (env : Environment) (kind : DeclarationKind) (name : String) (value : Option Value) :
    (env.declare kind name value).state = env.state := by
  cases kind <;> rfl

/-- No operation adds a name to the state or takes one from it. -/
theorem Reachable.state_contains {initial : Environment} (reachable : Reachable initial env) (name : String) :
    env.state.contains name = initial.state.contains name := by
  induction reachable with
  | start => rfl
  | popScope _ ih => rw [popScope_state, ih]
  | declare _ _ _ _ ih => rw [declare_state, ih]
  | @assign before after written value _ assigned ih =>
    rcases assign_cases assigned with ⟨_, _, _, _, _, _, _, _, rfl⟩ | ⟨_, _, rfl⟩ | ⟨_, _, inState, rfl⟩
    · exact ih
    · exact ih
    · rw [Dict.contains_insert, ← ih]
      by_cases same : name = written
      · simp [same, inState]
      · simp [same]
  | enter _ ih | exit _ ih | pushScope _ ih | setSibling _ _ _ ih | setResult _ _ _ ih | setError _ _ ih =>
    exact ih

/-- Reading and assigning agree about names. Behind an assignment its name has the assigned value and
every other name what it had; one that fails changes nothing, and finds no such name just if reading
finds none. The assigned value is not seen in one case alone: the name is `_global`, the caller's state
holds it, and no scope and no sibling does. -/
theorem Reachable.lookup_assign {t : Template} {names : List String} {state : State} {builtins : Bool}
    (reachable : Reachable (t.instantiate names state builtins) env) (name : String) (value : Value) :
    (∀ after, Eval.assign name value env = (.ok (), after) →
      (¬ env.WritesUnseen name → (Eval.lookup name after).1 = .ok value) ∧
      ∀ other, other ≠ name → (Eval.lookup other after).1 = (Eval.lookup other env).1) ∧
    (∀ e after, Eval.assign name value env = (.error e, after) → after = env) ∧
    ((∃ e, (Eval.assign name value env).1 = .error e ∧ e.kind = .reference) ↔
      ∃ e, (Eval.lookup name env).1 = .error e ∧ e.kind = .reference) ∧
    (env.WritesUnseen name → name = globalName ∧ state.contains globalName = true) := by
  refine ⟨fun after done => ?_, fun e after failed => ?_, ?_, ?_⟩
  · unfold Eval.assign at done
    split at done
    · rename_i changed assigned
      cases done
      refine ⟨fun seen => ?_, fun other distinct => ?_⟩
      · simp only [Eval.lookup, lookup?_assign_self assigned seen]
      · simp only [Eval.lookup, lookup?_assign_ne assigned distinct]
        split <;> rfl
    · simp at done
  · unfold Eval.assign at failed
    split at failed
    · simp at failed
    · cases failed
      rfl
  · have read : (∃ e, (Eval.lookup name env).1 = .error e ∧ e.kind = .reference) ↔ env.lookup? name = none := by
      unfold Eval.lookup
      split
      · rename_i v found
        simp [found]
      · rename_i missing
        simp [missing, EvalError.kind]
    have written : (Eval.assign name value env).1 = (env.assign name value).map fun _ => () := by
      unfold Eval.assign
      split <;> rename_i outcome <;> rw [outcome] <;> rfl
    rw [read, ← assign_reference_iff value, written]
    cases env.assign name value <;> simp [Except.map]
  · rintro ⟨same, _, _, inState⟩
    rw [reachable.state_contains] at inState
    exact ⟨same, same ▸ inState⟩

/-- A local name that hides an entry of the state is assigned from a nested scope. -/
theorem lookup_assign_nested :
    ∃ env, Reachable ((Template.ofNames ["a"]).instantiate ["a"] [("s", .null)] true) env ∧
      env.state.contains "s" = true ∧
      ∃ after, Eval.assign "s" (.bool true) env = (.ok (), after) ∧
        (Eval.lookup "s" after).1 = .ok (.bool true) ∧ (Eval.lookup "a" after).1 = (Eval.lookup "a" env).1 := by
  have reachable : Reachable ((Template.ofNames ["a"]).instantiate ["a"] [("s", .null)] true) _ :=
    .pushScope (.declare .letK "s" (some (.bool false)) (.enter .start))
  obtain ⟨written, _⟩ := reachable.lookup_assign "s" (.bool true)
  refine ⟨_, reachable, rfl, _, rfl, (written _ rfl).1 ?_, (written _ rfl).2 "a" (by decide)⟩
  rintro ⟨same, _⟩
  exact absurd same (by decide)

/-- An assignment to `_global` succeeds where the state has this name, but is not seen. -/
theorem global_assigned_unseen :
    ∃ env after, env = (Template.ofNames []).instantiate [] [("_global", .null)] true ∧
      Eval.assign "_global" (.bool true) env = (.ok (), after) ∧
      (Eval.lookup "_global" after).1 = .ok env.globalValue ∧ (Eval.lookup "_global" after).1 ≠ .ok (.bool true) :=
  ⟨_, _, rfl, rfl, rfl, nofun⟩

end Reckoner.Environment
