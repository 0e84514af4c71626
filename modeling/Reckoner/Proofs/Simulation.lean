import Reckoner.Evaluation.Statement
import Reckoner.Proofs.Mentions

namespace Reckoner

/-- A property of values that no operation of the language leaves. -/
structure Value.Hereditary (kept : Value → Prop) : Prop where
  literal (l : Literal) : kept l.value
  array {items : List Value} : (∀ v ∈ items, kept v) → kept (.array items)
  object {fields : List (String × Value)} : (∀ field ∈ fields, kept field.2) → kept (.object (Dict.ofList fields))
  unary (op : UnaryOp) {v : Value} : kept v → kept (op.apply v)
  binary {op : BinaryOp} {v w result : Value} : kept v → kept w → op.apply v w = .ok result → kept result
  readProperty {v result : Value} {key : String} : kept v → v.readProperty key = .ok result → kept result
  callAs {callee : Expr} {f result : Value} {args : List Value} : kept f → (∀ v ∈ args, kept v) →
    f.callAs callee args = .ok result → kept result
  callProperty {callee : Expr} {receiver result : Value} {key : String} {args : List Value} : kept receiver →
    (∀ v ∈ args, kept v) → receiver.callProperty callee key args = .ok result → kept result
  constructAs {callee : Expr} {f result : Value} {args : List Value} : kept f → (∀ v ∈ args, kept v) →
    f.constructAs callee args = .ok result → kept result

/-- The property that all values have. -/
theorem Value.hereditary_true : Value.Hereditary fun _ => True where
  literal _ := trivial
  array _ := trivial
  object _ := trivial
  unary _ _ _ := trivial
  binary _ _ _ := trivial
  readProperty _ _ := trivial
  callAs _ _ _ := trivial
  callProperty _ _ _ := trivial
  constructAs _ _ _ := trivial

namespace Eval

variable {α β : Type}

theorem bind_ok {x : Eval α} {f : α → Eval β} {env mid : Environment} {a : α} (run : x env = (.ok a, mid)) :
    (x >>= f) env = f a mid := by
  unfold Bind.bind Monad.toBind instMonad
  simp only [run]

theorem bind_error {x : Eval α} {f : α → Eval β} {env after : Environment} {e : EvalError}
    (run : x env = (.error e, after)) : (x >>= f) env = (.error e, after) := by
  unfold Bind.bind Monad.toBind instMonad
  simp only [run]

theorem bind_eq_ok {x : Eval α} {f : α → Eval β} {env after : Environment} {b : β}
    (run : (x >>= f) env = (.ok b, after)) : ∃ a mid, x env = (.ok a, mid) ∧ f a mid = (.ok b, after) := by
  cases first : x env with
  | mk outcome mid =>
    cases outcome with
    | ok a => exact ⟨a, mid, rfl, (bind_ok first).symm.trans run⟩
    | error e => cases (bind_error first).symm.trans run

variable {R : Environment → Environment → Prop}

/-- From related environments the computation has one and the same outcome, also where it fails, and it leaves
related environments. Its value, if it has one, is as stated. -/
def Alike (R : Environment → Environment → Prop) (value : α → Prop) (x : Eval α) : Prop :=
  ∀ env other, R env other →
    (x other).1 = (x env).1 ∧ R (x env).2 (x other).2 ∧ ∀ a, (x env).1 = .ok a → value a

variable {value : α → Prop} {result : β → Prop}

theorem alike_pure {a : α} (so : value a) : Alike R value (pure a) := by
  intro env other related
  refine ⟨rfl, related, fun b same => ?_⟩
  cases same
  exact so

theorem alike_fail (e : EvalError) : Alike R value (fail e) :=
  fun _ _ related => ⟨rfl, related, fun _ same => nomatch same⟩

theorem alike_ofExcept {outcome : Except EvalError α} (so : ∀ a, outcome = .ok a → value a) :
    Alike R value (ofExcept outcome) :=
  fun _ _ related => ⟨rfl, related, so⟩

theorem alike_read {f : Environment → α} (same : ∀ env other, R env other → f other = f env ∧ value (f env)) :
    Alike R value (read f) := by
  intro env other related
  refine ⟨congrArg Except.ok (same env other related).1, related, fun a here => ?_⟩
  cases here
  exact (same env other related).2

theorem alike_change {f : Environment → Environment} (step : ∀ env other, R env other → R (f env) (f other)) :
    Alike R (fun _ => True) (change f) :=
  fun env other related => ⟨rfl, step env other related, fun _ _ => trivial⟩

theorem Alike.bind {x : Eval α} {f : α → Eval β} (first : Alike R value x)
    (next : ∀ a, value a → Alike R result (f a)) : Alike R result (x >>= f) := by
  intro env other related
  obtain ⟨same, still, so⟩ := first env other related
  cases run : x env with
  | mk outcome mid =>
    cases again : x other with
    | mk repeated otherMid =>
      rw [run, again] at same still
      rw [run] at so
      dsimp only at same still so
      subst same
      cases repeated with
      | ok a => rw [bind_ok run, bind_ok again]; exact next a (so a rfl) mid otherMid still
      | error e => rw [bind_error run, bind_error again]; exact ⟨rfl, still, fun _ same => nomatch same⟩

end Eval

open Eval

/-- A relation between the environments of two runs that cannot be told apart through what is allowed, while
all values have a property. An expression meets its environment in no other way than these. -/
structure ExpressionSimulation (allowed : Mention → Prop) (kept : Value → Prop)
    (R : Environment → Environment → Prop) : Prop where
  read {env other : Environment} {name : String} : allowed (.read name) → R env other →
    other.lookup? name = env.lookup? name ∧ ∀ v, env.lookup? name = some v → kept v
  property {env other : Environment} {name : String} : allowed (.property name) ∨ allowed .this → R env other →
    other.thisProperty name = env.thisProperty name ∧ kept (env.thisProperty name)
  this {env other : Environment} : allowed .this → R env other →
    other.thisValue = env.thisValue ∧ kept env.thisValue
  assign {name : String} {value : Value} : allowed (.assigned name) → kept value →
    Alike R (fun _ => True) (Eval.assign name value)

/-- The same for statements and calculations, which also declare names and open and leave scopes. -/
structure Simulation (allowed : Mention → Prop) (kept : Value → Prop) (R : Environment → Environment → Prop) :
    Prop extends ExpressionSimulation allowed kept R where
  declare {env other : Environment} (kind : DeclarationKind) (name : String) {value : Option Value} :
    (∀ v, value = some v → kept v) → R env other → R (env.declare kind name value) (other.declare kind name value)
  pushScope {env other : Environment} : R env other → R env.pushScope other.pushScope
  popScope {env other : Environment} : R env other → R env.popScope other.popScope
  exit {env other : Environment} : R env other → R env.exit other.exit

variable {allowed : Mention → Prop} {kept : Value → Prop} {R : Environment → Environment → Prop}

theorem ExpressionSimulation.alike_lookup (sim : ExpressionSimulation allowed kept R) {name : String}
    (may : allowed (.read name)) : Alike R kept (lookup name) := by
  intro env other related
  obtain ⟨same, found⟩ := sim.read may related
  unfold lookup
  rw [same]
  cases here : env.lookup? name with
  | none => exact ⟨rfl, related, fun _ same => nomatch same⟩
  | some v => exact ⟨rfl, related, fun w same => by cases same; exact found v here⟩

namespace Expr

theorem isThis_iff {e : Expr} : e.isThis = true ↔ e = .this := by
  cases e <;> simp [isThis]

/-- Two runs of one expression, of a list of them or of object fields, that are allowed what is mentioned there. The
cases are those of the evaluation, which treats `this` as an object and `typeof` of a name on their own. -/
theorem evaluations_alike (values : Value.Hereditary kept) (sim : ExpressionSimulation allowed kept R) :
    (∀ e, (∀ m ∈ mentions e, allowed m) → Alike R kept (eval e)) ∧
      (∀ fields, (∀ m ∈ mentionsFields fields, allowed m) →
        Alike R (fun results => ∀ field ∈ results, kept field.2) (evalFields fields)) ∧
      ∀ items, (∀ m ∈ mentionsAll items, allowed m) →
        Alike R (fun results => ∀ v ∈ results, kept v) (evalAll items) := by
  have self {key : String} (may : allowed (.property key) ∨ allowed .this) :
      Alike R kept (Eval.read (·.thisProperty key)) := alike_read fun _ _ => sim.property may
  refine Expr.eval.mutual_induct _ _ _ ?literal ?name ?this ?array ?object ?thisMember ?member
    ?thisIndex ?index ?callThisMember ?callMember ?callThisIndex ?callIndex ?call ?construct
    ?typeofName ?unary ?binary ?conditional ?assign ?compound ?noItem ?item ?noField ?field
  case literal => intro l _; rw [eval]; exact alike_pure (values.literal l)
  case name =>
    intro id may
    rw [eval]
    exact sim.alike_lookup (may _ (List.mem_singleton_self _))
  case this =>
    intro may
    rw [eval]
    exact alike_read fun _ _ => sim.this (may _ (List.mem_singleton_self _))
  case array =>
    intro items ih may
    rw [eval]
    exact (ih may).bind fun _ all => alike_pure (values.array all)
  case object =>
    intro fields ih may
    rw [eval]
    exact (ih may).bind fun _ all => alike_pure (values.object all)
  case thisMember =>
    intro property may
    rw [eval]
    exact self (.inl (may _ (List.mem_singleton_self _)))
  case member =>
    intro base property notThis ih may
    rw [mentions, if_neg fun this => notThis (isThis_iff.mp this)] at may
    rw [eval]
    · exact (ih may).bind fun _ here => alike_ofExcept fun _ => values.readProperty here
    · exact notThis
  case thisIndex =>
    intro key ih may
    simp only [mentions, List.forall_mem_append, List.forall_mem_singleton] at may
    rw [eval]
    exact (ih may.2).bind fun _ _ => self (.inr may.1)
  case index =>
    intro base key notThis ihKey ihBase may
    simp only [mentions, List.forall_mem_append] at may
    rw [eval]
    · exact (ihKey may.2).bind fun _ _ => (ihBase may.1).bind fun _ here =>
        alike_ofExcept fun _ => values.readProperty here
    · exact notThis
  case callThisMember =>
    intro base property args isThis ih may
    simp only [mentions, if_pos isThis, List.forall_mem_append, List.forall_mem_singleton] at may
    rw [eval, if_pos isThis]
    exact (self (.inl may.1)).bind fun _ here => (ih may.2).bind fun _ all =>
      alike_ofExcept fun _ => values.callAs here all
  case callMember =>
    intro base property args notThis ihBase ihArgs may
    simp only [mentions, if_neg notThis, List.forall_mem_append] at may
    rw [eval, if_neg notThis]
    refine (ihBase may.1).bind fun receiver here => ?_
    split
    · exact alike_fail _
    · exact (ihArgs may.2).bind fun _ all => alike_ofExcept fun _ => values.callProperty here all
  case callThisIndex =>
    intro base key args isThis ihKey ihArgs may
    cases isThis_iff.mp isThis
    simp only [mentions, List.forall_mem_append, List.forall_mem_singleton] at may
    rw [eval, if_pos isThis]
    exact (ihKey may.1.2).bind fun _ _ => (self (.inr may.1.1)).bind fun _ here =>
      (ihArgs may.2).bind fun _ all => alike_ofExcept fun _ => values.callAs here all
  case callIndex =>
    intro base key args notThis ihBase ihKey ihArgs may
    simp only [mentions, List.forall_mem_append] at may
    rw [eval, if_neg notThis]
    refine (ihBase may.1.1).bind fun receiver here => (ihKey may.1.2).bind fun _ _ => ?_
    split
    · exact alike_fail _
    · exact (ihArgs may.2).bind fun _ all => alike_ofExcept fun _ => values.callProperty here all
  case call =>
    intro callee args notMember notIndex ihCallee ihArgs may
    simp only [mentions, List.forall_mem_append] at may
    rw [eval]
    · exact (ihCallee may.1).bind fun _ here => (ihArgs may.2).bind fun _ all =>
        alike_ofExcept fun _ => values.callAs here all
    · exact notMember
    · exact notIndex
  case construct =>
    intro callee args ihCallee ihArgs may
    simp only [mentions, List.forall_mem_append] at may
    rw [eval]
    exact (ihCallee may.1).bind fun _ here => (ihArgs may.2).bind fun _ all =>
      alike_ofExcept fun _ => values.constructAs here all
  case typeofName =>
    intro id may
    rw [eval]
    refine alike_read fun env other related => ?_
    rw [(sim.read (may _ (List.mem_singleton_self _)) related).1]
    exact ⟨rfl, values.literal (.string _)⟩
  case unary =>
    intro op operand notTypeof ih may
    rw [eval]
    · exact (ih may).bind fun _ here => alike_pure (values.unary op here)
    · exact notTypeof
  case binary =>
    intro op left right ihLeft ihRight may
    simp only [mentions, List.forall_mem_append] at may
    rw [eval]
    refine (ihLeft may.1).bind fun v atLeft => ?_
    split
    · exact alike_pure atLeft
    · refine (ihRight may.2).bind fun w atRight => ?_
      split
      · exact alike_pure atRight
      · exact alike_ofExcept fun _ => values.binary atLeft atRight
  case conditional =>
    intro condition yes no ihCondition ihYes ihNo may
    simp only [mentions, List.forall_mem_append] at may
    rw [eval]
    refine (ihCondition may.1).bind fun v _ => ?_
    split
    · exact ihYes may.2.1
    · exact ihNo may.2.2
  case assign =>
    intro target op value plain ih may
    simp only [mentions, List.forall_mem_append, List.forall_mem_cons] at may
    rw [eval, plain]
    exact (ih may.2.2).bind fun v here => (sim.assign may.2.1 here).bind fun _ _ => alike_pure here
  case compound =>
    intro target op value operation compound ih may
    simp only [mentions, compound, Option.isSome_some, if_true, List.forall_mem_append, List.forall_mem_singleton,
      List.forall_mem_cons] at may
    rw [eval, compound]
    exact (sim.alike_lookup may.1).bind fun _ current => (ih may.2.2).bind fun _ here =>
      (alike_ofExcept fun _ => values.binary current here).bind fun v result =>
        (sim.assign may.2.1 result).bind fun _ _ => alike_pure result
  case noItem => intro _; rw [evalAll]; exact alike_pure nofun
  case item =>
    intro e rest ihFirst ihRest may
    simp only [mentionsAll, List.forall_mem_append] at may
    rw [evalAll]
    exact (ihFirst may.1).bind fun _ here => (ihRest may.2).bind fun _ all =>
      alike_pure (List.forall_mem_cons.mpr ⟨here, all⟩)
  case noField => intro _; rw [evalFields]; exact alike_pure nofun
  case field =>
    intro key e rest ihFirst ihRest may
    simp only [mentionsFields, List.forall_mem_append] at may
    rw [evalFields]
    exact (ihFirst may.1).bind fun _ here => (ihRest may.2).bind fun _ all =>
      alike_pure (List.forall_mem_cons.mpr ⟨here, all⟩)

theorem eval_alike (values : Value.Hereditary kept) (sim : ExpressionSimulation allowed kept R) {e : Expr}
    (may : ∀ m ∈ e.mentions, allowed m) : Alike R kept e.eval :=
  (evaluations_alike values sim).1 e may

end Expr

theorem evalDeclarators_alike (values : Value.Hereditary kept) (sim : Simulation allowed kept R)
    (kind : DeclarationKind) {declarators : List Declarator} (may : ∀ m ∈ declaratorMentions declarators, allowed m) :
    Alike R (fun _ => True) (evalDeclarators kind declarators) := by
  induction declarators with
  | nil => exact alike_pure trivial
  | cons first rest ih =>
    obtain ⟨name, value⟩ := first
    cases value with
    | none =>
      refine (alike_change fun _ _ => sim.declare kind name ?_).bind fun _ _ => ih may
      exact nofun
    | some e =>
      simp only [declaratorMentions, List.forall_mem_append] at may
      refine (e.eval_alike values sim.toExpressionSimulation may.1).bind fun v here =>
        (alike_change fun _ _ => sim.declare kind name ?_).bind fun _ _ => ih may.2
      rintro w same
      cases same
      exact here

/-- The value of a completion has a property. -/
def Completion.Holds (kept : Value → Prop) : Completion → Prop
  | value v | returned v => kept v

namespace Stmt

mutual

/-- Two runs of one statement that are allowed what is mentioned there. The scopes of a block are dropped at its end in
both of them, also where one of its statements fails. -/
theorem run_alike (values : Value.Hereditary kept) (sim : Simulation allowed kept R) :
    ∀ s : Stmt, (∀ m ∈ s.mentions, allowed m) → Alike R (Completion.Holds kept) s.run
  | .declare kind declarators, may => by
    rw [run]
    exact (evalDeclarators_alike values sim kind may).bind fun _ _ => alike_pure (values.literal .undefined)
  | .expression e, may => by
    rw [run]
    exact (e.eval_alike values sim.toExpressionSimulation may).bind fun _ here => alike_pure here
  | .return none, _ => by rw [run]; exact alike_pure (values.literal .undefined)
  | .return (some e), may => by
    rw [run]
    exact (e.eval_alike values sim.toExpressionSimulation may).bind fun _ here => alike_pure here
  | .ifElse condition yes none, may => by
    simp only [mentions, List.forall_mem_append] at may
    rw [run]
    refine (condition.eval_alike values sim.toExpressionSimulation may.1).bind fun v _ => ?_
    split
    · exact run_alike values sim yes may.2
    · exact alike_pure (values.literal .undefined)
  | .ifElse condition yes (some no), may => by
    simp only [mentions, List.forall_mem_append] at may
    rw [run]
    refine (condition.eval_alike values sim.toExpressionSimulation may.1).bind fun v _ => ?_
    split
    · exact run_alike values sim yes may.2.1
    · exact run_alike values sim no may.2.2
  | .block body, may => by
    rw [run]
    intro env other related
    have inner := runAll_alike values sim body (.value .undefined) (values.literal .undefined) may
    obtain ⟨same, still, so⟩ := inner env.pushScope other.pushScope (sim.pushScope related)
    exact ⟨same, sim.popScope still, so⟩
  | .throw e, may => by
    rw [run]
    exact (e.eval_alike values sim.toExpressionSimulation may).bind fun _ _ => alike_fail _
  | .empty, _ => by rw [run]; exact alike_pure (values.literal .undefined)

theorem runAll_alike (values : Value.Hereditary kept) (sim : Simulation allowed kept R) :
    ∀ (body : List Stmt) (last : Completion), last.Holds kept → (∀ m ∈ mentionsAll body, allowed m) →
      Alike R (Completion.Holds kept) (runAll last body)
  | [], last, so, _ => by rw [runAll]; exact alike_pure so
  | s :: rest, last, _, may => by
    simp only [mentionsAll, List.forall_mem_append] at may
    rw [runAll]
    refine (run_alike values sim s may.1).bind fun completion so => ?_
    cases completion with
    | returned v => exact alike_pure so
    | value v => exact runAll_alike values sim rest (.value v) so may.2

end

end Stmt

/-- Two runs of one calculation from environments that are related as soon as it has opened its scope. -/
theorem Body.run_alike (values : Value.Hereditary kept) (sim : Simulation allowed kept R) {body : Body}
    (may : ∀ m ∈ body.mentions, allowed m) {env other : Environment} (start : R env.enter other.enter) :
    (body.run other).1 = (body.run env).1 ∧ R (body.run env).2 (body.run other).2 ∧
      ∀ v, (body.run env).1 = .ok v → kept v := by
  have ran := Stmt.runAll_alike values sim body (.value .undefined) (values.literal .undefined) may
  obtain ⟨same, still, so⟩ := ran env.enter other.enter start
  refine ⟨congrArg (Except.map Completion.result) same, sim.exit still, fun v given => ?_⟩
  cases outcome : (Stmt.runAll (.value .undefined) body env.enter).1 with
  | error e => simp [Body.run, outcome, Except.map] at given
  | ok completion =>
    have held := so completion outcome
    simp only [Body.run, outcome, Except.map, Except.ok.injEq] at given
    cases completion with
    | value w => exact given ▸ values.literal .undefined
    | returned w => exact given ▸ held

/-- A property of environments that expressions keep through what is allowed, while all values have a
property. -/
structure ExpressionInvariant (allowed : Mention → Prop) (kept : Value → Prop) (holds : Environment → Prop) :
    Prop where
  read {env : Environment} {name : String} {v : Value} : allowed (.read name) → holds env →
    env.lookup? name = some v → kept v
  property {env : Environment} {name : String} : allowed (.property name) ∨ allowed .this → holds env →
    kept (env.thisProperty name)
  this {env : Environment} : allowed .this → holds env → kept env.thisValue
  assign {env after : Environment} {name : String} {value : Value} : allowed (.assigned name) → kept value →
    holds env → env.assign name value = .ok after → holds after

/-- The same for statements and calculations. -/
structure Invariant (allowed : Mention → Prop) (kept : Value → Prop) (holds : Environment → Prop) : Prop
    extends ExpressionInvariant allowed kept holds where
  declare {env : Environment} (kind : DeclarationKind) (name : String) {value : Option Value} :
    (∀ v, value = some v → kept v) → holds env → holds (env.declare kind name value)
  pushScope {env : Environment} : holds env → holds env.pushScope
  popScope {env : Environment} : holds env → holds env.popScope
  exit {env : Environment} : holds env → holds env.exit

variable {holds : Environment → Prop}

theorem ExpressionInvariant.simulation (invariant : ExpressionInvariant allowed kept holds) :
    ExpressionSimulation allowed kept fun env other => other = env ∧ holds env where
  read := by
    rintro env _ name may ⟨rfl, here⟩
    exact ⟨rfl, fun v => invariant.read may here⟩
  property := by
    rintro env _ name may ⟨rfl, here⟩
    exact ⟨rfl, invariant.property may here⟩
  this := by
    rintro env _ may ⟨rfl, here⟩
    exact ⟨rfl, invariant.this may here⟩
  assign := by
    rintro name value may given env _ ⟨rfl, here⟩
    unfold Eval.assign
    split
    · rename_i after assigned
      exact ⟨rfl, ⟨rfl, invariant.assign may given here assigned⟩, fun _ _ => trivial⟩
    · exact ⟨rfl, ⟨rfl, here⟩, fun _ _ => trivial⟩

theorem Invariant.simulation (invariant : Invariant allowed kept holds) :
    Simulation allowed kept fun env other => other = env ∧ holds env where
  toExpressionSimulation := invariant.toExpressionInvariant.simulation
  declare := by
    rintro env _ kind name value given ⟨rfl, here⟩
    exact ⟨rfl, invariant.declare kind name given here⟩
  pushScope := by
    rintro env _ ⟨rfl, here⟩
    exact ⟨rfl, invariant.pushScope here⟩
  popScope := by
    rintro env _ ⟨rfl, here⟩
    exact ⟨rfl, invariant.popScope here⟩
  exit := by
    rintro env _ ⟨rfl, here⟩
    exact ⟨rfl, invariant.exit here⟩

theorem Eval.Alike.invariant {α : Type} {value : α → Prop} {x : Eval α} {env : Environment}
    (alike : Alike (fun env other => other = env ∧ holds env) value x) (here : holds env) :
    holds (x env).2 ∧ ∀ a, (x env).1 = .ok a → value a := by
  obtain ⟨_, ⟨_, after⟩, so⟩ := alike env env ⟨rfl, here⟩
  exact ⟨after, so⟩

theorem Expr.eval_invariant (values : Value.Hereditary kept) (invariant : ExpressionInvariant allowed kept holds)
    {e : Expr} (may : ∀ m ∈ e.mentions, allowed m) {env : Environment} (here : holds env) :
    holds (e.eval env).2 ∧ ∀ v, (e.eval env).1 = .ok v → kept v :=
  (e.eval_alike values invariant.simulation may).invariant here

theorem Body.run_invariant (values : Value.Hereditary kept) (invariant : Invariant allowed kept holds) {body : Body}
    (may : ∀ m ∈ body.mentions, allowed m) {env : Environment} (start : holds env.enter) :
    holds (body.run env).2 ∧ ∀ v, (body.run env).1 = .ok v → kept v := by
  obtain ⟨_, ⟨_, after⟩, so⟩ := body.run_alike values invariant.simulation may ⟨rfl, start⟩
  exact ⟨after, so⟩

end Reckoner
