import Reckoner.Proofs.Declarations
import Reckoner.Proofs.NameResolution
import Reckoner.Proofs.Simulation

namespace Reckoner

/-- A relation from an environment to all that an expression can make of it. Assignment is the only
way in which an expression changes anything. -/
structure ExpressionFrame (R : Environment → Environment → Prop) : Prop where
  refl (env : Environment) : R env env
  trans {first second third : Environment} : R first second → R second third → R first third
  assign {env after : Environment} {name : String} {value : Value} :
    env.assign name value = .ok after → R env after

/-- The same for statements, which also declare names and open scopes of their own. -/
structure StatementFrame (R : Environment → Environment → Prop) : Prop extends ExpressionFrame R where
  declare (env : Environment) (kind : DeclarationKind) (name : String) (value : Option Value) :
    R env (env.declare kind name value)
  scope {env after : Environment} : R env.pushScope after → R env after.popScope

/-- A relation that knows which declarators may enter names in the innermost and in the outermost scope.
Inside a block the innermost scope is another one, which is gone behind the block. -/
structure DeclarationFrame (R : (direct hoisted : Declarator → Prop) → Environment → Environment → Prop) :
    Prop where
  expression (direct hoisted : Declarator → Prop) : ExpressionFrame (R direct hoisted)
  declare {direct hoisted : Declarator → Prop} {kind : DeclarationKind} {d : Declarator} {value : Option Value}
    (env : Environment) : kind.entering direct hoisted d → value.isSome = d.value.isSome →
    R direct hoisted env (env.declare kind d.name value)
  scope {direct hoisted inner : Declarator → Prop} {env after : Environment} :
    R inner hoisted env.pushScope after → R direct hoisted env after.popScope

/-- A statement frame asks nothing of the declarators. -/
theorem StatementFrame.toDeclarationFrame {R : Environment → Environment → Prop} (frame : StatementFrame R) :
    DeclarationFrame fun _ _ => R where
  expression _ _ := frame.toExpressionFrame
  declare env _ _ := frame.declare env _ _ _
  scope := frame.scope

namespace Eval

variable {α β : Type} {R : Environment → Environment → Prop}

/-- Whatever the outcome, also on failure, the environment stays in the relation. -/
def Within (R : Environment → Environment → Prop) (x : Eval α) : Prop := ∀ env, R env (x env).2

theorem within_pure (frame : ExpressionFrame R) (a : α) : Within R (pure a) := frame.refl

theorem within_fail (frame : ExpressionFrame R) (e : EvalError) : Within R (fail (α := α) e) := frame.refl

theorem Within.bind (frame : ExpressionFrame R) {x : Eval α} {f : α → Eval β} (first : Within R x)
    (next : ∀ a, Within R (f a)) : Within R (x >>= f) := by
  intro env
  have start := first env
  cases outcome : x env with
  | mk result after =>
    rw [outcome] at start
    cases result with
    | ok a => rw [bind_ok outcome]; exact frame.trans start (next a after)
    | error e => rw [bind_error outcome]; exact start

end Eval

open Eval

variable {R : Environment → Environment → Prop}

theorem ExpressionFrame.invariant (frame : ExpressionFrame R) (start : Environment) :
    ExpressionInvariant (fun _ => True) (fun _ => True) (R start) where
  read _ _ _ := trivial
  property _ _ := trivial
  this _ _ := trivial
  assign _ _ here assigned := frame.trans here (frame.assign assigned)

/-- An expression stays in every frame. -/
theorem Expr.eval_within (frame : ExpressionFrame R) (e : Expr) : Within R e.eval := fun env =>
  (e.eval_invariant Value.hereditary_true (frame.invariant env) (fun _ _ => trivial) (frame.refl env)).1

section

variable {R : (direct hoisted : Declarator → Prop) → Environment → Environment → Prop}
  {direct hoisted : Declarator → Prop}

theorem evalDeclarators_within (frame : DeclarationFrame R) (kind : DeclarationKind) {declarators : List Declarator}
    (declared : ∀ d ∈ declarators, kind.entering direct hoisted d) :
    Within (R direct hoisted) (evalDeclarators kind declarators) := by
  have base := frame.expression direct hoisted
  induction declarators with
  | nil => exact within_pure base ()
  | cons first rest ih =>
    have here := declared first (List.mem_cons_self ..)
    have later := ih fun d member => declared d (List.mem_cons_of_mem _ member)
    obtain ⟨name, value⟩ := first
    have entered (v : Option Value) (given : v.isSome = value.isSome) :
        Within (R direct hoisted) (change (·.declare kind name v)) := fun env => frame.declare env here given
    cases value with
    | none => exact (entered none rfl).bind base fun _ => later
    | some e =>
      exact (e.eval_within base).bind base fun v => (entered (some v) rfl).bind base fun _ => later

namespace Stmt

mutual

/-- A statement stays in every frame that allows its declarators, whether it goes on, returns or fails. What stands
directly in a block belongs to the scope of the block, so that of its declarators only the hoisted ones have to be
allowed around it. -/
theorem run_within_declared (frame : DeclarationFrame R) : ∀ (s : Stmt) (direct hoisted : Declarator → Prop),
    (∀ d ∈ s.direct, direct d) → (∀ d ∈ s.hoisted, hoisted d) → Within (R direct hoisted) s.run
  | .declare kind declarators, direct, hoisted, atDirect, atHoisted => by
    have base := frame.expression direct hoisted
    rw [run]
    refine Within.bind base (evalDeclarators_within frame kind fun d member => ?_) fun _ => within_pure base _
    cases kind with
    | varK => exact atHoisted d member
    | letK | constK => exact atDirect d member
  | .expression e, direct, hoisted, _, _ => by
    have base := frame.expression direct hoisted
    rw [run]
    exact (e.eval_within base).bind base fun _ => within_pure base _
  | .return none, direct, hoisted, _, _ => by rw [run]; exact within_pure (frame.expression direct hoisted) _
  | .return (some e), direct, hoisted, _, _ => by
    have base := frame.expression direct hoisted
    rw [run]
    exact (e.eval_within base).bind base fun _ => within_pure base _
  | .ifElse condition yes none, direct, hoisted, atDirect, atHoisted => by
    have base := frame.expression direct hoisted
    rw [run]
    refine (condition.eval_within base).bind base fun v => ?_
    split
    · exact run_within_declared frame yes direct hoisted atDirect atHoisted
    · exact within_pure base _
  | .ifElse condition yes (some no), direct, hoisted, atDirect, atHoisted => by
    have base := frame.expression direct hoisted
    rw [run]
    refine (condition.eval_within base).bind base fun v => ?_
    split
    · exact run_within_declared frame yes direct hoisted
        (fun d member => atDirect d (List.mem_append_left _ member))
        (fun d member => atHoisted d (List.mem_append_left _ member))
    · exact run_within_declared frame no direct hoisted
        (fun d member => atDirect d (List.mem_append_right _ member))
        (fun d member => atHoisted d (List.mem_append_right _ member))
  | .block body, direct, hoisted, _, atHoisted => by
    rw [run]
    have inner := runAll_within_declared frame body (.value .undefined) (fun _ => True) hoisted
      (fun _ _ => trivial) atHoisted
    exact fun env => frame.scope (inner env.pushScope)
  | .throw e, direct, hoisted, _, _ => by
    have base := frame.expression direct hoisted
    rw [run]
    exact (e.eval_within base).bind base fun _ => within_fail base _
  | .empty, direct, hoisted, _, _ => by rw [run]; exact within_pure (frame.expression direct hoisted) _

theorem runAll_within_declared (frame : DeclarationFrame R) :
    ∀ (body : List Stmt) (last : Completion) (direct hoisted : Declarator → Prop),
      (∀ d ∈ directAll body, direct d) → (∀ d ∈ hoistedAll body, hoisted d) →
      Within (R direct hoisted) (runAll last body)
  | [], last, direct, hoisted, _, _ => by rw [runAll]; exact within_pure (frame.expression direct hoisted) last
  | s :: rest, last, direct, hoisted, atDirect, atHoisted => by
    have base := frame.expression direct hoisted
    rw [runAll]
    refine (run_within_declared frame s direct hoisted
      (fun d member => atDirect d (List.mem_append_left _ member))
      (fun d member => atHoisted d (List.mem_append_left _ member))).bind base fun completion => ?_
    cases completion with
    | returned v => exact within_pure base _
    | value v =>
      exact runAll_within_declared frame rest _ direct hoisted
        (fun d member => atDirect d (List.mem_append_right _ member))
        (fun d member => atHoisted d (List.mem_append_right _ member))

end

end Stmt

end

/-- A list of statements stays in every statement frame, whatever it declares. -/
theorem Stmt.runAll_within (frame : StatementFrame R) (body : List Stmt) (last : Completion) :
    Within R (runAll last body) :=
  runAll_within_declared frame.toDeclarationFrame body last (fun _ => True) (fun _ => True)
    (fun _ _ => trivial) fun _ _ => trivial

/-- The results, the error message and the choice of built-ins are out of reach for calculations. -/
def Environment.SameReport (env after : Environment) : Prop :=
  after.results = env.results ∧ after.error = env.error ∧ after.builtins = env.builtins

theorem Environment.sameReport_assign {env after : Environment} {name : String} {value : Value}
    (assigned : env.assign name value = .ok after) : env.SameReport after := by
  rcases assign_cases assigned with ⟨_, _, _, _, _, _, _, _, rfl⟩ | ⟨_, _, rfl⟩ | ⟨_, _, _, rfl⟩ <;>
    exact ⟨rfl, rfl, rfl⟩

theorem Environment.sameReport_declare (env : Environment) (kind : DeclarationKind) (name : String)
    (value : Option Value) : env.SameReport (env.declare kind name value) := by
  cases kind <;> exact ⟨rfl, rfl, rfl⟩

theorem Environment.popScope_report (env : Environment) : env.SameReport env.popScope := by
  unfold Environment.popScope
  split <;> exact ⟨rfl, rfl, rfl⟩

theorem Environment.SameReport.trans {first second third : Environment} (start : first.SameReport second)
    (next : second.SameReport third) : first.SameReport third :=
  ⟨next.1.trans start.1, next.2.1.trans start.2.1, next.2.2.trans start.2.2⟩

theorem sameReport_frame : StatementFrame Environment.SameReport where
  refl _ := ⟨rfl, rfl, rfl⟩
  trans := .trans
  assign := Environment.sameReport_assign
  declare := Environment.sameReport_declare
  scope {_ after} inner := inner.trans after.popScope_report

/-- No calculation writes the results or the error message, also when it fails. -/
theorem Body.run_sameReport (body : Body) (env : Environment) : env.SameReport (body.run env).2 :=
  Stmt.runAll_within sameReport_frame body (.value .undefined) env.enter

end Reckoner
