import Reckoner.Proofs.EvaluationOrder

namespace Reckoner

/-- The plan that the evaluation of an expression carries out: from left to right, but for a read with a
computed key, where the key comes first. -/
def Expr.course : Expr → Plan
  | .index base key =>
    if (Expr.index base key).readsKeyFirst then
      .evaluate key fun name => .evaluate base fun receiver => .give (receiver.readProperty name.text)
    else (Expr.index base key).plan
  | e => e.plan

theorem Expr.eval_course (e : Expr) (env : Environment) :
    ∃ evaluated, e.course.Runs env evaluated (e.eval env) := by
  have follows : ∃ parts, e.eval.Follows e.course parts := by
    cases e with
    | index base key =>
      rw [course]
      split
      · rename_i keyFirst
        exact ⟨_, keyed_follows keyFirst⟩
      · rename_i regular
        exact ⟨_, index_follows base key (by simpa using regular)⟩
    | _ => exact ⟨_, eval_follows _ rfl⟩
  obtain ⟨parts, follows⟩ := follows
  obtain ⟨evaluated, _, runs⟩ := follows env
  exact ⟨evaluated, runs⟩

/-- Expressions are evaluated one after the other, and none of them fails. -/
inductive Threads : Environment → List Expr → Environment → Prop
  | nil {env} : Threads env [] env
  | cons {env part v mid rest last} : part.eval env = (.ok v, mid) → Threads mid rest last →
      Threads env (part :: rest) last

theorem Plan.InOrder.threads {outcome : Except EvalError Value × Environment} {env : Environment} {part : Expr}
    {before behind : List Expr} (inOrder : InOrder outcome env (before ++ part :: behind)) :
    ∃ mid, Threads env before mid := by
  induction before generalizing env with
  | nil => exact ⟨env, .nil⟩
  | cons first rest ih =>
    rw [List.cons_append, InOrder] at inOrder
    cases run : first.eval env with
    | mk result mid =>
      rw [run] at inOrder
      cases result with
      | ok v =>
        obtain ⟨last, threads⟩ := ih inOrder
        exact ⟨last, .cons run threads⟩
      | error e => exact absurd inOrder.1 (by simp)

/-- What is carried out in the course of a calculation. -/
inductive Task where
  | expression (e : Expr)
  | declarators (kind : DeclarationKind) (items : List Declarator)
  | statement (s : Stmt)
  | statements (body : List Stmt)

namespace Task

/-- The environment that a task leaves, also where it fails. -/
def after : Task → Environment → Environment
  | .expression e, env => (e.eval env).2
  | .declarators kind items, env => (evalDeclarators kind items env).2
  | .statement s, env => (s.run env).2
  | .statements body, env => (Stmt.runAll (.value .undefined) body env).2

/-- A task that is carried out from one environment has another one carried out from a second environment. -/
inductive Starts : Task → Environment → Task → Environment → Prop
  | part {e env before part behind mid} : e.course.Runs env (before ++ part :: behind) (e.eval env) →
      Threads env before mid → Starts (.expression e) env (.expression part) mid
  | initializer {kind name e rest env} :
      Starts (.declarators kind (⟨name, some e⟩ :: rest)) env (.expression e) env
  | initialized {kind name e rest env v mid} : e.eval env = (.ok v, mid) →
      Starts (.declarators kind (⟨name, some e⟩ :: rest)) env (.declarators kind rest)
        (mid.declare kind name (some v))
  | declared {kind name rest env} :
      Starts (.declarators kind (⟨name, none⟩ :: rest)) env (.declarators kind rest) (env.declare kind name none)
  | declaration {kind items env} : Starts (.statement (.declare kind items)) env (.declarators kind items) env
  | expression {e env} : Starts (.statement (.expression e)) env (.expression e) env
  | returned {e env} : Starts (.statement (.return (some e))) env (.expression e) env
  | thrown {e env} : Starts (.statement (.throw e)) env (.expression e) env
  | condition {condition yes no env} : Starts (.statement (.ifElse condition yes no)) env (.expression condition) env
  | yes {condition yes no env v mid} : condition.eval env = (.ok v, mid) → v.isTruthy = true →
      Starts (.statement (.ifElse condition yes no)) env (.statement yes) mid
  | no {condition yes no env v mid} : condition.eval env = (.ok v, mid) → v.isTruthy = false →
      Starts (.statement (.ifElse condition yes (some no))) env (.statement no) mid
  | block {body env} : Starts (.statement (.block body)) env (.statements body) env.pushScope
  | first {s rest env} : Starts (.statements (s :: rest)) env (.statement s) env
  | next {s rest env v mid} : s.run env = (.ok (.value v), mid) →
      Starts (.statements (s :: rest)) env (.statements rest) mid

/-- None of the parts that an expression evaluates is passed over. -/
theorem starts_parts (e : Expr) (env : Environment) :
    ∃ evaluated, e.course.Runs env evaluated (e.eval env) ∧
      ∀ part ∈ evaluated, ∃ mid, Starts (.expression e) env (.expression part) mid := by
  obtain ⟨evaluated, runs⟩ := e.eval_course env
  refine ⟨evaluated, runs, fun part member => ?_⟩
  obtain ⟨before, behind, rfl⟩ := List.append_of_mem member
  obtain ⟨mid, threads⟩ := runs.inOrder.threads
  exact ⟨mid, .part runs threads⟩

/-- All that is carried out in the course of a task, itself included. -/
inductive Performs (task : Task) (env : Environment) : Task → Environment → Prop
  | self : Performs task env task env
  | next {other mid third last} : Performs task env other mid → other.Starts mid third last →
      Performs task env third last

variable {kept : Value → Prop} {holds : Environment → Prop} {task other : Task} {env mid : Environment}

/-- With an expression all those parts of it are carried out that its evaluation comes to. -/
theorem Performs.parts {e : Expr} (performs : Performs task env (.expression e) mid) :
    ∃ evaluated, e.course.Runs mid evaluated (e.eval mid) ∧
      ∀ part ∈ evaluated, ∃ last, Performs task env (.expression part) last := by
  obtain ⟨evaluated, runs, starts⟩ := starts_parts e mid
  refine ⟨evaluated, runs, fun part member => ?_⟩
  obtain ⟨last, started⟩ := starts part member
  exact ⟨last, performs.next started⟩

/-- What holds before a task holds behind it, if nothing in the course of a calculation can change it. -/
theorem after_invariant (values : Value.Hereditary kept) (invariant : Invariant (fun _ => True) kept holds)
    (task : Task) (here : holds env) : holds (task.after env) := by
  have sim := invariant.simulation
  cases task with
  | expression e => exact (e.eval_invariant values invariant.toExpressionInvariant (fun _ _ => trivial) here).1
  | declarators kind items => exact ((evalDeclarators_alike values sim kind fun _ _ => trivial).invariant here).1
  | statement s => exact ((s.run_alike values sim fun _ _ => trivial).invariant here).1
  | statements body =>
    have ran := Stmt.runAll_alike values sim body (.value .undefined) (values.literal .undefined) fun _ _ => trivial
    exact (ran.invariant here).1

theorem evaluated_invariant (values : Value.Hereditary kept) (invariant : Invariant (fun _ => True) kept holds)
    {e : Expr} {outcome : Except EvalError Value} (evaluated : e.eval env = (outcome, mid)) (here : holds env) :
    holds mid ∧ ∀ v, outcome = .ok v → kept v := by
  have ran := e.eval_invariant values invariant.toExpressionInvariant (fun _ _ => trivial) here
  rw [evaluated] at ran
  exact ran

theorem threads_invariant (values : Value.Hereditary kept) (invariant : Invariant (fun _ => True) kept holds)
    {parts : List Expr} (threads : Threads env parts mid) (here : holds env) : holds mid := by
  induction threads with
  | nil => exact here
  | cons evaluated _ ih => exact ih (evaluated_invariant values invariant evaluated here).1

theorem Starts.invariant (values : Value.Hereditary kept) (invariant : Invariant (fun _ => True) kept holds)
    (starts : Starts task env other mid) (here : holds env) : holds mid := by
  cases starts with
  | part _ threads => exact threads_invariant values invariant threads here
  | @initialized kind name e rest _ v between evaluated =>
    obtain ⟨still, so⟩ := evaluated_invariant values invariant evaluated here
    refine invariant.declare kind name ?_ still
    rintro w same
    cases same
    exact so v rfl
  | declared =>
    refine invariant.declare _ _ ?_ here
    exact nofun
  | yes evaluated _ | no evaluated _ => exact (evaluated_invariant values invariant evaluated here).1
  | block => exact invariant.pushScope here
  | @next s rest _ v _ ran =>
    have still := after_invariant values invariant (.statement s) here
    rw [after, ran] at still
    exact still
  | _ => exact here

theorem Performs.invariant (values : Value.Hereditary kept) (invariant : Invariant (fun _ => True) kept holds)
    (performs : Performs task env other mid) (here : holds env) : holds mid := by
  induction performs with
  | self => exact here
  | next _ starts ih => exact starts.invariant values invariant ih

end Task

end Reckoner
