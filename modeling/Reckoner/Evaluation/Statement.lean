import Reckoner.Evaluation.Expression

namespace Reckoner

/-- How a statement ends: it goes on, having computed a value, or it returns one. -/
inductive Completion where
  | value (v : Value)
  | returned (v : Value)

/-- Evaluates declarations from the first to the last. -/
def evalDeclarators (kind : DeclarationKind) : List Declarator → Eval Unit
  | [] => pure ()
  | ⟨name, none⟩ :: rest => do
    Eval.change (·.declare kind name none)
    evalDeclarators kind rest
  | ⟨name, some e⟩ :: rest => do
    let v ← e.eval
    Eval.change (·.declare kind name (some v))
    evalDeclarators kind rest

namespace Stmt

mutual

/-- Runs a statement. -/
def run : Stmt → Eval Completion
  | .declare kind declarators => do
    evalDeclarators kind declarators
    pure (.value .undefined)
  | .expression e => do return .value (← e.eval)
  | .return none => pure (.returned .undefined)
  | .return (some e) => do return .returned (← e.eval)
  | .ifElse condition yes none => do
    if (← condition.eval).isTruthy then run yes else pure (.value .undefined)
  | .ifElse condition yes (some no) => do
    if (← condition.eval).isTruthy then run yes else run no
  | .block body => Eval.inScope (runAll (.value .undefined) body)
  | .throw e => do
    let v ← e.eval
    Eval.fail (.thrown v)
  | .empty => pure (.value .undefined)

/-- Runs statements until one returns; `last` is the completion so far. -/
def runAll (last : Completion) : List Stmt → Eval Completion
  | [] => pure last
  | s :: rest => do
    match ← run s with
    | .returned v => pure (.returned v)
    | .value v => runAll (.value v) rest

end

end Stmt

/-- The value that a completed calculation gives. -/
def Completion.result : Completion → Value
  | value _ => .undefined
  | returned v => v

/-- Runs statements as a calculation of their own: in one fresh scope, which is dropped at the end,
also on failure. -/
def Body.run (body : Body) : Eval Value := fun env =>
  let (completion, env) := Stmt.runAll (.value .undefined) body env.enter
  (completion.map Completion.result, env.exit)

end Reckoner
