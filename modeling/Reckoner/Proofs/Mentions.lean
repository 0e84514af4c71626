import Reckoner.Evaluation.Expression

namespace Reckoner

/-- A place where a calculation meets something outside of it. -/
inductive Mention where
  /-- The value of a name is read, also by `typeof`. -/
  | read (name : String)
  /-- A name is the target of an assignment. -/
  | assigned (name : String)
  /-- `this` is the object of a property with this name. -/
  | property (name : String)
  /-- `this` stands in any other place. -/
  | this
deriving DecidableEq, Repr

def Mention.name? : Mention → Option String
  | read name | assigned name | property name => some name
  | this => none

namespace Expr

mutual

/-- The mentions in an expression. The target of a compound assignment is also read. -/
def mentions : Expr → List Mention
  | .literal _ => []
  | .name id => [.read id]
  | .this => [.this]
  | .array items => mentionsAll items
  | .object fields => mentionsFields fields
  | .member base property => if base.isThis then [.property property] else mentions base
  | .index base key => mentions base ++ mentions key
  | .call callee args => mentions callee ++ mentionsAll args
  | .construct callee args => mentions callee ++ mentionsAll args
  | .unary _ operand => mentions operand
  | .binary _ left right => mentions left ++ mentions right
  | .conditional condition yes no => mentions condition ++ (mentions yes ++ mentions no)
  | .assign target op value =>
    (if op.operation?.isSome then [.read target] else []) ++ .assigned target :: mentions value

def mentionsAll : List Expr → List Mention
  | [] => []
  | e :: rest => mentions e ++ mentionsAll rest

def mentionsFields : List (String × Expr) → List Mention
  | [] => []
  | (_, e) :: rest => mentions e ++ mentionsFields rest

end

end Expr

/-- The mentions in the values of declarators. The declared names themselves are none: a declaration looks
at its own scope only. -/
def declaratorMentions : List Declarator → List Mention
  | [] => []
  | ⟨_, none⟩ :: rest => declaratorMentions rest
  | ⟨_, some e⟩ :: rest => e.mentions ++ declaratorMentions rest

namespace Stmt

mutual

/-- The mentions in a statement. -/
def mentions : Stmt → List Mention
  | .declare _ declarators => declaratorMentions declarators
  | .expression e => e.mentions
  | .return none => []
  | .return (some e) => e.mentions
  | .ifElse condition yes none => condition.mentions ++ mentions yes
  | .ifElse condition yes (some no) => condition.mentions ++ (mentions yes ++ mentions no)
  | .block body => mentionsAll body
  | .throw e => e.mentions
  | .empty => []

def mentionsAll : List Stmt → List Mention
  | [] => []
  | s :: rest => mentions s ++ mentionsAll rest

end

end Stmt

/-- The mentions in the statements of a calculation. -/
def Body.mentions (body : Body) : List Mention := Stmt.mentionsAll body

/-- A calculation reads a name or assigns it. -/
def Body.Uses (body : Body) (name : String) : Prop :=
  .read name ∈ body.mentions ∨ .assigned name ∈ body.mentions

end Reckoner
