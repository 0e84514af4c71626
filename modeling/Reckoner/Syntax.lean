import Reckoner.Number.Text

namespace Reckoner

inductive Literal where
  | number (x : Float)
  | string (s : String)
  | bool (b : Bool)
  | null
  | undefined
deriving DecidableEq

inductive UnaryOp where
  | not | negate | plus | typeof
deriving DecidableEq, Repr

inductive BinaryOp where
  | add | subtract | multiply | divide | modulo | power
  | looseEqual | looseNotEqual | strictEqual | strictNotEqual
  | less | greater | lessEqual | greaterEqual
  | and | or | nullish
deriving DecidableEq, Repr

/-- Plain assignment, or assignment of the result of an operation on the target. -/
inductive AssignOp where
  | assign | add | subtract | multiply | divide | modulo
deriving DecidableEq, Repr

inductive Expr where
  | literal (value : Literal)
  | name (id : String)
  | this
  | array (items : List Expr)
  | object (fields : List (String × Expr))
  | member (object : Expr) (property : String)
  | index (object key : Expr)
  | call (callee : Expr) (args : List Expr)
  | construct (callee : Expr) (args : List Expr)
  | unary (op : UnaryOp) (operand : Expr)
  | binary (op : BinaryOp) (left right : Expr)
  | conditional (condition yes no : Expr)
  | assign (target : String) (op : AssignOp) (value : Expr)

inductive DeclarationKind where
  | letK | constK | varK
deriving DecidableEq, Repr

structure Declarator where
  name : String
  value : Option Expr

inductive Stmt where
  | declare (kind : DeclarationKind) (declarators : List Declarator)
  | expression (e : Expr)
  | return (value : Option Expr)
  | ifElse (condition : Expr) (yes : Stmt) (no : Option Stmt)
  | block (body : List Stmt)
  | throw (e : Expr)
  | empty

/-- The statements of a calculation. -/
abbrev Body := List Stmt

namespace UnaryOp

def symbol : UnaryOp → String
  | not => "!"
  | negate => "-"
  | plus => "+"
  | typeof => "typeof"

end UnaryOp

namespace BinaryOp

def symbol : BinaryOp → String
  | add => "+"
  | subtract => "-"
  | multiply => "*"
  | divide => "/"
  | modulo => "%"
  | power => "**"
  | looseEqual => "=="
  | looseNotEqual => "!="
  | strictEqual => "==="
  | strictNotEqual => "!=="
  | less => "<"
  | greater => ">"
  | lessEqual => "<="
  | greaterEqual => ">="
  | and => "&&"
  | or => "||"
  | nullish => "??"

end BinaryOp

namespace AssignOp

def symbol : AssignOp → String
  | assign => "="
  | add => "+="
  | subtract => "-="
  | multiply => "*="
  | divide => "/="
  | modulo => "%="

/-- The operation of a compound assignment. -/
def operation? : AssignOp → Option BinaryOp
  | assign => none
  | add => some .add
  | subtract => some .subtract
  | multiply => some .multiply
  | divide => some .divide
  | modulo => some .modulo

end AssignOp

namespace DeclarationKind

def word : DeclarationKind → String
  | letK => "let"
  | constK => "const"
  | varK => "var"

end DeclarationKind

/-- The name of an expression in error messages. -/
def Expr.describe : Expr → String
  | .name id => id
  | .this => "this"
  | .member target property => target.describe ++ "." ++ property
  | .index target _ => target.describe ++ "[...]"
  | .call callee _ => callee.describe ++ "(...)"
  | .literal (.string s) => "\"" ++ s ++ "\""
  | .literal (.number x) => Number.Layout.unscaled.render x
  | _ => "expression"

end Reckoner
