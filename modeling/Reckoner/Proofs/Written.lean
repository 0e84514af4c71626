import Reckoner.Grammar.Statement
import Reckoner.Proofs.Repetition

/-!
How syntax trees are written as tokens. The levels of precedence are numbers, the loosest first:

    0 assignment, 1 conditional, 2 `??`, 3 `||`, 4 `&&`, 5 equality, 6 comparison, 7 additive,
    8 multiplicative, 9 `**`, 10 unary, 11 postfix, 12 primary
-/

namespace Reckoner

namespace BinaryOp

def operator : BinaryOp → Operator
  | add => .plus
  | subtract => .minus
  | multiply => .times
  | divide => .divide
  | modulo => .modulo
  | power => .power
  | looseEqual => .looseEqual
  | looseNotEqual => .looseNotEqual
  | strictEqual => .strictEqual
  | strictNotEqual => .strictNotEqual
  | less => .less
  | greater => .greater
  | lessEqual => .lessEqual
  | greaterEqual => .greaterEqual
  | and => .and
  | or => .or
  | nullish => .nullish

def level : BinaryOp → Nat
  | nullish => 2
  | or => 3
  | and => 4
  | looseEqual | looseNotEqual | strictEqual | strictNotEqual => 5
  | less | greater | lessEqual | greaterEqual => 6
  | add | subtract => 7
  | multiply | divide | modulo => 8
  | power => 9

/-- Powers are grouped from the right, all others from the left. -/
def leftLevel (op : BinaryOp) : Nat := if op = power then 10 else op.level

def rightLevel (op : BinaryOp) : Nat := if op = power then 9 else op.level + 1

end BinaryOp

def UnaryOp.token : UnaryOp → Token
  | not => .operator .not
  | negate => .operator .minus
  | plus => .operator .plus
  | typeof => .keyword .typeofK

def AssignOp.token : AssignOp → Token
  | assign => .delimiter .equal
  | add => .operator .plusAssign
  | subtract => .operator .minusAssign
  | multiply => .operator .timesAssign
  | divide => .operator .divideAssign
  | modulo => .operator .moduloAssign

def Literal.token : Literal → Token
  | number x => .number x
  | string s => .string s
  | bool true => .keyword .trueK
  | bool false => .keyword .falseK
  | null => .keyword .nullK
  | undefined => .keyword .undefinedK

def DeclarationKind.keyword : DeclarationKind → Keyword
  | letK => .letK
  | constK => .constK
  | varK => .varK

def Expr.level : Expr → Nat
  | .assign .. => 0
  | .conditional .. => 1
  | .binary op _ _ => op.level
  | .unary .. => 10
  | .member .. | .index .. | .call .. => 11
  | _ => 12

/-- Identifiers and reserved words name a property. -/
inductive NameToken : String → Token → Prop
  | identifier (name) : NameToken name (.identifier name)
  | keyword (word : Keyword) : NameToken word.word (.keyword word)

inductive KeyToken : String → Token → Prop
  | name {key token} : NameToken key token → KeyToken key token
  | string (s) : KeyToken s (.string s)
  | number (x) : KeyToken (Number.text x) (.number x)

/-- A property behind a dot. -/
inductive DotWritten : String → List Token → Prop
  | intro {property token} : NameToken property token → DotWritten property [.operator .dot, token]

/-- An identifier and properties behind dots. -/
inductive PathWritten : Expr → List Token → Prop
  | name (id) : PathWritten (.name id) [.identifier id]
  | member {path property t u} : PathWritten path t → DotWritten property u →
      PathWritten (.member path property) (t ++ u)

def enclosed (left : Delimiter) (t : List Token) (right : Delimiter) : List Token :=
  .delimiter left :: (t ++ [.delimiter right])

mutual

/-- The writings of an expression where one of at least a level is expected. In `full` ones `new` has
its argument list. -/
inductive Written (full : Bool) : Nat → Expr → List Token → Prop
  | bare {limit e t} : limit ≤ e.level → Bare full e t → Written full limit e t
  | parenthesized {limit e t} : Written full 0 e t → Written full limit e (enclosed .openParen t .closeParen)

/-- The writings of an expression that has no parentheses around it. -/
inductive Bare (full : Bool) : Expr → List Token → Prop
  | literal (value) : Bare full (.literal value) [value.token]
  | name (id) : Bare full (.name id) [.identifier id]
  | this : Bare full .this [.keyword .thisK]
  | array {items t} : Separated (Written full 0) (.delimiter .comma) items t →
      Bare full (.array items) (enclosed .openBracket t .closeBracket)
  | object {fields t} : Separated (FieldWritten full) (.delimiter .comma) fields t →
      Bare full (.object fields) (enclosed .openBrace t .closeBrace)
  | construct {callee args t u} : PathWritten callee t → Separated (Written full 0) (.delimiter .comma) args u →
      Bare full (.construct callee args) (.keyword .newK :: (t ++ enclosed .openParen u .closeParen))
  | constructBare {callee t} : full = false → PathWritten callee t →
      Bare full (.construct callee []) (.keyword .newK :: t)
  | member {object property t u} : Written full 11 object t → DotWritten property u →
      Bare full (.member object property) (t ++ u)
  | index {object key t u} : Written full 11 object t → Written full 0 key u →
      Bare full (.index object key) (t ++ enclosed .openBracket u .closeBracket)
  | call {callee args t u} : Written full 11 callee t → Separated (Written full 0) (.delimiter .comma) args u →
      Bare full (.call callee args) (t ++ enclosed .openParen u .closeParen)
  | unary {operand t} (op : UnaryOp) : Written full 10 operand t → Bare full (.unary op operand) (op.token :: t)
  | binary {left right t u} (op : BinaryOp) : Written full op.leftLevel left t →
      Written full op.rightLevel right u → Bare full (.binary op left right) (t ++ .operator op.operator :: u)
  | conditional {condition yes no t u v} : Written full 2 condition t → Written full 0 yes u →
      Written full 0 no v →
      Bare full (.conditional condition yes no) (t ++ .operator .question :: (u ++ .delimiter .colon :: v))
  | assign {value t} (target) (op : AssignOp) : Written full 0 value t →
      Bare full (.assign target op value) (.identifier target :: op.token :: t)

/-- A key and a value of an object; an identifier alone is both. -/
inductive FieldWritten (full : Bool) : String × Expr → List Token → Prop
  | pair {key value token t} : KeyToken key token → Written full 0 value t →
      FieldWritten full (key, value) (token :: .delimiter .colon :: t)
  | shorthand (name) : FieldWritten full (name, .name name) [.identifier name]

end

/-- The level of the expressions that a token continues when it stands behind one. -/
def Token.binding? : Token → Option Nat
  | .operator .dot | .delimiter .openBracket | .delimiter .openParen => some 11
  | .operator .power => some 9
  | .operator .times | .operator .divide | .operator .modulo => some 8
  | .operator .plus | .operator .minus => some 7
  | .operator .less | .operator .greater | .operator .lessEqual | .operator .greaterEqual => some 6
  | .operator .looseEqual | .operator .looseNotEqual | .operator .strictEqual | .operator .strictNotEqual => some 5
  | .operator .and => some 4
  | .operator .or => some 3
  | .operator .nullish => some 2
  | .operator .question => some 1
  | .delimiter .equal | .operator .plusAssign | .operator .minusAssign | .operator .timesAssign |
    .operator .divideAssign | .operator .moduloAssign => some 0
  | _ => none

/-- The tokens are none or begin with one that does not continue expressions of at least a level; at
level 0 it continues none at all. -/
def Ends (limit : Nat) (rest : List Token) : Prop :=
  ∀ token ∈ rest.head?, ∀ level ∈ token.binding?, level < limit

/-- What ends a simple statement; in full writings it is there. -/
inductive EndMark (full : Bool) : List Token → Prop
  | semicolon : EndMark full [.delimiter .semicolon]
  | missing : full = false → EndMark full []

inductive DeclaratorWritten (full : Bool) : Declarator → List Token → Prop
  | plain (name) : DeclaratorWritten full ⟨name, none⟩ [.identifier name]
  | valued {value t} (name) : Written full 0 value t →
      DeclaratorWritten full ⟨name, some value⟩ (.identifier name :: .delimiter .equal :: t)

/-- The writings of a statement. Full ones of expressions do not begin with a brace. -/
inductive StmtWritten (full : Bool) : Stmt → List Token → Prop
  | declare {first rest t u v} (kind : DeclarationKind) : DeclaratorWritten full first t →
      Repeated (Behind (.delimiter .comma) (DeclaratorWritten full)) rest u → EndMark full v →
      StmtWritten full (.declare kind (first :: rest)) (.keyword kind.keyword :: (t ++ (u ++ v)))
  | expression {e t v} : Written full 0 e t → (full = true → t.head? ≠ some (.delimiter .openBrace)) →
      EndMark full v → StmtWritten full (.expression e) (t ++ v)
  | returnNothing {v} : EndMark full v → StmtWritten full (.return none) (.keyword .returnK :: v)
  | returnValue {e t v} : Written full 0 e t → EndMark full v →
      StmtWritten full (.return (some e)) (.keyword .returnK :: (t ++ v))
  | ifOnly {condition yes t u} : Written full 0 condition t → StmtWritten full yes u →
      StmtWritten full (.ifElse condition yes none) (.keyword .ifK :: (enclosed .openParen t .closeParen ++ u))
  | ifElse {condition yes no t u v} : Written full 0 condition t → StmtWritten full yes u →
      StmtWritten full no v → StmtWritten full (.ifElse condition yes (some no))
        (.keyword .ifK :: (enclosed .openParen t .closeParen ++ (u ++ .keyword .elseK :: v)))
  | block {body t} : Repeated (StmtWritten full) body t →
      StmtWritten full (.block body) (enclosed .openBrace t .closeBrace)
  | throw {e t v} : Written full 0 e t → EndMark full v →
      StmtWritten full (.throw e) (.keyword .throwK :: (t ++ v))
  | empty : StmtWritten full .empty [.delimiter .semicolon]

end Reckoner
