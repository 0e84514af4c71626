import Reckoner.Parser
import Reckoner.Syntax
import Reckoner.Token.Basic

/-!
The grammar of expressions, one parser for each level of precedence, the loosest first:

    assignment     = name assign-operator assignment | conditional
    conditional    = nullish [ "?" assignment ":" assignment ]
    nullish        = or { "??" or }
    or             = and { "||" and }
    and            = equality { "&&" equality }
    equality       = comparison { ( "==" | "!=" | "===" | "!==" ) comparison }
    comparison     = additive { ( "<" | ">" | "<=" | ">=" ) additive }
    additive       = multiplicative { ( "+" | "-" ) multiplicative }
    multiplicative = power { ( "*" | "/" | "%" ) power }
    power          = unary [ "**" power ]
    unary          = ( "!" | "-" | "+" | "typeof" ) unary | postfix
    postfix        = primary { "." property | "[" expression "]" | arguments }

A level that contains itself does so behind a token at least. The parsers of one nesting depth are
therefore made from those of the depth below, and no input nests deeper than it has tokens.
-/

namespace Reckoner

instance : ToString Token := ⟨Token.text⟩

namespace Grammar

open Reckoner.Parser

def keyword (word : Keyword) : Parser Token Unit := unit (equal (.keyword word))

def operator (op : Operator) : Parser Token Unit := unit (equal (.operator op))

def delimiter (d : Delimiter) : Parser Token Unit := unit (equal (.delimiter d))

def comma : Parser Token Unit := (delimiter .comma).context "comma"

def semicolon : Parser Token Unit := (delimiter .semicolon).context "semicolon"

def dot : Parser Token Unit := (operator .dot).context "dot"

def openBrace : Parser Token Unit := (delimiter .openBrace).context "open brace"

def identifier : Parser Token String :=
  (satisfy fun
    | .identifier name => some name
    | _ => none).context "identifier"

/-- Keywords too may name a property. -/
def propertyName : Parser Token String :=
  (satisfy fun
    | .identifier name => some name
    | .keyword word => some word.word
    | _ => none).context "property name"

def literal : Parser Token Literal :=
  (satisfy fun
    | .number x => some (.number x)
    | .string s => some (.string s)
    | .keyword .trueK => some (.bool true)
    | .keyword .falseK => some (.bool false)
    | .keyword .nullK => some .null
    | .keyword .undefinedK => some .undefined
    | _ => none).context "literal"

def assignOp : Parser Token AssignOp :=
  (satisfy fun
    | .delimiter .equal => some .assign
    | .operator .plusAssign => some .add
    | .operator .minusAssign => some .subtract
    | .operator .timesAssign => some .multiply
    | .operator .divideAssign => some .divide
    | .operator .moduloAssign => some .modulo
    | _ => none).context "assignment operator"

def unaryOp : Parser Token UnaryOp :=
  satisfy fun
    | .operator .not => some .not
    | .operator .minus => some .negate
    | .operator .plus => some .plus
    | .keyword .typeofK => some .typeof
    | _ => none

/-- The operators of one level. -/
def binaryOp (table : List (Operator × BinaryOp)) : Parser Token BinaryOp :=
  satisfy fun
    | .operator op => table.lookup op
    | _ => none

/-- The parsers that levels use behind at least one token. -/
structure Inner where
  assignment : Parser Token Expr
  power : Parser Token Expr
  unary : Parser Token Expr

namespace Inner

variable (inner : Inner)

def expression : Parser Token Expr := inner.assignment.context "expression"

def «arguments» : Parser Token (List Expr) :=
  (delimited (delimiter .openParen) (separated inner.assignment comma)
    (delimiter .closeParen)).context "arguments"

/-- The name of a literal as an object key. -/
def keyOfLiteral : Literal → String
  | .string s => s
  | .number x => Number.text x
  | .bool b => if b then "true" else "false"
  | .null => "null"
  | .undefined => "undefined"

def objectKey : Parser Token String := choice [propertyName, literal.map keyOfLiteral]

/-- A key and a value; a name alone is both. -/
def objectProperty : Parser Token (String × Expr) :=
  (choice
    [(triple objectKey (delimiter .colon) inner.assignment).map fun (key, _, value) =>
        (key, value),
      identifier.map fun name => (name, .name name)]).context "object property"

def objectLiteral : Parser Token Expr :=
  ((delimited openBrace (separated inner.objectProperty comma) (delimiter .closeBrace)).map
    Expr.object).context "object literal"

def arrayLiteral : Parser Token Expr :=
  ((delimited (delimiter .openBracket) (separated inner.assignment comma)
    (delimiter .closeBracket)).map Expr.array).context "array literal"

/-- The word `new`, a path of names, and arguments, which may be missing. -/
def newExpression : Parser Token Expr :=
  ((quadruple (keyword .newK) identifier (many (preceded dot propertyName))
    (optional inner.arguments)).map fun (_, first, path, args) =>
      Expr.construct (path.foldl .member (.name first)) (args.getD [])).context "new expression"

def primary : Parser Token Expr :=
  (choice
    [literal.map .literal,
      identifier.map .name,
      (keyword .thisK).map fun _ => .this,
      inner.newExpression,
      inner.arrayLiteral,
      inner.objectLiteral,
      delimited (delimiter .openParen) inner.expression (delimiter .closeParen)]).context "primary"

/-- What follows a primary expression. -/
inductive Suffix where
  | member (property : String)
  | index (key : Expr)
  | call (args : List Expr)

def Suffix.attach (object : Expr) : Suffix → Expr
  | .member property => .member object property
  | .index key => .index object key
  | .call args => .call object args

def suffix : Parser Token Suffix :=
  choice
    [(preceded dot propertyName).map .member,
      (delimited (delimiter .openBracket) inner.expression (delimiter .closeBracket)).map .index,
      inner.arguments.map .call]

def postfixExpression : Parser Token Expr :=
  ((pair inner.primary (many inner.suffix)).map fun (first, suffixes) =>
    suffixes.foldl Suffix.attach first).context "postfix"

def unaryExpression : Parser Token Expr :=
  (choice
    [(pair unaryOp inner.unary).map fun (op, operand) => .unary op operand,
      inner.postfixExpression]).context "unary"

/-- Powers associate to the right. -/
def powerExpression : Parser Token Expr :=
  ((pair inner.unaryExpression (optional (preceded (operator .power) inner.power))).map
    fun (base, exponent) =>
      match exponent with
      | some exponent => Expr.binary .power base exponent
      | none => base).context "exponent"

/-- Operands with operators of one level between them, grouped from the left. -/
def leftAssociative (name : String) (table : List (Operator × BinaryOp))
    (operand : Parser Token Expr) : Parser Token Expr :=
  ((pair operand (many (pair (binaryOp table) operand))).map fun (first, rest) =>
    rest.foldl (fun left (op, right) => Expr.binary op left right) first).context name

def multiplicative : Parser Token Expr :=
  leftAssociative "multiplicative"
    [(.times, .multiply), (.divide, .divide), (.modulo, .modulo)] inner.powerExpression

def additive : Parser Token Expr :=
  leftAssociative "additive" [(.plus, .add), (.minus, .subtract)] inner.multiplicative

def comparison : Parser Token Expr :=
  leftAssociative "comparison"
    [(.less, .less), (.greater, .greater), (.lessEqual, .lessEqual),
      (.greaterEqual, .greaterEqual)] inner.additive

def equality : Parser Token Expr :=
  leftAssociative "equality"
    [(.looseEqual, .looseEqual), (.looseNotEqual, .looseNotEqual), (.strictEqual, .strictEqual),
      (.strictNotEqual, .strictNotEqual)] inner.comparison

def logicalAnd : Parser Token Expr :=
  leftAssociative "logical and" [(.and, .and)] inner.equality

def logicalOr : Parser Token Expr :=
  leftAssociative "logical or" [(.or, .or)] inner.logicalAnd

def nullish : Parser Token Expr :=
  leftAssociative "nullish coalescing" [(.nullish, .nullish)] inner.logicalOr

def conditional : Parser Token Expr :=
  ((pair inner.nullish
    (optional (quadruple (operator .question) inner.assignment (delimiter .colon)
      inner.assignment))).map fun (condition, branches) =>
        match branches with
        | some (_, yes, _, no) => Expr.conditional condition yes no
        | none => condition).context "conditional"

def assignmentExpression : Parser Token Expr :=
  (choice
    [(triple identifier assignOp inner.assignment).map fun (target, op, value) =>
        .assign target op value,
      inner.conditional]).context "assignment"

end Inner

mutual

/-- Assignments of at most a nesting depth. -/
def assignmentTo : Nat → Parser Token Expr
  | 0, _, pos => .error ⟨.endless, pos, none⟩
  | depth + 1, input, pos =>
    Inner.assignmentExpression ⟨assignmentTo depth, powerTo depth, unaryTo depth⟩ input pos

/-- Powers of at most a nesting depth. -/
def powerTo : Nat → Parser Token Expr
  | 0, _, pos => .error ⟨.endless, pos, none⟩
  | depth + 1, input, pos =>
    Inner.powerExpression ⟨assignmentTo depth, powerTo depth, unaryTo depth⟩ input pos

/-- Unary expressions of at most a nesting depth. -/
def unaryTo : Nat → Parser Token Expr
  | 0, _, pos => .error ⟨.endless, pos, none⟩
  | depth + 1, input, pos =>
    Inner.unaryExpression ⟨assignmentTo depth, powerTo depth, unaryTo depth⟩ input pos

end

/-- The parsers of a nesting depth. -/
def innerTo (depth : Nat) : Inner := ⟨assignmentTo depth, powerTo depth, unaryTo depth⟩

/-- A depth that no expression from a position on exceeds. -/
def depthFrom (input : Array Token) (pos : Nat) : Nat := input.size - pos + 1

def expression : Parser Token Expr := fun input pos =>
  (innerTo (depthFrom input pos)).expression input pos

/-- The arguments of a call in their parentheses. -/
def callArguments : Parser Token (List Expr) := fun input pos =>
  (innerTo (depthFrom input pos)).arguments input pos

end Grammar

end Reckoner
