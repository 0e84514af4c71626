import Reckoner.Grammar.Expression

/-!
The grammar of statements:

    body        = { statement }
    statement   = declaration | return | if | throw | block | ";" | expression [ ";" ]
    declaration = ( "let" | "const" | "var" ) declarator { "," declarator } [ ";" ]
    declarator  = name [ "=" expression ]
    return      = "return" [ expression ] [ ";" ]
    if          = "if" "(" expression ")" statement [ "else" statement ]
    throw       = "throw" expression [ ";" ]
    block       = "{" { statement } "}"
-/

namespace Reckoner.Grammar

open Reckoner.Parser

def statementEnd : Parser Token Unit := unit (optional semicolon)

def declarationKind : Parser Token DeclarationKind :=
  satisfy fun
    | .keyword .letK => some .letK
    | .keyword .constK => some .constK
    | .keyword .varK => some .varK
    | _ => none

def declarator : Parser Token Declarator :=
  ((pair identifier (optional (preceded (delimiter .equal) expression))).map fun (name, value) =>
    Declarator.mk name value).context "declarator"

def declaration : Parser Token Stmt :=
  ((quadruple declarationKind declarator (many (preceded comma declarator)) statementEnd).map
    fun (kind, first, rest, _) => Stmt.declare kind (first :: rest)).context "declaration"

def returnStatement : Parser Token Stmt :=
  ((triple (keyword .returnK) (optional expression) statementEnd).map fun (_, value, _) =>
    Stmt.return value).context "return statement"

def throwStatement : Parser Token Stmt :=
  ((triple (keyword .throwK) expression statementEnd).map fun (_, value, _) =>
    Stmt.throw value).context "throw statement"

def emptyStatement : Parser Token Stmt := semicolon.map fun _ => .empty

def expressionStatement : Parser Token Stmt :=
  ((pair expression statementEnd).map fun (e, _) => Stmt.expression e).context
    "expression statement"

/-- A condition in parentheses, a statement, and another one behind `else`, which belongs to the
nearest condition. -/
def ifStatement (inner : Parser Token Stmt) : Parser Token Stmt :=
  ((triple
    (preceded (keyword .ifK)
      (delimited (delimiter .openParen) expression (delimiter .closeParen)))
    inner
    (optional (preceded (keyword .elseK) inner))).map fun (condition, yes, no) =>
      Stmt.ifElse condition yes no).context "if statement"

def block (inner : Parser Token Stmt) : Parser Token Stmt :=
  ((delimited openBrace (many inner) (delimiter .closeBrace)).map Stmt.block).context "block"

def statementWith (inner : Parser Token Stmt) : Parser Token Stmt :=
  (choice
    [declaration, returnStatement, ifStatement inner, throwStatement, block inner, emptyStatement,
      expressionStatement]).context "statement"

/-- Statements of at most a nesting depth. -/
def statementTo : Nat → Parser Token Stmt
  | 0, _, pos => .error ⟨.endless, pos, none⟩
  | depth + 1, input, pos => statementWith (statementTo depth) input pos

def statement : Parser Token Stmt := fun input pos =>
  statementTo (depthFrom input pos) input pos

def body : Parser Token Body := (many statement).context "function body"

end Reckoner.Grammar
