import Reckoner.Syntax

namespace Reckoner

namespace Stmt

/-- The declarators of `let` and `const` that belong to the scope in which a statement stands. A block
has a scope of its own. -/
def direct : Stmt → List Declarator
  | .declare .varK _ => []
  | .declare _ declarators => declarators
  | .ifElse _ yes none => direct yes
  | .ifElse _ yes (some no) => direct yes ++ direct no
  | _ => []

mutual

/-- The declarators of `var`, at any depth. They belong to the outermost scope. -/
def hoisted : Stmt → List Declarator
  | .declare .varK declarators => declarators
  | .ifElse _ yes none => hoisted yes
  | .ifElse _ yes (some no) => hoisted yes ++ hoisted no
  | .block body => hoistedAll body
  | _ => []

def hoistedAll : List Stmt → List Declarator
  | [] => []
  | s :: rest => hoisted s ++ hoistedAll rest

end

def directAll (body : List Stmt) : List Declarator := body.flatMap direct

end Stmt

/-- Of what belongs to the innermost and to the outermost scope, that which a kind of declaration
enters. -/
def DeclarationKind.entering (direct hoisted : Declarator → Prop) : DeclarationKind → Declarator → Prop
  | .varK => hoisted
  | .letK | .constK => direct

end Reckoner
