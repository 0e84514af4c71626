import Reckoner.Proofs.StatementDerivation

namespace Reckoner

/-- Behind every sign of division an expression begins. -/
def Divided (t : List Token) : Prop :=
  ∀ front rest, t = front ++ .operator .divide :: rest → Heads 0 rest

namespace Divided

variable {t u : List Token} {token : Token}

theorem nil : Divided [] := fun _ _ split => absurd split (by simp)

/-- Lists that are divided can be put together. An expression that begins behind a sign in the first one begins there
with the second one behind it as well. -/
theorem append (left : Divided t) (right : Divided u) : Divided (t ++ u) := by
  intro front rest split
  rcases List.append_eq_append_iff.mp split with ⟨between, rfl, behind⟩ | ⟨between, spelled, behind⟩
  · exact right between rest behind
  · cases between with
    | nil => exact right [] rest behind.symm
    | cons first between =>
      obtain ⟨rfl, rfl⟩ := List.cons.inj behind
      exact (left front between spelled).append u fun high => high

/-- What is left of a divided list behind some of its tokens is divided. -/
theorem of_append (whole : Divided (t ++ u)) : Divided u :=
  fun front rest split => whole (t ++ front) rest (by rw [split, List.append_assoc])

theorem cons (other : token ≠ .operator .divide) (behind : Divided t) : Divided (token :: t) := by
  intro front rest split
  cases front with
  | nil => exact absurd (List.cons.inj split).1 other
  | cons first front => exact behind front rest (List.cons.inj split).2

/-- The only token that asks for something behind it is the sign of division itself; all others can be put in front of a
divided list. -/
theorem divisor (heads : Heads 0 t) (behind : Divided t) : Divided (.operator .divide :: t) := by
  intro front rest split
  cases front with
  | nil =>
    cases split
    exact heads
  | cons first front => exact behind front rest (List.cons.inj split).2

theorem singleton (other : token ≠ .operator .divide) : Divided [token] := nil.cons other

theorem enclosed (left right : Delimiter) (inside : Divided t) : Divided (enclosed left t right) :=
  .cons (by nofun) (inside.append (.singleton (by nofun)))

/-- Items one after the other are divided if each of them is. It is enough to know this of items no longer than the
whole list, as an induction on lengths does. -/
theorem repeated {α : Type} {W : α → List Token → Prop} {as : List α} (items : Repeated W as t)
    (each : ∀ a u, W a u → u.length ≤ t.length → Divided u) : Divided t := by
  induction items with
  | nil => exact nil
  | cons item _ ih =>
    refine (each _ _ item (by simp)).append (ih fun a u item bound => each a u item ?_)
    rw [List.length_append]
    omega

/-- The same of items with commas between them, a trailing one included. -/
theorem separated {α : Type} {W : α → List Token → Prop} {as : List α} (items : Separated W (.delimiter .comma) as t)
    (each : ∀ a u, W a u → u.length ≤ t.length → Divided u) : Divided t := by
  induction items with
  | nil => exact nil
  | last item => exact each _ _ item (Nat.le_refl _)
  | cons item _ ih =>
    refine (each _ _ item (by simp)).append (.cons (by nofun) (ih fun a u item bound => each a u item ?_))
    rw [List.length_append, List.length_cons]
    omega

end Divided

variable {full : Bool} {limit : Nat} {e : Expr} {t : List Token}

theorem DotWritten.divided {property : String} (written : DotWritten property t) : Divided t := by
  cases written with
  | intro name => cases name <;> exact .cons (by nofun) (.singleton (by nofun))

/-- Paths hold names and points only, and there is no sign of division to look for. -/
theorem PathWritten.divided {path : Expr} (written : PathWritten path t) : Divided t := by
  induction written with
  | name id => exact .singleton (by nofun)
  | member _ dot ih => exact ih.append dot.divided

theorem Literal.token_ne_operator (value : Literal) (op : Operator) : value.token ≠ .operator op := by
  cases value with
  | bool b => cases b <;> nofun
  | _ => nofun

/-- Keys of fields are names, words, texts and numbers, and never operators. -/
theorem KeyToken.ne_operator {key : String} {token : Token} (written : KeyToken key token) (op : Operator) :
    token ≠ .operator op := by
  cases written with
  | name name => cases name <;> nofun
  | _ => nofun

theorem UnaryOp.token_ne_divide (op : UnaryOp) : op.token ≠ .operator .divide := by
  cases op <;> nofun

theorem AssignOp.token_ne_divide (op : AssignOp) : op.token ≠ .operator .divide := by
  cases op <;> nofun

/-- Behind every sign of division in an expression its right operand begins. The induction is on the number of tokens:
the parts of an expression stand at various levels, but all of them are shorter than itself. -/
theorem Written.divided (written : Written full limit e t) : Divided t := by
  induction length : t.length using Nat.strongRecOn generalizing limit e t with
  | ind n ih =>
    have part {limit : Nat} {e : Expr} {u : List Token} (inside : Written full limit e u) (shorter : u.length < n) :
        Divided u := ih u.length shorter inside rfl
    have parts {as : List Expr} {u : List Token} (items : Separated (Written full 0) (.delimiter .comma) as u)
        (shorter : u.length < n) : Divided u :=
      .separated items fun _ _ item bound => part item (Nat.lt_of_le_of_lt bound shorter)
    cases written with
    | parenthesized inside => exact .enclosed _ _ (part inside (by simp at length; omega))
    | bare _ bare =>
      cases bare with
      | literal value => exact .singleton (value.token_ne_operator _)
      | name _ => exact .singleton (by nofun)
      | this => exact .singleton (by nofun)
      | array items => exact .enclosed _ _ (parts items (by simp at length; omega))
      | object fields =>
        refine .enclosed _ _ (.separated fields fun _ _ field bound => ?_)
        simp only [length_enclosed] at length
        cases field with
        | pair key value =>
          simp only [List.length_cons] at bound
          exact .cons (key.ne_operator _) (.cons (by nofun) (part value (by omega)))
        | shorthand => exact .singleton (by nofun)
      | construct path args =>
        simp only [List.length_cons, List.length_append, length_enclosed] at length
        exact .cons (by nofun) (path.divided.append (.enclosed _ _ (parts args (by omega))))
      | constructBare _ path => exact .cons (by nofun) path.divided
      | member object dot =>
        have positive := List.length_pos_iff.mpr dot.ne_nil
        simp only [List.length_append] at length
        exact (part object (by omega)).append dot.divided
      | index object key =>
        simp only [List.length_append, length_enclosed] at length
        exact (part object (by omega)).append (.enclosed _ _ (part key (by omega)))
      | call callee args =>
        simp only [List.length_append, length_enclosed] at length
        exact (part callee (by omega)).append (.enclosed _ _ (parts args (by omega)))
      | unary op operand =>
        simp only [List.length_cons] at length
        exact .cons op.token_ne_divide (part operand (by omega))
      | binary op left right =>
        simp only [List.length_append, List.length_cons] at length
        have behind := part right (by omega)
        refine (part left (by omega)).append ?_
        by_cases division : op = .divide
        · subst division
          exact .divisor (right.mono (Nat.zero_le _)).heads behind
        · refine .cons (fun same => division ?_) behind
          cases op <;> first | rfl | exact nomatch same
      | conditional condition yes no =>
        simp only [List.length_append, List.length_cons] at length
        exact (part condition (by omega)).append
          (.cons (by nofun) ((part yes (by omega)).append (.cons (by nofun) (part no (by omega)))))
      | assign target op value =>
        simp only [List.length_cons] at length
        exact .cons (by nofun) (.cons op.token_ne_divide (part value (by omega)))

theorem EndMark.divided (mark : EndMark full t) : Divided t := by
  cases mark with
  | semicolon => exact .singleton (by nofun)
  | missing => exact .nil

/-- A declared name with its value, if it has one. -/
theorem DeclaratorWritten.divided {declarator : Declarator} (written : DeclaratorWritten full declarator t) :
    Divided t := by
  cases written with
  | plain => exact .singleton (by nofun)
  | valued _ value => exact .cons (by nofun) (.cons (by nofun) value.divided)

/-- Statements bring no sign of division of their own; what they hold is brackets, words and marks around expressions.
Again the induction is on the number of tokens, for the branches and blocks. -/
theorem StmtWritten.divided {statement : Stmt} (written : StmtWritten full statement t) : Divided t := by
  induction length : t.length using Nat.strongRecOn generalizing statement t with
  | ind n ih =>
    have part {statement : Stmt} {u : List Token} (inside : StmtWritten full statement u) (shorter : u.length < n) :
        Divided u := ih u.length shorter inside rfl
    cases written with
    | declare kind first others mark =>
      refine .cons (by nofun) (first.divided.append (.append (.repeated others fun _ _ behind _ => ?_) mark.divided))
      cases behind with
      | intro declarator => exact .cons (by nofun) declarator.divided
    | expression value _ mark => exact value.divided.append mark.divided
    | returnNothing mark => exact .cons (by nofun) mark.divided
    | returnValue value mark => exact .cons (by nofun) (value.divided.append mark.divided)
    | ifOnly condition yes =>
      simp only [List.length_append, List.length_cons] at length
      exact .cons (by nofun) (.append (.enclosed _ _ condition.divided) (part yes (by omega)))
    | ifElse condition yes no =>
      simp only [List.length_append, List.length_cons] at length
      exact .cons (by nofun) (.append (.enclosed _ _ condition.divided)
        ((part yes (by omega)).append (.cons (by nofun) (part no (by omega)))))
    | block body =>
      simp only [length_enclosed] at length
      exact .enclosed _ _ (.repeated body fun _ _ inside bound => part inside (by omega))
    | throw value mark => exact .cons (by nofun) (value.divided.append mark.divided)
    | empty => exact .singleton (by nofun)

/-- Whatever the parser accepts as a whole is divided, since it is written by the grammar. -/
theorem Grammar.body_divided {tokens : List Token} {statements : Body}
    (parsed : body tokens.toArray 0 = .ok (tokens.length, statements)) : Divided tokens :=
  .repeated (body_written parsed) fun _ _ written _ => written.divided

end Reckoner
