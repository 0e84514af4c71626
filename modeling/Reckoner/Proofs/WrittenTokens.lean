import Reckoner.Proofs.Written

namespace Reckoner

variable {full : Bool} {limit : Nat} {e : Expr} {t u : List Token}

@[simp]
theorem length_enclosed (left : Delimiter) (t : List Token) (right : Delimiter) :
    (enclosed left t right).length = t.length + 2 := by
  rw [enclosed, List.length_cons, List.length_append, List.length_singleton]

/-- Binary operators bind more than assignments and conditions, and less than unary operators and suffixes. -/
theorem BinaryOp.level_range (op : BinaryOp) : 2 ≤ op.level ∧ op.level ≤ 9 := by
  cases op <;> decide

theorem BinaryOp.binding?_operator (op : BinaryOp) : (Token.operator op.operator).binding? = some op.level := by
  cases op <;> rfl

/-- Only powers stand at the highest level of binary operators, and only they are grouped from the right. -/
theorem BinaryOp.eq_power {op : BinaryOp} (high : op.level = 9) : op = power := by
  cases op <;> first | rfl | exact absurd high (by decide)

theorem BinaryOp.level_le_leftLevel (op : BinaryOp) : op.level ≤ op.leftLevel := by cases op <;> decide

/-- Below powers operators are grouped from the left: the left operand may stand at the level of the operator, and the
right one stands above it. -/
theorem BinaryOp.leftLevel_eq {op : BinaryOp} (low : op.level ≤ 8) :
    op.leftLevel = op.level ∧ op.rightLevel = op.level + 1 := by
  cases op <;> first | exact ⟨rfl, rfl⟩ | exact absurd low (by decide)

theorem Expr.level_binary_ne {op : BinaryOp} {left right : Expr} {level : Nat} (out : level < 2 ∨ 9 < level) :
    (Expr.binary op left right).level ≠ level := by
  have range := op.level_range
  change op.level ≠ level
  omega

/-- What may stand at a level may stand at every lower one. -/
theorem Written.mono {lower : Nat} (written : Written full limit e t) (below : lower ≤ limit) :
    Written full lower e t := by
  cases written with
  | bare level bare => exact .bare (Nat.le_trans below level) bare
  | parenthesized inside => exact .parenthesized inside

/-- An expression stands at its own level only without parentheses. -/
theorem Written.at_or_above (written : Written full limit e t) :
    (e.level = limit ∧ Bare full e t) ∨ Written full (limit + 1) e t := by
  cases written with
  | bare level bare =>
    rcases Nat.eq_or_lt_of_le level with same | above
    · exact .inl ⟨same.symm, bare⟩
    · exact .inr (.bare above bare)
  | parenthesized inside => exact .inr (.parenthesized inside)

theorem Ends.mono {upper : Nat} {rest : List Token} (ends : Ends limit rest) (above : limit ≤ upper) :
    Ends upper rest :=
  fun token head level binds => Nat.lt_of_lt_of_le (ends token head level binds) above

theorem Ends.of_free {token : Token} (free : token.binding? = none) (rest : List Token) :
    Ends limit (token :: rest) := by
  intro _ head level binds
  obtain rfl := Option.some.inj head
  exact nomatch free.symm.trans binds

/-- A token ends an expression if it binds less than the level of the expression, or if it binds nothing at all. -/
theorem Ends.of_binding {token : Token} {level : Nat} (binding : token.binding? = some level)
    (below : level < limit) (rest : List Token) : Ends limit (token :: rest) := by
  intro _ head other binds
  obtain rfl := Option.some.inj head
  exact Option.some.inj (binding.symm.trans binds) ▸ below

theorem Ends.head_ne {token : Token} {level : Nat} {rest : List Token} (ends : Ends limit rest)
    (binding : token.binding? = some level) (above : limit ≤ level) : rest.head? ≠ some token :=
  fun head => absurd (ends token head level binding) (Nat.not_lt.mpr above)

/-- An operator of one level and its right operand. -/
inductive OperandWritten (full : Bool) (level : Nat) : BinaryOp × Expr → List Token → Prop
  | intro {op right t} : op.level = level → Written full (level + 1) right t →
      OperandWritten full level (op, right) (.operator op.operator :: t)

/-- What stands behind an expression in a postfix expression. -/
inductive SuffixWritten (full : Bool) : Grammar.Inner.Suffix → List Token → Prop
  | member {property t} : DotWritten property t → SuffixWritten full (.member property) t
  | index {key t} : Written full 0 key t → SuffixWritten full (.index key) (enclosed .openBracket t .closeBracket)
  | call {args t} : Separated (Written full 0) (.delimiter .comma) args t →
      SuffixWritten full (.call args) (enclosed .openParen t .closeParen)

theorem DotWritten.eq_cons {property : String} (written : DotWritten property t) :
    ∃ rest, t = .operator .dot :: rest := by
  cases written with
  | intro _ => exact ⟨_, rfl⟩

/-- All three kinds of suffixes begin with a token of level 11: a point, a bracket or a parenthesis. -/
theorem SuffixWritten.eq_cons {suffix : Grammar.Inner.Suffix} (written : SuffixWritten full suffix t) :
    ∃ token rest, t = token :: rest ∧ token.binding? = some 11 := by
  cases written with
  | member dot =>
    obtain ⟨rest, rfl⟩ := dot.eq_cons
    exact ⟨_, rest, rfl, rfl⟩
  | index _ => exact ⟨_, _, rfl, rfl⟩
  | call _ => exact ⟨_, _, rfl, rfl⟩

theorem DotWritten.ne_nil {property : String} (written : DotWritten property t) : t ≠ [] := by
  obtain ⟨rest, rfl⟩ := written.eq_cons
  exact List.cons_ne_nil _ _

theorem SuffixWritten.ne_nil {suffix : Grammar.Inner.Suffix} (written : SuffixWritten full suffix t) : t ≠ [] := by
  obtain ⟨token, rest, rfl, _⟩ := written.eq_cons
  exact List.cons_ne_nil _ _

theorem OperandWritten.ne_nil {level : Nat} {entry : BinaryOp × Expr}
    (written : OperandWritten full level entry t) : t ≠ [] := by
  cases written with
  | intro _ _ => exact List.cons_ne_nil _ _

/-- Operands of one level below powers, grouped from the left. -/
theorem Written.operands {level : Nat} (low : 2 ≤ level) (high : level ≤ 8) (written : Written full level e t) :
    ∃ first start rest u, Written full (level + 1) first start ∧ Repeated (OperandWritten full level) rest u ∧
      e = rest.foldl (fun left (op, right) => .binary op left right) first ∧ t = start ++ u := by
  refine exists_foldl (W := Written full level) (fun {e t} written => ?_) written
  rcases written.at_or_above with ⟨same, bare⟩ | above
  · right
    cases bare with
    | @binary left right t u op onLeft onRight =>
      have same : op.level = level := same
      have low : op.level ≤ 8 := by omega
      rw [(BinaryOp.leftLevel_eq low).1, same] at onLeft
      rw [(BinaryOp.leftLevel_eq low).2, same] at onRight
      exact ⟨left, t, (op, right), _, onLeft, .intro same onRight, List.cons_ne_nil _ _, rfl, rfl⟩
    | _ => exact absurd same (by simp only [Expr.level]; omega)
  · exact .inl above

/-- A postfix expression is taken apart into what is not one, and the suffixes behind it from the left to the right, as
the parser collects them. -/
theorem Written.suffixes (written : Written full 11 e t) :
    ∃ first start rest u, Written full 12 first start ∧ Repeated (SuffixWritten full) rest u ∧
      e = rest.foldl Grammar.Inner.Suffix.attach first ∧ t = start ++ u := by
  refine exists_foldl (W := Written full 11) (fun {e t} written => ?_) written
  rcases written.at_or_above with ⟨same, bare⟩ | above
  · right
    have suffixed {object suffix t u} (left : Written full 11 object t) (right : SuffixWritten full suffix u) :
        ∃ b' t' a u', Written full 11 b' t' ∧ SuffixWritten full a u' ∧ u' ≠ [] ∧
          suffix.attach object = a.attach b' ∧ t ++ u = t' ++ u' :=
      ⟨object, t, suffix, u, left, right, right.ne_nil, rfl, rfl⟩
    cases bare with
    | member left dot => exact suffixed left (.member dot)
    | index left key => exact suffixed left (.index key)
    | call left args => exact suffixed left (.call args)
    | binary op => exact absurd same (Expr.level_binary_ne (by omega))
    | _ => exact absurd same (by simp only [Expr.level]; omega)
  · exact .inl above

/-- The callee of `new` is a name with members, and never a call: the arguments behind it are those of `new`. -/
theorem PathWritten.dots {path : Expr} (written : PathWritten path t) :
    ∃ first rest u, Repeated DotWritten rest u ∧ path = rest.foldl .member (.name first) ∧
      t = .identifier first :: u := by
  obtain ⟨_, _, rest, u, ⟨first, rfl, rfl⟩, dots, rfl, rfl⟩ :=
    exists_foldl (W := PathWritten) (S := DotWritten) (f := .member)
      (B := fun e t => ∃ id, e = .name id ∧ t = [.identifier id]) (fun {e t} written => by
        cases written with
        | name id => exact .inl ⟨id, rfl, rfl⟩
        | member path dot => exact .inr ⟨_, _, _, _, path, dot, dot.ne_nil, rfl, rfl⟩) written
  exact ⟨first, rest, u, dots, rfl, rfl⟩

def Token.startsPrimary : Token → Bool
  | .number _ | .string _ | .identifier _ => true
  | .keyword .thisK | .keyword .newK | .keyword .trueK | .keyword .falseK | .keyword .nullK |
    .keyword .undefinedK => true
  | .delimiter .openBracket | .delimiter .openBrace | .delimiter .openParen => true
  | _ => false

def Token.startsExpression : Token → Bool
  | .operator .not | .operator .minus | .operator .plus | .keyword .typeofK => true
  | token => token.startsPrimary

theorem Token.startsExpression_of_startsPrimary {token : Token} (starts : token.startsPrimary = true) :
    token.startsExpression = true := by
  unfold startsExpression
  split
  · rfl
  · rfl
  · rfl
  · rfl
  · exact starts

/-- Tokens that begin an expression of at least a level. -/
def Heads (limit : Nat) (t : List Token) : Prop :=
  ∃ token rest, t = token :: rest ∧ token.startsExpression = true ∧ (11 ≤ limit → token.startsPrimary = true)

theorem Heads.primary {token : Token} (starts : token.startsPrimary = true) (rest : List Token) :
    Heads limit (token :: rest) :=
  ⟨token, rest, rfl, Token.startsExpression_of_startsPrimary starts, fun _ => starts⟩

/-- What begins an expression is not changed by what is put behind it. The level may fall, since below 11 also a unary
operator begins an expression. -/
theorem Heads.append {upper : Nat} (heads : Heads upper t) (u : List Token) (above : 11 ≤ limit → 11 ≤ upper) :
    Heads limit (t ++ u) := by
  obtain ⟨token, rest, rfl, starts, primary⟩ := heads
  exact ⟨token, rest ++ u, rfl, starts, fun high => primary (above high)⟩

theorem Literal.startsPrimary_token (value : Literal) : value.token.startsPrimary = true := by
  cases value with
  | bool b => cases b <;> rfl
  | _ => rfl

theorem UnaryOp.startsExpression_token (op : UnaryOp) : op.token.startsExpression = true := by
  cases op <;> rfl

/-- If the tokens begin with an identifier, no assignment operator stands behind it. -/
def NoTarget (t : List Token) : Prop :=
  ∀ name token rest, t = .identifier name :: token :: rest → token.binding? ≠ some 0

theorem NoTarget.append (free : NoTarget t) (nonempty : t ≠ [])
    (next : ∀ token ∈ u.head?, token.binding? ≠ some 0) : NoTarget (t ++ u) := by
  intro name token rest same
  match t, nonempty with
  | [_], _ =>
    have behind : u = token :: rest := (List.cons.inj same).2
    exact next token (behind ▸ rfl)
  | first :: second :: more, _ =>
    have first_eq : first = .identifier name := (List.cons.inj same).1
    have second_eq : second = token := (List.cons.inj (List.cons.inj same).2).1
    exact free name token more (by rw [first_eq, second_eq])

/-- Only a name can be an assignment target. -/
theorem NoTarget.of_head {token : Token} (other : ∀ name, token ≠ .identifier name) (rest : List Token) :
    NoTarget (token :: rest) :=
  fun name _ _ same => absurd (List.cons.inj same).1 (other name)

theorem Literal.token_ne_identifier (value : Literal) (name : String) : value.token ≠ .identifier name := by
  cases value with
  | bool b => cases b <;> nofun
  | _ => nofun

theorem Literal.token_ne_delimiter (value : Literal) (d : Delimiter) : value.token ≠ .delimiter d := by
  cases value with
  | bool b => cases b <;> nofun
  | _ => nofun

/-- Four keywords are literals. All others are told apart from these. -/
theorem Literal.token_ne_keyword (value : Literal) {word : Keyword}
    (other : word ∉ [.trueK, .falseK, .nullK, .undefinedK]) : value.token ≠ .keyword word := by
  intro same
  cases value with
  | bool b => cases b <;> exact other (by rw [← Token.keyword.inj same]; decide)
  | null => exact other (by rw [← Token.keyword.inj same]; decide)
  | undefined => exact other (by rw [← Token.keyword.inj same]; decide)
  | _ => exact nomatch same

theorem UnaryOp.token_ne_identifier (op : UnaryOp) (name : String) : op.token ≠ .identifier name := by
  cases op <;> nofun

/-- A writing begins with a token of its own, or with a shorter writing and a token behind that which
is no assignment operator. -/
theorem Written.leftmost (written : Written full limit e t) :
    (Heads limit t ∧ (1 ≤ limit → NoTarget t)) ∨
      ∃ upper first start token rest, Written full upper first start ∧ t = start ++ token :: rest ∧
        (11 ≤ limit → 11 ≤ upper) ∧ 1 ≤ upper ∧ token.binding? ≠ some 0 := by
  have own {token : Token} (starts : token.startsPrimary = true) (other : ∀ name, token ≠ .identifier name)
      (rest : List Token) : Heads limit (token :: rest) ∧ (1 ≤ limit → NoTarget (token :: rest)) :=
    ⟨.primary starts rest, fun _ => .of_head other rest⟩
  cases written with
  | parenthesized _ => exact .inl (own rfl (by simp) _)
  | bare level bare =>
    cases bare with
    | literal value => exact .inl (own value.startsPrimary_token value.token_ne_identifier _)
    | this => exact .inl (own rfl (by simp) _)
    | array _ => exact .inl (own rfl (by simp) _)
    | object _ => exact .inl (own rfl (by simp) _)
    | construct _ _ => exact .inl (own rfl (by simp) _)
    | constructBare _ _ => exact .inl (own rfl (by simp) _)
    | name _ => exact .inl ⟨.primary rfl _, fun _ _ _ _ same => nomatch same⟩
    | assign _ _ _ =>
      have level : limit ≤ 0 := level
      exact .inl ⟨.primary rfl _, fun above => by omega⟩
    | unary op _ =>
      have level : limit ≤ 10 := level
      exact .inl ⟨⟨_, _, rfl, op.startsExpression_token, fun high => by omega⟩,
        fun _ => .of_head op.token_ne_identifier _⟩
    | member object dot =>
      obtain ⟨_, rfl⟩ := dot.eq_cons
      exact .inr ⟨11, _, _, _, _, object, rfl, fun _ => Nat.le_refl _, by omega, by decide⟩
    | index object _ => exact .inr ⟨11, _, _, _, _, object, rfl, fun _ => Nat.le_refl _, by omega, by decide⟩
    | call callee _ => exact .inr ⟨11, _, _, _, _, callee, rfl, fun _ => Nat.le_refl _, by omega, by decide⟩
    | binary op left _ =>
      have range := op.level_range
      have lower := op.level_le_leftLevel
      have level : limit ≤ op.level := level
      refine .inr ⟨op.leftLevel, _, _, _, _, left, rfl, fun high => by omega, by omega, ?_⟩
      rw [op.binding?_operator]
      exact fun same => absurd (Option.some.inj same) (by omega)
    | conditional condition _ _ =>
      have level : limit ≤ 1 := level
      exact .inr ⟨2, _, _, _, _, condition, rfl, fun high => by omega, by omega, by decide⟩

/-- By strong induction on the number of tokens, as a writing begins with a token of its own or with a shorter writing.
-/
theorem Written.heads (written : Written full limit e t) : Heads limit t := by
  induction length : t.length using Nat.strongRecOn generalizing limit e t with
  | ind n ih =>
    rcases written.leftmost with ⟨heads, _⟩ | ⟨upper, first, start, token, rest, left, rfl, above, _, _⟩
    · exact heads
    · rw [List.length_append, List.length_cons] at length
      exact (ih start.length (by omega) left rfl).append _ above

theorem Written.ne_nil (written : Written full limit e t) : t ≠ [] := by
  obtain ⟨token, rest, rfl, _⟩ := written.heads
  exact List.cons_ne_nil _ _

/-- Only assignments begin with an identifier and an assignment operator. -/
theorem Written.noTarget (written : Written full limit e t) (above : 1 ≤ limit) : NoTarget t := by
  induction length : t.length using Nat.strongRecOn generalizing limit e t with
  | ind n ih =>
    rcases written.leftmost with ⟨_, free⟩ | ⟨upper, first, start, token, rest, left, rfl, _, high, next⟩
    · exact free above
    · rw [List.length_append, List.length_cons] at length
      have free := ih start.length (by omega) left high rfl
      exact free.append left.ne_nil fun _ head => Option.some.inj head ▸ next

theorem FieldWritten.ne_nil {field : String × Expr} (written : FieldWritten full field t) : t ≠ [] := by
  cases written <;> exact List.cons_ne_nil _ _

/-- Every statement has a token, if only a semicolon. -/
theorem StmtWritten.ne_nil {s : Stmt} (written : StmtWritten full s t) : t ≠ [] := by
  cases written with
  | expression written => exact List.append_ne_nil_of_left_ne_nil written.ne_nil _
  | _ => exact List.cons_ne_nil _ _

end Reckoner
