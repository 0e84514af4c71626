import Reckoner.Proofs.TokenReading

namespace Reckoner.Grammar

open Reckoner.Parser

/-- The tokens do not begin an expression. -/
def NoStart (rest : List Token) : Prop := ∀ token ∈ rest.head?, token.startsExpression = false

theorem NoStart.of_head {token : Token} (other : token.startsExpression = false) (rest : List Token) :
    NoStart (token :: rest) := fun _ head => Option.some.inj head ▸ other

theorem NoStart.head_ne {token : Token} {rest : List Token} (noStart : NoStart rest)
    (starts : token.startsExpression = true) : rest.head? ≠ some token :=
  fun head => Bool.false_ne_true ((noStart token head).symm.trans starts)

/-- Parsers behind at least one token that take all writings of at most `n` tokens. -/
structure InnerReads (n : Nat) (inner : Inner) : Prop where
  assignment : ReadsAll n inner.assignment (Written true 0) (Ends 0)
  power : ReadsAll n inner.power (Written true 9) (Ends 9)
  unary : ReadsAll n inner.unary (Written true 10) (Ends 10)
  refuses : ∀ {rest}, NoStart rest → Refuses inner.assignment rest

namespace Inner

variable {n : Nat} {inner : Inner} {t rest : List Token}

/-- The parsers of the inner expressions are given for fewer tokens than the whole expression has, and so are those that
are built from them. -/
theorem expression_reads (reads : InnerReads n inner) : ReadsAll n inner.expression (Written true 0) (Ends 0) :=
  fun _ _ _ written bound ends => (reads.assignment written bound ends).context _

/-- The closing bracket is named as what follows, since the parser within has to stop in front of it. -/
theorem enclosed_reads {α : Type} {p : Parser Token α} {a : α} {left right : Delimiter}
    (read : Reads p t (.delimiter right :: rest) a) :
    Reads (delimited (delimiter left) p (delimiter right)) (enclosed left t right) rest a :=
  (delimiter_reads left _).delimited read (delimiter_reads right rest)

/-- Expressions separated by commas, in front of a closing bracket. That bracket neither begins an expression nor goes
on with one, so the list ends there. -/
theorem items_read (reads : InnerReads n inner) {items : List Expr} {right : Delimiter}
    (written : Separated (Written true 0) (.delimiter .comma) items t) (bound : t.length ≤ n)
    (noStart : (Token.delimiter right).startsExpression = false) (free : (Token.delimiter right).binding? = none)
    (other : right ≠ .comma) (rest : List Token) :
    Reads (separated inner.assignment comma) t (.delimiter right :: rest) items := by
  have apart : Refuses comma (.delimiter right :: rest) :=
    comma_refuses fun same => other (Token.delimiter.inj (Option.some.inj same))
  exact reads.assignment.separated comma_reads (fun _ => .of_free rfl _) written bound (.of_free free _)
    (reads.refuses (.of_head noStart _)) apart

theorem arguments_read (reads : InnerReads n inner) {args : List Expr}
    (written : Separated (Written true 0) (.delimiter .comma) args t) (bound : t.length ≤ n) (rest : List Token) :
    Reads inner.arguments (enclosed .openParen t .closeParen) rest args :=
  (enclosed_reads (items_read reads written bound rfl rfl (by decide) rest)).context _

/-- What does not begin with an opening parenthesis is no list of arguments. Alternatives of a choice refuse in this
way, so that the ones behind them are tried. -/
theorem arguments_refuse (other : rest.head? ≠ some (.delimiter .openParen)) : Refuses inner.arguments rest :=
  (delimiter_refuses other).delimited.context _

theorem objectKey_reads {key : String} {token : Token} (written : KeyToken key token) (rest : List Token) :
    Reads objectKey [token] rest key := by
  cases written with
  | name name => exact (propertyName_reads name rest).choice_head _
  | string =>
    have read : Reads (literal.map keyOfLiteral) [.string key] rest key := (literal_reads (.string key) rest).map _
    exact (read.choice_head []).choice_tail (propertyName_refuses (by rintro _ ⟨⟩) rest)
  | number x =>
    have read : Reads (literal.map keyOfLiteral) [.number x] rest (Number.text x) :=
      (literal_reads (.number x) rest).map _
    exact (read.choice_head []).choice_tail (propertyName_refuses (by rintro _ ⟨⟩) rest)

/-- A field is read by the alternative for pairs if it has a value. The name alone of a short form is taken by that
alternative, too, and fails there for want of a colon. -/
theorem objectProperty_reads (reads : InnerReads n inner) :
    ReadsAll (n + 2) inner.objectProperty (FieldWritten true)
      (fun rest => Ends 0 rest ∧ rest.head? ≠ some (.delimiter .colon)) := by
  intro field t rest written bound ends
  refine Reads.context ?_ _
  cases written with
  | @pair key value token t keyToken written =>
    have short : t.length ≤ n := by simpa using bound
    have read := (objectKey_reads keyToken _).pair
      ((delimiter_reads .colon _).pair (reads.assignment written short ends.1))
    exact Reads.choice_head (read.map _) _
  | shorthand name =>
    have key := objectKey_reads (.name (.identifier name)) rest
    have noPair : Refuses (triple objectKey (delimiter .colon) inner.assignment) (.identifier name :: rest) :=
      key.pair_refuses (delimiter_refuses ends.2).pair
    exact (((identifier_reads name rest).map fun name => (name, Expr.name name)).choice_head []).choice_tail
      (noPair.map _)

theorem objectProperty_refuses (rest : List Token) :
    Refuses inner.objectProperty (.delimiter .closeBrace :: rest) := by
  have noKey : Refuses objectKey (.delimiter .closeBrace :: rest) := by
    have noName : Refuses propertyName (.delimiter .closeBrace :: rest) :=
      propertyName_refuses (by rintro _ ⟨⟩) rest
    have noLiteral : Refuses literal (.delimiter .closeBrace :: rest) := literal_refuses fun value head => by
      have same := Option.some.inj head
      exact absurd (same ▸ value.startsPrimary_token) (by decide)
    exact noName.choice ((noLiteral.map _).choice (choice_nil_refuses _))
  have noShorthand : Refuses identifier (.delimiter .closeBrace :: rest) := identifier_refuses (by simp)
  exact ((noKey.pair.map _).choice ((noShorthand.map _).choice (choice_nil_refuses _))).context _

/-- The name of a member is a single token, and there is no condition on what follows it. -/
theorem dot_reads (n : Nat) : ReadsAll n (preceded dot propertyName) DotWritten fun _ => True := by
  intro property t rest written _ _
  cases written with
  | intro name => exact ((operator_reads .dot _).context _).preceded (propertyName_reads name rest)

theorem dot_refuses (other : rest.head? ≠ some (.operator .dot)) : Refuses (preceded dot propertyName) rest :=
  ((operator_refuses other).context _).preceded

/-- All members of the path are part of the callee, and the first list of arguments is that of `new`. -/
theorem newExpression_reads (reads : InnerReads n inner) {callee : Expr} {args : List Expr} {u : List Token}
    (path : PathWritten callee t) (written : Separated (Written true 0) (.delimiter .comma) args u)
    (bound : u.length ≤ n) (rest : List Token) :
    Reads inner.newExpression (.keyword .newK :: (t ++ enclosed .openParen u .closeParen)) rest
      (.construct callee args) := by
  obtain ⟨first, properties, v, dots, rfl, rfl⟩ := path.dots
  have behind : Reads (many (preceded dot propertyName)) v (enclosed .openParen u .closeParen ++ rest)
      properties :=
    (dot_reads v.length).many DotWritten.ne_nil (fun _ => trivial) dots (Nat.le_refl _) trivial
      (dot_refuses (by simp [enclosed]))
  have args := (arguments_read reads written bound rest).optional
  have read := (keyword_reads .newK _).pair ((identifier_reads first _).pair (behind.pair args))
  exact (read.map _).context _

theorem newExpression_refuses (other : rest.head? ≠ some (.keyword .newK)) : Refuses inner.newExpression rest :=
  ((keyword_refuses other).pair.map _).context _

theorem arrayLiteral_reads (reads : InnerReads n inner) {items : List Expr}
    (written : Separated (Written true 0) (.delimiter .comma) items t) (bound : t.length ≤ n) (rest : List Token) :
    Reads inner.arrayLiteral (enclosed .openBracket t .closeBracket) rest (.array items) :=
  ((enclosed_reads (items_read reads written bound rfl rfl (by decide) rest)).map _).context _

theorem arrayLiteral_refuses (other : rest.head? ≠ some (.delimiter .openBracket)) :
    Refuses inner.arrayLiteral rest :=
  ((delimiter_refuses other).delimited.map _).context _

theorem objectLiteral_reads (reads : InnerReads n inner) {fields : List (String × Expr)}
    (written : Separated (FieldWritten true) (.delimiter .comma) fields t) (bound : t.length ≤ n)
    (rest : List Token) :
    Reads inner.objectLiteral (enclosed .openBrace t .closeBrace) rest (.object fields) := by
  have read : Reads (separated inner.objectProperty comma) t (.delimiter .closeBrace :: rest) fields :=
    (objectProperty_reads reads).separated comma_reads (fun _ => ⟨.of_free rfl _, by simp⟩) written (by omega)
      ⟨.of_free rfl _, by simp⟩ (objectProperty_refuses rest) (comma_refuses (by simp))
  have opened : Reads openBrace [.delimiter .openBrace] (t ++ [.delimiter .closeBrace] ++ rest) () :=
    (delimiter_reads .openBrace _).context _
  have whole := opened.delimited (read : Reads _ t ([.delimiter .closeBrace] ++ rest) fields)
    (delimiter_reads .closeBrace rest)
  exact (whole.map _).context _

theorem objectLiteral_refuses (other : rest.head? ≠ some (.delimiter .openBrace)) :
    Refuses inner.objectLiteral rest :=
  (((delimiter_refuses other).context _).delimited.map _).context _

/-- Behind the alternatives for single words stand those for brackets. -/
theorem brackets_read {alternatives : List (Parser Token Expr)} {e : Expr} {d : Delimiter} {t : List Token}
    (read : Reads (choice alternatives) (.delimiter d :: t) rest e) :
    Reads (choice (literal.map .literal :: identifier.map .name :: ((keyword .thisK).map fun _ => Expr.this) ::
      inner.newExpression :: alternatives)) (.delimiter d :: t) rest e := by
  have noLiteral : Refuses literal (.delimiter d :: t ++ rest) :=
    literal_refuses fun value head => value.token_ne_delimiter d (Option.some.inj head).symm
  have noName : Refuses identifier (.delimiter d :: t ++ rest) := identifier_refuses (by simp)
  have noThis : Refuses (keyword .thisK) (.delimiter d :: t ++ rest) := keyword_refuses (by simp)
  have noNew : Refuses inner.newExpression (.delimiter d :: t ++ rest) := newExpression_refuses (by simp)
  exact (((read.choice_tail noNew).choice_tail (noThis.map _)).choice_tail (noName.map _)).choice_tail
    (noLiteral.map _)

/-- Seven alternatives, told apart by the first token. Each one reads its own writings after those before it have
refused. -/
theorem primary_reads (reads : InnerReads n inner) :
    ReadsAll (n + 1) inner.primary (Written true 12) fun _ => True := by
  intro e t rest written bound _
  refine Reads.context ?_ _
  cases written with
  | @parenthesized _ _ t inside =>
    rw [length_enclosed] at bound
    have read : Reads inner.expression t (.delimiter .closeParen :: rest) e :=
      expression_reads reads inside (by omega) (.of_free rfl rest)
    have noArray : Refuses inner.arrayLiteral (enclosed .openParen t .closeParen ++ rest) :=
      arrayLiteral_refuses (by simp [enclosed])
    have noObject : Refuses inner.objectLiteral (enclosed .openParen t .closeParen ++ rest) :=
      objectLiteral_refuses (by simp [enclosed])
    exact brackets_read ((((enclosed_reads read).choice_head []).choice_tail noObject).choice_tail noArray)
  | bare level bare =>
    cases bare with
    | literal value => exact ((literal_reads value rest).map _).choice_head _
    | name id =>
      have noLiteral : Refuses literal (.identifier id :: rest) :=
        literal_refuses fun value head => value.token_ne_identifier id (Option.some.inj head).symm
      exact (((identifier_reads id rest).map _).choice_head _).choice_tail (noLiteral.map _)
    | this =>
      have noLiteral : Refuses literal (.keyword .thisK :: rest) :=
        literal_refuses fun value head => value.token_ne_keyword (by decide) (Option.some.inj head).symm
      have noName : Refuses identifier (.keyword .thisK :: rest) := identifier_refuses (by simp)
      have read := ((keyword_reads .thisK rest).map fun _ => Expr.this).choice_head
        [inner.newExpression, inner.arrayLiteral, inner.objectLiteral,
          delimited (delimiter .openParen) inner.expression (delimiter .closeParen)]
      exact (read.choice_tail (noName.map _)).choice_tail (noLiteral.map _)
    | @construct callee args t u path written =>
      have shorter : u.length ≤ n := by
        rw [List.length_cons, List.length_append, length_enclosed] at bound
        omega
      have read := newExpression_reads reads path written shorter rest
      have noLiteral : Refuses literal (.keyword .newK :: (t ++ enclosed .openParen u .closeParen) ++ rest) :=
        literal_refuses fun value head => value.token_ne_keyword (by decide) (Option.some.inj head).symm
      have noName : Refuses identifier (.keyword .newK :: (t ++ enclosed .openParen u .closeParen) ++ rest) :=
        identifier_refuses (by simp)
      have noThis : Refuses (keyword .thisK)
          (.keyword .newK :: (t ++ enclosed .openParen u .closeParen) ++ rest) := keyword_refuses (by simp)
      exact (((read.choice_head _).choice_tail (noThis.map _)).choice_tail (noName.map _)).choice_tail
        (noLiteral.map _)
    | @array items t written =>
      rw [length_enclosed] at bound
      exact brackets_read ((arrayLiteral_reads reads written (by omega) rest).choice_head _)
    | @object fields t written =>
      rw [length_enclosed] at bound
      have noArray : Refuses inner.arrayLiteral (enclosed .openBrace t .closeBrace ++ rest) :=
        arrayLiteral_refuses (by simp [enclosed])
      exact brackets_read (((objectLiteral_reads reads written (by omega) rest).choice_head _).choice_tail noArray)
    | binary op =>
      have range := op.level_range
      have level : 12 ≤ op.level := level
      omega
    | constructBare impossible => cases impossible
    | _ => exact absurd level (by simp [Expr.level])

end Inner

end Reckoner.Grammar
