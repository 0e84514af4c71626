import Reckoner.Proofs.PrimaryReading

namespace Reckoner.Grammar

open Reckoner.Parser

namespace Inner

variable {n : Nat} {inner : Inner} {t rest : List Token}

/-- Each suffix begins with a token of its own, by which the alternatives before its own one refuse it. Nothing is asked
of what stands behind. -/
theorem suffix_reads (reads : InnerReads n inner) :
    ReadsAll (n + 1) inner.suffix (SuffixWritten true) fun _ => True := by
  intro suffix t rest written bound _
  cases written with
  | member dot => exact ((dot_reads t.length dot (Nat.le_refl _) trivial).map _).choice_head _
  | @index key t written =>
    rw [length_enclosed] at bound
    have inside : Reads inner.expression t (.delimiter .closeBracket :: rest) key :=
      expression_reads reads written (by omega) (.of_free rfl rest)
    have noDot : Refuses (preceded dot propertyName) (enclosed .openBracket t .closeBracket ++ rest) :=
      dot_refuses (by simp [enclosed])
    exact (((enclosed_reads inside).map _).choice_head _).choice_tail (noDot.map _)
  | @call args t written =>
    rw [length_enclosed] at bound
    have noDot : Refuses (preceded dot propertyName) (enclosed .openParen t .closeParen ++ rest) :=
      dot_refuses (by simp [enclosed])
    have noIndex : Refuses (delimited (delimiter .openBracket) inner.expression (delimiter .closeBracket))
        (enclosed .openParen t .closeParen ++ rest) := (delimiter_refuses (by simp [enclosed])).delimited
    have read := (arguments_read reads written (by omega) rest).map Suffix.call
    exact ((read.choice_head _).choice_tail (noIndex.map _)).choice_tail (noDot.map _)

/-- Where a postfix expression ends, no alternative finds the token that it begins with. -/
theorem suffix_refuses (ends : Ends 11 rest) : Refuses inner.suffix rest := by
  have noDot : Refuses (preceded dot propertyName) rest := dot_refuses (ends.head_ne rfl (Nat.le_refl _))
  have noIndex : Refuses (delimited (delimiter .openBracket) inner.expression (delimiter .closeBracket)) rest :=
    (delimiter_refuses (ends.head_ne rfl (Nat.le_refl _))).delimited
  have noCall : Refuses inner.arguments rest := arguments_refuse (ends.head_ne rfl (Nat.le_refl _))
  exact (noDot.map _).choice ((noIndex.map _).choice ((noCall.map _).choice (choice_nil_refuses _)))

/-- A postfix expression is taken apart into its first part and the suffixes behind, which is the way in which the loop
takes it. -/
theorem postfixExpression_reads (reads : InnerReads n inner) :
    ReadsAll (n + 1) inner.postfixExpression (Written true 11) (Ends 11) := by
  intro e t rest written bound ends
  obtain ⟨first, start, suffixes, u, primary, items, rfl, rfl⟩ := written.suffixes
  rw [List.length_append] at bound
  have behind := (suffix_reads reads).many SuffixWritten.ne_nil (fun _ => trivial) items (by omega) trivial
    (suffix_refuses ends)
  exact (((primary_reads reads primary (by omega) trivial).pair behind).map _).context _

/-- An operand without an operator in front begins with a token that no unary operator has, so that the first
alternative fails on it. -/
theorem unaryExpression_reads (reads : InnerReads n inner) :
    ReadsAll (n + 1) inner.unaryExpression (Written true 10) (Ends 10) := by
  intro e t rest written bound ends
  refine Reads.context ?_ _
  rcases written.at_or_above with ⟨same, bare⟩ | above
  · cases bare with
    | @unary operand t op operand =>
      have read := reads.unary operand (Nat.le_of_succ_le_succ bound) ends
      exact (((unaryOp_reads op _).pair read).map _).choice_head _
    | binary op => exact absurd same (Expr.level_binary_ne (by omega))
    | _ => exact absurd same (by simp [Expr.level])
  · have read := postfixExpression_reads reads above bound (ends.mono (by omega))
    obtain ⟨token, tail, rfl, _, primary⟩ := above.heads
    have noOp : Refuses unaryOp (token :: tail ++ rest) := unaryOp_refuses fun op head => by
      have same := Option.some.inj head
      have starts := primary (Nat.le_refl _)
      rw [same] at starts
      cases op <;> exact absurd starts (by decide)
    exact (read.choice_head []).choice_tail (noOp.pair.map _)

/-- The exponent is read at the level of powers again, which groups them from the right. Where there is none, whatever
stands behind the base is no operator of powers. -/
theorem powerExpression_reads (reads : InnerReads n inner) :
    ReadsAll (n + 1) inner.powerExpression (Written true 9) (Ends 9) := by
  intro e t rest written bound ends
  refine Reads.context ?_ _
  rcases written.at_or_above with ⟨same, bare⟩ | above
  · cases bare with
    | @binary left right t u op onLeft onRight =>
      obtain rfl := BinaryOp.eq_power same
      rw [List.length_append, List.length_cons] at bound
      have base := unaryExpression_reads reads onLeft (by omega)
        (.of_binding (show (Token.operator .power).binding? = some 9 from rfl) (by omega) (u ++ rest))
      have exponent := (operator_reads .power _).preceded (reads.power onRight (by omega) ends)
      exact (base.pair exponent.optional).map _
    | _ => exact absurd same (by simp [Expr.level])
  · have base := unaryExpression_reads reads above bound (ends.mono (by omega))
    have noPower : Refuses (preceded (operator .power) inner.power) rest :=
      (operator_refuses (ends.head_ne rfl (Nat.le_refl _))).preceded
    have read := base.pair noPower.optional
    rw [List.append_nil] at read
    exact read.map _

/-- A level of operators above one that takes its operands. Every operand stands in front of an operator of this level
or of the end, and neither of the two continues it. -/
theorem leftAssociative_reads {level : Nat} (low : 2 ≤ level) (high : level ≤ 8)
    {table : List (Operator × BinaryOp)} (tableOf : TableOf level table) {operand : Parser Token Expr}
    (name : String) (reads : ReadsAll n operand (Written true (level + 1)) (Ends (level + 1))) :
    ReadsAll n (leftAssociative name table operand) (Written true level) (Ends level) := by
  intro e t rest written bound ends
  obtain ⟨first, start, operands, u, above, items, rfl, rfl⟩ := written.operands low high
  rw [List.length_append] at bound
  have next : ReadsAll n (pair (binaryOp table) operand) (OperandWritten true level) (Ends (level + 1)) := by
    intro _ t rest written bound ends
    cases written with
    | intro same right => exact (binaryOp_reads tableOf same _).pair (reads right (Nat.le_of_succ_le bound) ends)
  have operandEnds : ∀ {entry t rest}, OperandWritten true level entry t → Ends (level + 1) (t ++ rest) := by
    intro entry t rest written
    cases written with
    | @intro op _ _ same _ => exact .of_binding op.binding?_operator (by omega) _
  have last : Ends (level + 1) rest := ends.mono (Nat.le_succ level)
  have behind := next.many OperandWritten.ne_nil operandEnds items (by omega) last
    (binaryOp_refuses tableOf ends).pair
  have read := reads above (by omega) (items.follow operandEnds last)
  exact ((read.pair behind).map _).context _

theorem multiplicative_reads (reads : InnerReads n inner) :
    ReadsAll (n + 1) inner.multiplicative (Written true 8) (Ends 8) :=
  leftAssociative_reads (by omega) (by omega) multiplicativeTable _ (powerExpression_reads reads)

theorem additive_reads (reads : InnerReads n inner) : ReadsAll (n + 1) inner.additive (Written true 7) (Ends 7) :=
  leftAssociative_reads (by omega) (by omega) additiveTable _ (multiplicative_reads reads)

theorem comparison_reads (reads : InnerReads n inner) :
    ReadsAll (n + 1) inner.comparison (Written true 6) (Ends 6) :=
  leftAssociative_reads (by omega) (by omega) comparisonTable _ (additive_reads reads)

theorem equality_reads (reads : InnerReads n inner) : ReadsAll (n + 1) inner.equality (Written true 5) (Ends 5) :=
  leftAssociative_reads (by omega) (by omega) equalityTable _ (comparison_reads reads)

theorem logicalAnd_reads (reads : InnerReads n inner) :
    ReadsAll (n + 1) inner.logicalAnd (Written true 4) (Ends 4) :=
  leftAssociative_reads (by omega) (by omega) andTable _ (equality_reads reads)

theorem logicalOr_reads (reads : InnerReads n inner) :
    ReadsAll (n + 1) inner.logicalOr (Written true 3) (Ends 3) :=
  leftAssociative_reads (by omega) (by omega) orTable _ (logicalAnd_reads reads)

theorem nullish_reads (reads : InnerReads n inner) : ReadsAll (n + 1) inner.nullish (Written true 2) (Ends 2) :=
  leftAssociative_reads (by omega) (by omega) nullishTable _ (logicalOr_reads reads)

/-- The last branch is an assignment, so that only what continues no assignment can follow. -/
theorem conditional_reads (reads : InnerReads n inner) :
    ReadsAll (n + 1) inner.conditional (Written true 1) (Ends 0) := by
  intro e t rest written bound ends
  refine Reads.context ?_ _
  rcases written.at_or_above with ⟨same, bare⟩ | above
  · cases bare with
    | @conditional condition yes no t u v onCondition onYes onNo =>
      rw [List.length_append, List.length_cons, List.length_append, List.length_cons] at bound
      have condition := nullish_reads reads onCondition (by omega)
        (.of_binding (show (Token.operator .question).binding? = some 1 from rfl) (by omega)
          (u ++ .delimiter .colon :: v ++ rest))
      have first := reads.assignment onYes (by omega)
        (.of_free (show (Token.delimiter .colon).binding? = none from rfl) (v ++ rest))
      have second := reads.assignment onNo (by omega) ends
      have branches := (operator_reads .question _).pair (first.pair ((delimiter_reads .colon _).pair second))
      exact (condition.pair branches.optional).map _
    | binary op => exact absurd same (Expr.level_binary_ne (by omega))
    | _ => exact absurd same (by simp [Expr.level])
  · have condition := nullish_reads reads above bound (ends.mono (by omega))
    have noBranches : Refuses (quadruple (operator .question) inner.assignment (delimiter .colon) inner.assignment)
        rest := (operator_refuses (ends.head_ne rfl (by omega))).pair
    have read := condition.pair noBranches.optional
    rw [List.append_nil] at read
    exact read.map _

/-- The alternative for assignments fails unless an identifier stands in front and an operator of assignment behind it.
-/
theorem target_refuses {α : Type} (noTarget : NoTarget t) (value : Parser Token α) :
    Refuses (triple identifier assignOp value) t := by
  cases t with
  | nil => exact (identifier_refuses (by simp)).pair
  | cons token behind =>
    cases token with
    | identifier name =>
      have noAssign : Refuses assignOp behind := assignOp_refuses fun token head => by
        cases behind with
        | nil => exact nomatch head
        | cons second more => exact noTarget name token more (by rw [Option.some.inj head])
      exact (identifier_reads name behind).pair_refuses noAssign.pair
    | _ => exact (identifier_refuses (by simp)).pair

/-- The alternative for assignments is tried first. Where a conditional is written, it fails at the latest behind an
identifier, and the conditional is read from the same place. -/
theorem assignmentExpression_reads (reads : InnerReads n inner) :
    ReadsAll (n + 1) inner.assignmentExpression (Written true 0) (Ends 0) := by
  intro e t rest written bound ends
  refine Reads.context ?_ _
  rcases written.at_or_above with ⟨same, bare⟩ | above
  · cases bare with
    | @assign value t target op onValue =>
      rw [List.length_cons, List.length_cons] at bound
      have read := (identifier_reads target _).pair ((assignOp_reads op _).pair
        (reads.assignment onValue (by omega) ends))
      exact (read.map _).choice_head _
    | binary op => exact absurd same (Expr.level_binary_ne (by omega))
    | _ => exact absurd same (by simp [Expr.level])
  · have read := conditional_reads reads above bound ends
    have noTarget : NoTarget (t ++ rest) := (above.noTarget (Nat.le_refl _)).append above.ne_nil
      fun token head binds => Nat.not_lt_zero 0 (ends token head 0 binds)
    exact (read.choice_head []).choice_tail ((target_refuses noTarget _).map _)

/-- A token that begins no expression is refused by every alternative. -/
theorem primary_refuses (noStart : NoStart rest) : Refuses inner.primary rest := by
  have noLiteral : Refuses literal rest := literal_refuses fun value =>
    noStart.head_ne (Token.startsExpression_of_startsPrimary value.startsPrimary_token)
  have noName : Refuses identifier rest := identifier_refuses fun _ => noStart.head_ne rfl
  have noThis : Refuses (keyword .thisK) rest := keyword_refuses (noStart.head_ne rfl)
  have noNew : Refuses inner.newExpression rest := newExpression_refuses (noStart.head_ne rfl)
  have noArray : Refuses inner.arrayLiteral rest := arrayLiteral_refuses (noStart.head_ne rfl)
  have noObject : Refuses inner.objectLiteral rest := objectLiteral_refuses (noStart.head_ne rfl)
  have noParen : Refuses (delimited (delimiter .openParen) inner.expression (delimiter .closeParen)) rest :=
    (delimiter_refuses (noStart.head_ne rfl)).delimited
  exact ((noLiteral.map _).choice ((noName.map _).choice ((noThis.map _).choice (noNew.choice (noArray.choice
    (noObject.choice (noParen.choice (choice_nil_refuses _)))))))).context _

theorem leftAssociative_refuses {operand : Parser Token Expr} (refused : Refuses operand rest) (name : String)
    (table : List (Operator × BinaryOp)) : Refuses (leftAssociative name table operand) rest :=
  (refused.pair.map _).context _

/-- So all levels refuse it, one after the other from the tightest to the loosest: none of them can do without a first
operand. -/
theorem assignmentExpression_refuses (noStart : NoStart rest) : Refuses inner.assignmentExpression rest := by
  have noOp : Refuses unaryOp rest := unaryOp_refuses fun op => noStart.head_ne op.startsExpression_token
  have noPostfix : Refuses inner.postfixExpression rest := ((primary_refuses noStart).pair.map _).context _
  have noUnary : Refuses inner.unaryExpression rest :=
    ((noOp.pair.map _).choice (noPostfix.choice (choice_nil_refuses _))).context _
  have noPower : Refuses inner.powerExpression rest := (noUnary.pair.map _).context _
  have noNullish : Refuses inner.nullish rest :=
    leftAssociative_refuses (leftAssociative_refuses (leftAssociative_refuses (leftAssociative_refuses
      (leftAssociative_refuses (leftAssociative_refuses (leftAssociative_refuses noPower _ _) _ _) _ _) _ _) _ _)
      _ _) _ _
  have noConditional : Refuses inner.conditional rest := (noNullish.pair.map _).context _
  have noTarget : Refuses (triple identifier assignOp inner.assignment) rest :=
    (identifier_refuses fun _ => noStart.head_ne rfl).pair
  exact ((noTarget.map _).choice (noConditional.choice (choice_nil_refuses _))).context _

end Inner

/-- Parsers of some depth take all writings that are no longer than that. No writing is empty, so that there is nothing
to show for the depth zero, and one token at least stands before whatever a level has inside. -/
theorem innerTo_reads (depth : Nat) : InnerReads depth (innerTo depth) := by
  induction depth with
  | zero =>
    have nothing {limit : Nat} {p : Parser Token Expr} : ReadsAll 0 p (Written true limit) (Ends limit) :=
      fun _ _ _ written bound _ => absurd (List.eq_nil_of_length_eq_zero (Nat.le_zero.mp bound)) written.ne_nil
    exact ⟨nothing, nothing, nothing, fun _ _ _ _ => ⟨_, rfl⟩⟩
  | succ depth ih =>
    exact ⟨Inner.assignmentExpression_reads ih, Inner.powerExpression_reads ih, Inner.unaryExpression_reads ih,
      Inner.assignmentExpression_refuses⟩

/-- A writing of an expression is read in any input, if nothing that stands behind it continues it. The parser may go as
deep as there are tokens left, which is deep enough for all of them. -/
theorem expression_reads {e : Expr} {t rest : List Token} (written : Written true 0 e t) (ends : Ends 0 rest) :
    Reads expression t rest e := by
  intro input pos here
  have room : t.length ≤ depthFrom input pos := Nat.le_succ_of_le (length_of_drop here)
  exact Inner.expression_reads (innerTo_reads _) written room ends here

theorem expression_refuses {rest : List Token} (noStart : NoStart rest) : Refuses expression rest := by
  intro input pos here
  exact ((innerTo_reads (depthFrom input pos)).refuses noStart).context _ here

end Reckoner.Grammar
