import Reckoner.Proofs.ParserSpelling
import Reckoner.Proofs.TokenReading

namespace Reckoner.Grammar

open Reckoner.Parser

/-- What a parser of one token gives is spelled by that token. The lemmas on single tokens come first, and those on
expressions put them together to writings by the grammar. -/
theorem keyword_spells (word : Keyword) : Spells (keyword word) fun _ t => t = [.keyword word] :=
  (equal_spells _).map id

theorem operator_spells (op : Operator) : Spells (operator op) fun _ t => t = [.operator op] :=
  (equal_spells _).map id

theorem delimiter_spells (d : Delimiter) : Spells (delimiter d) fun _ t => t = [.delimiter d] :=
  (equal_spells _).map id

/-- An identifier is given with its own name, and no word of the language is one. -/
theorem identifier_spells : Spells identifier fun name t => t = [.identifier name] := by
  refine (satisfy_spells fun {token name} made => ?_).context _
  cases token with
  | identifier _ => rw [Option.some.inj made]
  | _ => exact nomatch made

/-- The name of a property is an identifier or a word of the language by its spelling. -/
theorem propertyName_spells : Spells propertyName fun name t => ∃ token, NameToken name token ∧ t = [token] := by
  refine (satisfy_spells fun {token name} made => ?_).context _
  cases token with
  | identifier _ => exact ⟨_, Option.some.inj made ▸ .identifier _, rfl⟩
  | keyword _ => exact ⟨_, Option.some.inj made ▸ .keyword _, rfl⟩
  | _ => exact nomatch made

theorem literal_spells : Spells literal fun value t => t = [value.token] := by
  refine (satisfy_spells fun {token value} made => ?_).context _
  split at made
  all_goals cases made
  all_goals rfl

theorem assignOp_spells : Spells assignOp fun op t => t = [op.token] := by
  refine (satisfy_spells fun {token op} made => ?_).context _
  split at made
  all_goals cases made
  all_goals rfl

theorem unaryOp_spells : Spells unaryOp fun op t => t = [op.token] := by
  refine satisfy_spells fun {token op} made => ?_
  split at made
  all_goals cases made
  all_goals rfl

/-- An operator that is given belongs to the level of the table, and its own sign stands there. -/
theorem binaryOp_spells {level : Nat} {table : List (Operator × BinaryOp)} (tableOf : TableOf level table) :
    Spells (binaryOp table) fun op t => op.level = level ∧ t = [.operator op.operator] := by
  refine satisfy_spells fun {token op} made => ?_
  cases token with
  | operator sign =>
    obtain ⟨rfl, same⟩ := tableOf.of_lookup made
    exact ⟨same, rfl⟩
  | _ => exact nomatch made

theorem dot_spells : Spells (preceded dot propertyName) DotWritten := by
  refine (((operator_spells .dot).context _).preceded propertyName_spells).mono fun behind => ?_
  obtain ⟨_, name, rfl⟩ := behind
  exact .intro name

theorem comma_spells : Spells comma fun _ t => t = [.delimiter .comma] := (delimiter_spells .comma).context _

/-- Parsers behind at least one token give only what the tokens spell. -/
structure InnerSpells (inner : Inner) : Prop where
  assignment : Spells inner.assignment (Written false 0)
  power : Spells inner.power (Written false 9)
  unary : Spells inner.unary (Written false 10)

namespace Inner

variable {inner : Inner}

/-- Between two delimiters stands what the parser inside has taken, all of it and nothing else. -/
theorem enclosed_spells {α : Type} {p : Parser Token α} {W : α → List Token → Prop} (left right : Delimiter)
    (spells : Spells p W) : Spells (delimited (delimiter left) p (delimiter right))
      (Between (.delimiter left) (.delimiter right) W) :=
  (delimiter_spells left).delimited spells (delimiter_spells right)

theorem arguments_spells (spells : InnerSpells inner) :
    Spells inner.arguments (Between (.delimiter .openParen) (.delimiter .closeParen)
      (Separated (Written false 0) (.delimiter .comma))) :=
  (enclosed_spells _ _ (spells.assignment.separated comma_spells)).context _

/-- The key of a field is a name, a word, a text or a number. Words that are literals as well have one token either way.
-/
theorem objectKey_spells : Spells objectKey fun key t => ∃ token, KeyToken key token ∧ t = [token] := by
  have onName : Spells propertyName fun key t => ∃ token, KeyToken key token ∧ t = [token] :=
    propertyName_spells.mono fun ⟨token, name, here⟩ => ⟨token, .name name, here⟩
  have onLiteral : Spells (literal.map keyOfLiteral) fun key t => ∃ token, KeyToken key token ∧ t = [token] := by
    refine literal_spells.map fun {value t} here => ⟨value.token, ?_, here⟩
    cases value with
    | number x => exact .number x
    | string s => exact .string s
    | bool b =>
      cases b with
      | true => exact .name (.keyword .trueK)
      | false => exact .name (.keyword .falseK)
    | null => exact .name (.keyword .nullK)
    | undefined => exact .name (.keyword .undefinedK)
  exact onName.choice (onLiteral.choice choice_nil_spells)

/-- A field is a key with its value, or a name that stands for both. -/
theorem objectProperty_spells (spells : InnerSpells inner) : Spells inner.objectProperty (FieldWritten false) := by
  have parts := objectKey_spells.pair ((delimiter_spells .colon).pair spells.assignment)
  refine (Spells.choice (parts.map fun {result t} both => ?_)
    (Spells.choice (identifier_spells.map fun here => here ▸ .shorthand _) choice_nil_spells)).context _
  obtain ⟨⟨_, key, rfl⟩, rfl, written⟩ := both
  exact .pair key written

/-- The names behind `new` are members of members, grouped from the left. -/
theorem path_written {first : String} {properties : List String} {u : List Token}
    (dots : Repeated DotWritten properties u) :
    PathWritten (properties.foldl .member (.name first)) (.identifier first :: u) :=
  dots.foldl (W := PathWritten) (f := .member) (fun path dot => .member path dot) (.name first)

/-- Behind `new` stands a path, with arguments or without; the grammar has a form for either of the two. -/
theorem newExpression_spells (spells : InnerSpells inner) : Spells inner.newExpression (Written false 12) := by
  have parts := (keyword_spells .newK).pair (identifier_spells.pair (dot_spells.many.pair
    (arguments_spells spells).optional))
  refine (parts.map fun {result t} both => ?_).context _
  obtain ⟨rfl, rfl, dots, args⟩ := both
  rcases args with _ | ⟨⟨args⟩⟩
  · rw [List.append_nil]
    exact .bare (Nat.le_refl _) (.constructBare rfl (path_written dots))
  · exact .bare (Nat.le_refl _) (.construct (path_written dots) args)

/-- Whichever alternative succeeds has taken a writing of the tightest level. That earlier ones are preferred plays no
part in this direction: it decides which writing is found, and not whether it is one. -/
theorem primary_spells (spells : InnerSpells inner) : Spells inner.primary (Written false 12) := by
  have onLiteral : Spells (literal.map .literal) (Written false 12) :=
    literal_spells.map fun {value _} here => here ▸ .bare (Nat.le_refl _) (.literal value)
  have onName : Spells (identifier.map .name) (Written false 12) :=
    identifier_spells.map fun {name _} here => here ▸ .bare (Nat.le_refl _) (.name name)
  have onThis : Spells ((keyword .thisK).map fun _ => Expr.this) (Written false 12) :=
    (keyword_spells .thisK).map fun here => here ▸ .bare (Nat.le_refl _) .this
  have onArray : Spells inner.arrayLiteral (Written false 12) := by
    refine ((enclosed_spells _ _ (spells.assignment.separated comma_spells)).map fun between => ?_).context _
    obtain ⟨items⟩ := between
    exact .bare (Nat.le_refl _) (.array items)
  have onObject : Spells inner.objectLiteral (Written false 12) := by
    have items := (objectProperty_spells spells).separated comma_spells
    have opened : Spells openBrace fun _ t => t = [.delimiter .openBrace] := (delimiter_spells .openBrace).context _
    have braces := opened.delimited items (delimiter_spells .closeBrace)
    refine (braces.map fun between => ?_).context _
    obtain ⟨fields⟩ := between
    exact .bare (Nat.le_refl _) (.object fields)
  have onParens : Spells (delimited (delimiter .openParen) inner.expression (delimiter .closeParen))
      (Written false 12) := by
    refine (enclosed_spells _ _ (spells.assignment.context _)).mono fun between => ?_
    obtain ⟨inside⟩ := between
    exact .parenthesized inside
  exact (onLiteral.choice (onName.choice (onThis.choice ((newExpression_spells spells).choice
    (onArray.choice (onObject.choice (onParens.choice choice_nil_spells))))))).context _

theorem suffix_spells (spells : InnerSpells inner) : Spells inner.suffix (SuffixWritten false) := by
  have onMember : Spells ((preceded dot propertyName).map .member) (SuffixWritten false) :=
    dot_spells.map fun dot => .member dot
  have onIndex : Spells ((delimited (delimiter .openBracket) inner.expression
      (delimiter .closeBracket)).map .index) (SuffixWritten false) := by
    refine (enclosed_spells _ _ (spells.assignment.context _)).map fun between => ?_
    obtain ⟨key⟩ := between
    exact .index key
  have onCall : Spells (inner.arguments.map .call) (SuffixWritten false) := by
    refine (arguments_spells spells).map fun between => ?_
    obtain ⟨args⟩ := between
    exact .call args
  exact onMember.choice (onIndex.choice (onCall.choice choice_nil_spells))

theorem attach_written {object : Expr} {suffix : Suffix} {t u : List Token} (left : Written false 11 object t)
    (right : SuffixWritten false suffix u) : Written false 11 (suffix.attach object) (t ++ u) := by
  cases right with
  | member dot => exact .bare (Nat.le_refl _) (.member left dot)
  | index key => exact .bare (Nat.le_refl _) (.index left key)
  | call args => exact .bare (Nat.le_refl _) (.call left args)

/-- Suffixes are attached from the left, and each of them finds all that stands before it as its object. -/
theorem postfixExpression_spells (spells : InnerSpells inner) :
    Spells inner.postfixExpression (Written false 11) := by
  refine (((primary_spells spells).pair (suffix_spells spells).many).map fun {result t} both => ?_).context _
  obtain ⟨first, suffixes⟩ := both
  exact suffixes.foldl attach_written (first.mono (by omega))

theorem unaryExpression_spells (spells : InnerSpells inner) : Spells inner.unaryExpression (Written false 10) := by
  have onPostfix := (postfixExpression_spells spells).mono (V := Written false 10) fun written =>
    written.mono (by omega)
  refine (Spells.choice ((unaryOp_spells.pair spells.unary).map fun {result t} both => ?_)
    (onPostfix.choice choice_nil_spells)).context _
  obtain ⟨rfl, operand⟩ := both
  exact .bare (Nat.le_refl _) (.unary _ operand)

/-- Powers are grouped from the right: the exponent is a power again, while the base has to be at least a unary
expression. -/
theorem powerExpression_spells (spells : InnerSpells inner) : Spells inner.powerExpression (Written false 9) := by
  have parts := (unaryExpression_spells spells).pair ((operator_spells .power).preceded spells.power).optional
  refine (parts.map fun {result t} both => ?_).context _
  obtain ⟨base, exponent⟩ := both
  rcases exponent with _ | ⟨⟨exponent⟩⟩
  · rw [List.append_nil]
    exact base.mono (by omega)
  · exact .bare (Nat.le_refl _) (.binary .power base exponent)

/-- An operator takes its left operand at its own level and its right operand one level above, which is what groups its
level from the left. -/
theorem operand_written {level : Nat} (high : level ≤ 8) {left : Expr} {entry : BinaryOp × Expr}
    {t u : List Token} (onLeft : Written false level left t) (onRight : OperandWritten false level entry u) :
    Written false level (.binary entry.1 left entry.2) (t ++ u) := by
  obtain ⟨rfl, onRight⟩ := onRight
  obtain ⟨leftLevel, rightLevel⟩ := BinaryOp.leftLevel_eq high
  exact .bare (Nat.le_refl _) (.binary _ (leftLevel ▸ onLeft) (rightLevel ▸ onRight))

/-- A loop over the operators of a level gives a writing of this level, if the operands are writings of the level above.
All levels between powers and conditionals are instances. -/
theorem leftAssociative_spells {level : Nat} (high : level ≤ 8) {table : List (Operator × BinaryOp)}
    (tableOf : TableOf level table) {operand : Parser Token Expr} (name : String)
    (spells : Spells operand (Written false (level + 1))) :
    Spells (leftAssociative name table operand) (Written false level) := by
  have next : Spells (pair (binaryOp table) operand) (OperandWritten false level) := by
    refine ((binaryOp_spells tableOf).pair spells).mono fun both => ?_
    obtain ⟨⟨same, rfl⟩, right⟩ := both
    exact .intro same right
  refine ((spells.pair next.many).map fun {result t} both => ?_).context _
  obtain ⟨first, operands⟩ := both
  exact operands.foldl (operand_written high) (first.mono (Nat.le_succ level))

theorem multiplicative_spells (spells : InnerSpells inner) : Spells inner.multiplicative (Written false 8) :=
  leftAssociative_spells (by omega) multiplicativeTable _ (powerExpression_spells spells)

theorem additive_spells (spells : InnerSpells inner) : Spells inner.additive (Written false 7) :=
  leftAssociative_spells (by omega) additiveTable _ (multiplicative_spells spells)

theorem comparison_spells (spells : InnerSpells inner) : Spells inner.comparison (Written false 6) :=
  leftAssociative_spells (by omega) comparisonTable _ (additive_spells spells)

theorem equality_spells (spells : InnerSpells inner) : Spells inner.equality (Written false 5) :=
  leftAssociative_spells (by omega) equalityTable _ (comparison_spells spells)

theorem logicalAnd_spells (spells : InnerSpells inner) : Spells inner.logicalAnd (Written false 4) :=
  leftAssociative_spells (by omega) andTable _ (equality_spells spells)

theorem logicalOr_spells (spells : InnerSpells inner) : Spells inner.logicalOr (Written false 3) :=
  leftAssociative_spells (by omega) orTable _ (logicalAnd_spells spells)

theorem nullish_spells (spells : InnerSpells inner) : Spells inner.nullish (Written false 2) :=
  leftAssociative_spells (by omega) nullishTable _ (logicalOr_spells spells)

/-- Both branches of a conditional are assignments, whereas its condition is of the level above. -/
theorem conditional_spells (spells : InnerSpells inner) : Spells inner.conditional (Written false 1) := by
  have branches := (operator_spells .question).pair (spells.assignment.pair
    ((delimiter_spells .colon).pair spells.assignment))
  refine (((nullish_spells spells).pair branches.optional).map fun {result t} both => ?_).context _
  obtain ⟨condition, branches⟩ := both
  rcases branches with _ | ⟨rfl, yes, rfl, no⟩
  · rw [List.append_nil]
    exact condition.mono (by omega)
  · exact .bare (Nat.le_refl _) (.conditional condition yes no)

/-- An assignment is an identifier, an operator of assignment and another assignment. Where these are not found, the
conditional begins anew at the same token. -/
theorem assignmentExpression_spells (spells : InnerSpells inner) :
    Spells inner.assignmentExpression (Written false 0) := by
  have parts := identifier_spells.pair (assignOp_spells.pair spells.assignment)
  have onConditional := (conditional_spells spells).mono (V := Written false 0) fun written =>
    written.mono (by omega)
  refine (Spells.choice (parts.map fun {result t} both => ?_) (onConditional.choice choice_nil_spells)).context _
  obtain ⟨rfl, rfl, value⟩ := both
  exact .bare (Nat.le_refl _) (.assign _ _ value)

end Inner

/-- However deep the parsers may go, what they give is written. Without any depth left they give nothing. -/
theorem innerTo_spells (depth : Nat) : InnerSpells (innerTo depth) := by
  induction depth with
  | zero => exact ⟨nofun, nofun, nofun⟩
  | succ depth ih =>
    exact ⟨Inner.assignmentExpression_spells ih, Inner.powerExpression_spells ih, Inner.unaryExpression_spells ih⟩

/-- Every expression that the parser gives, from any place of any input, is written there by the grammar with exactly
the tokens that are taken. -/
theorem expression_spells : Spells expression (Written false 0) := by
  intro input pos next e given
  exact (innerTo_spells (depthFrom input pos)).assignment.context _ given

end Reckoner.Grammar
