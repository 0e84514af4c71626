import Reckoner.Proofs.BuiltParsers
import Reckoner.Proofs.StatementDerivation

namespace Reckoner

namespace Parser

variable {τ α : Type}

/-- Repeating what takes an item at every success, one stops only where it fails. -/
theorem Bounded.many_stops {p : Parser τ α} (bounded : Bounded p) (consumes : Consumes p) {input : Array τ} {pos : Nat}
    (inside : pos ≤ input.size) : ∃ last items fault, Parser.many p input pos = .ok (last, items) ∧
      (pos ≤ last ∧ last ≤ input.size) ∧ p input last = .error fault := by
  obtain ⟨last, items, given, stops⟩ := bounded.forward.exists_many inside
  cases behind : p input last with
  | error fault => exact ⟨last, items, fault, given, stops.inside, behind⟩
  | ok result => exact absurd ⟨behind, Nat.ne_of_gt (consumes behind)⟩ (stops.halts result.1 result.2)

end Parser

namespace Grammar

open Reckoner.Parser

/-- Parsers of tokens that are put together from the combinators and repeat only what takes a token. -/
abbrev Progressive {α : Type} (p : Parser Token α) : Prop := Built (fun _ => Consumes) p

/-- Parsers of one token are built from the basic combinators without any repetition. So everything depends on the
loops, whose items have to take a token. -/
theorem keyword_progressive (word : Keyword) : Progressive (keyword word) := (Built.equal _).unit

theorem operator_progressive (op : Operator) : Progressive (operator op) := (Built.equal _).unit

theorem delimiter_progressive (d : Delimiter) : Progressive (delimiter d) := (Built.equal _).unit

theorem semicolon_progressive : Progressive semicolon := (delimiter_progressive _).context _

theorem identifier_progressive : Progressive identifier := (Built.satisfy _).context _

theorem literal_progressive : Progressive literal := (Built.satisfy _).context _

theorem dotted_progressive : Progressive (preceded dot propertyName) :=
  ((operator_progressive .dot).context _).preceded ((Built.satisfy _).context _)

/-- A list with commas, whose items take a token each. So do the separators. -/
theorem listed_progressive {α : Type} {p : Parser Token α} (progressive : Progressive p) (consumes : Consumes p) :
    Progressive (separated p comma) :=
  progressive.separated consumes ((delimiter_progressive _).context _) comma_spells.consumes_one

theorem enclosed_progressive {α : Type} {p : Parser Token α} (left right : Delimiter) (progressive : Progressive p) :
    Progressive (delimited (delimiter left) p (delimiter right)) :=
  (delimiter_progressive left).delimited progressive (delimiter_progressive right)

/-- The parsers of a level repeat only what takes a token. -/
structure InnerProgressive (inner : Inner) : Prop where
  spells : InnerSpells inner
  assignment : Progressive inner.assignment
  power : Progressive inner.power
  unary : Progressive inner.unary

namespace Inner

variable {inner : Inner}

theorem arguments_progressive (progressive : InnerProgressive inner) : Progressive inner.arguments :=
  (enclosed_progressive _ _ (listed_progressive progressive.assignment
    (progressive.spells.assignment.consumes Written.ne_nil))).context _

theorem objectKey_progressive : Progressive objectKey := by
  refine .choice ?_
  simp only [List.forall_mem_cons]
  exact ⟨(Built.satisfy _).context _, literal_progressive.map _, nofun⟩

theorem objectProperty_progressive (progressive : InnerProgressive inner) : Progressive inner.objectProperty := by
  refine (Built.choice ?_).context _
  simp only [List.forall_mem_cons]
  exact ⟨(objectKey_progressive.triple (delimiter_progressive _) progressive.assignment).map _,
    identifier_progressive.map _, nofun⟩

theorem newExpression_progressive (progressive : InnerProgressive inner) : Progressive inner.newExpression := by
  have path := dotted_progressive.many (dot_spells.consumes DotWritten.ne_nil)
  have arguments := (arguments_progressive progressive).optional
  exact (((keyword_progressive _).quadruple identifier_progressive path arguments).map _).context _

theorem primary_progressive (progressive : InnerProgressive inner) : Progressive inner.primary := by
  refine (Built.choice ?_).context _
  simp only [List.forall_mem_cons]
  refine ⟨literal_progressive.map _, identifier_progressive.map _, (keyword_progressive _).map _,
    newExpression_progressive progressive, ?array, ?object,
    enclosed_progressive _ _ (progressive.assignment.context _), nofun⟩
  case array =>
    have items := listed_progressive progressive.assignment (progressive.spells.assignment.consumes Written.ne_nil)
    exact ((enclosed_progressive _ _ items).map _).context _
  case object =>
    have fields := listed_progressive (objectProperty_progressive progressive)
      ((objectProperty_spells progressive.spells).consumes FieldWritten.ne_nil)
    exact ((((delimiter_progressive _).context _).delimited fields (delimiter_progressive _)).map _).context _

theorem suffix_progressive (progressive : InnerProgressive inner) : Progressive inner.suffix := by
  refine .choice ?_
  simp only [List.forall_mem_cons]
  exact ⟨dotted_progressive.map _, (enclosed_progressive _ _ (progressive.assignment.context _)).map _,
    (arguments_progressive progressive).map _, nofun⟩

theorem postfixExpression_progressive (progressive : InnerProgressive inner) :
    Progressive inner.postfixExpression := by
  have suffixes := (suffix_progressive progressive).many
    ((suffix_spells progressive.spells).consumes SuffixWritten.ne_nil)
  exact (((primary_progressive progressive).pair suffixes).map _).context _

theorem unaryExpression_progressive (progressive : InnerProgressive inner) : Progressive inner.unaryExpression := by
  refine (Built.choice ?_).context _
  simp only [List.forall_mem_cons]
  exact ⟨((Built.satisfy _).pair progressive.unary).map _, postfixExpression_progressive progressive, nofun⟩

theorem powerExpression_progressive (progressive : InnerProgressive inner) : Progressive inner.powerExpression := by
  have exponent := ((operator_progressive .power).preceded progressive.power).optional
  exact (((unaryExpression_progressive progressive).pair exponent).map _).context _

/-- An operator and its right operand take the operator at least. -/
theorem leftAssociative_progressive {W : Expr → List Token → Prop} (name : String)
    (table : List (Operator × BinaryOp)) {operand : Parser Token Expr} (progressive : Progressive operand)
    (spells : Spells operand W) : Progressive (leftAssociative name table operand) := by
  have mark : Spells (binaryOp table) fun _ t => t ≠ [] := satisfy_spells fun _ => List.cons_ne_nil _ _
  have consumes : Consumes (pair (binaryOp table) operand) := by
    refine (mark.pair spells).consumes fun both => ?_
    obtain ⟨nonempty, -⟩ := both
    exact List.append_ne_nil_of_left_ne_nil nonempty _
  have operands := ((Built.satisfy _).pair progressive).many consumes
  exact ((progressive.pair operands).map _).context _

theorem multiplicative_progressive (progressive : InnerProgressive inner) : Progressive inner.multiplicative :=
  leftAssociative_progressive _ _ (powerExpression_progressive progressive) (powerExpression_spells progressive.spells)

theorem additive_progressive (progressive : InnerProgressive inner) : Progressive inner.additive :=
  leftAssociative_progressive _ _ (multiplicative_progressive progressive) (multiplicative_spells progressive.spells)

theorem comparison_progressive (progressive : InnerProgressive inner) : Progressive inner.comparison :=
  leftAssociative_progressive _ _ (additive_progressive progressive) (additive_spells progressive.spells)

theorem equality_progressive (progressive : InnerProgressive inner) : Progressive inner.equality :=
  leftAssociative_progressive _ _ (comparison_progressive progressive) (comparison_spells progressive.spells)

theorem logicalAnd_progressive (progressive : InnerProgressive inner) : Progressive inner.logicalAnd :=
  leftAssociative_progressive _ _ (equality_progressive progressive) (equality_spells progressive.spells)

theorem logicalOr_progressive (progressive : InnerProgressive inner) : Progressive inner.logicalOr :=
  leftAssociative_progressive _ _ (logicalAnd_progressive progressive) (logicalAnd_spells progressive.spells)

theorem nullish_progressive (progressive : InnerProgressive inner) : Progressive inner.nullish :=
  leftAssociative_progressive _ _ (logicalOr_progressive progressive) (logicalOr_spells progressive.spells)

theorem conditional_progressive (progressive : InnerProgressive inner) : Progressive inner.conditional := by
  have branches := (operator_progressive .question).quadruple progressive.assignment (delimiter_progressive .colon)
    progressive.assignment
  exact (((nullish_progressive progressive).pair branches.optional).map _).context _

theorem assignmentExpression_progressive (progressive : InnerProgressive inner) :
    Progressive inner.assignmentExpression := by
  refine (Built.choice ?_).context _
  simp only [List.forall_mem_cons]
  exact ⟨(identifier_progressive.triple ((Built.satisfy _).context _) progressive.assignment).map _,
    conditional_progressive progressive, nofun⟩

/-- The levels of precedence, the loosest first. -/
def levels (inner : Inner) : List (Parser Token Expr) :=
  [inner.assignmentExpression, inner.conditional, inner.nullish, inner.logicalOr, inner.logicalAnd, inner.equality,
    inner.comparison, inner.additive, inner.multiplicative, inner.powerExpression, inner.unaryExpression,
    inner.postfixExpression, inner.primary]

/-- No level of an expression can succeed without a token, as no writing of an expression is empty. -/
theorem levels_consume (spells : InnerSpells inner) : ∀ level ∈ inner.levels, Consumes level := by
  simp only [levels, List.forall_mem_cons]
  exact ⟨(assignmentExpression_spells spells).consumes Written.ne_nil,
    (conditional_spells spells).consumes Written.ne_nil, (nullish_spells spells).consumes Written.ne_nil,
    (logicalOr_spells spells).consumes Written.ne_nil, (logicalAnd_spells spells).consumes Written.ne_nil,
    (equality_spells spells).consumes Written.ne_nil, (comparison_spells spells).consumes Written.ne_nil,
    (additive_spells spells).consumes Written.ne_nil, (multiplicative_spells spells).consumes Written.ne_nil,
    (powerExpression_spells spells).consumes Written.ne_nil, (unaryExpression_spells spells).consumes Written.ne_nil,
    (postfixExpression_spells spells).consumes Written.ne_nil, (primary_spells spells).consumes Written.ne_nil, nofun⟩

end Inner

/-- This is so at every depth; a parser without any depth left only fails. -/
theorem innerTo_progressive (depth : Nat) : InnerProgressive (innerTo depth) := by
  induction depth with
  | zero => exact ⟨innerTo_spells 0, .fail .endless, .fail .endless, .fail .endless⟩
  | succ depth ih =>
    exact ⟨innerTo_spells _, Inner.assignmentExpression_progressive ih, Inner.powerExpression_progressive ih,
      Inner.unaryExpression_progressive ih⟩

theorem expression_progressive : Progressive expression :=
  .unfolded (fun depth => (innerTo depth).expression) (fun depth => (innerTo_progressive depth).assignment.context _)
    fun input pos => ⟨depthFrom input pos, rfl⟩

theorem statementEnd_progressive : Progressive statementEnd := semicolon_progressive.optional.unit

theorem declarator_progressive : Progressive declarator :=
  ((identifier_progressive.pair ((delimiter_progressive _).preceded expression_progressive).optional).map _).context _

theorem declaration_progressive : Progressive declaration := by
  have other : Progressive (preceded comma declarator) :=
    ((delimiter_progressive _).context _).preceded declarator_progressive
  have consumes : Consumes (preceded comma declarator) := by
    refine (comma_spells.preceded declarator_spells).consumes fun behind => ?_
    obtain ⟨_⟩ := behind
    exact List.cons_ne_nil _ _
  have others := other.many consumes
  exact (((Built.satisfy _).quadruple declarator_progressive others statementEnd_progressive).map _).context _

section Statements

variable {inner : Parser Token Stmt}

theorem ifStatement_progressive (progressive : Progressive inner) : Progressive (ifStatement inner) := by
  have condition := (keyword_progressive .ifK).preceded
    (enclosed_progressive .openParen .closeParen expression_progressive)
  have otherwise := ((keyword_progressive .elseK).preceded progressive).optional
  exact ((condition.triple progressive otherwise).map _).context _

theorem block_progressive (progressive : Progressive inner) (consumes : Consumes inner) :
    Progressive (block inner) :=
  ((((delimiter_progressive _).context _).delimited (progressive.many consumes) (delimiter_progressive _)).map
    _).context _

theorem statementWith_progressive (progressive : Progressive inner) (consumes : Consumes inner) :
    Progressive (statementWith inner) := by
  refine (Built.choice ?_).context _
  simp only [List.forall_mem_cons]
  refine ⟨declaration_progressive, ?onReturn, ifStatement_progressive progressive, ?onThrow,
    block_progressive progressive consumes, semicolon_progressive.map _, ?onExpression, nofun⟩
  case onReturn =>
    exact (((keyword_progressive _).triple expression_progressive.optional statementEnd_progressive).map _).context _
  case onThrow =>
    exact (((keyword_progressive _).triple expression_progressive statementEnd_progressive).map _).context _
  case onExpression => exact ((expression_progressive.pair statementEnd_progressive).map _).context _

end Statements

theorem statementTo_progressive (depth : Nat) : Progressive (statementTo depth) := by
  induction depth with
  | zero => exact .fail .endless
  | succ depth ih => exact statementWith_progressive ih ((statementTo_spells depth).consumes StmtWritten.ne_nil)

theorem statement_progressive : Progressive statement :=
  .unfolded statementTo statementTo_progressive fun input pos => ⟨depthFrom input pos, rfl⟩

theorem statement_bounded : Bounded statement := statement_progressive.bounded

/-- Neither does a statement, the empty one being a semicolon. -/
theorem statement_consumes : Consumes statement :=
  fun _ _ _ _ given => (statementTo_spells _).consumes StmtWritten.ne_nil given

theorem body_progressive : Progressive body := (statement_progressive.many statement_consumes).context _

theorem expression_consumes : Consumes expression := expression_spells.consumes Written.ne_nil

/-- The results and errors of a parser that is put together from the combinators lie between its start and the end of
the input. A choice that fails reports the first of the furthest errors of its alternatives, or that none matched, and
a name is attached to an error without one. Every statement, every expression and every level of precedence takes a
token. So does everything that the parser of a body repeats, and repeating such a parser ends only where it fails. -/
theorem parser_positions :
    (∀ {τ α : Type} {demand : (β : Type) → Parser τ β → Prop} {p : Parser τ α}, Built demand p →
      ∀ {input : Array τ} {pos : Nat}, pos ≤ input.size →
        (∀ next a, p input pos = .ok (next, a) → pos ≤ next ∧ next ≤ input.size) ∧
        ∀ e, p input pos = .error e → pos ≤ e.position ∧ e.position ≤ input.size) ∧
    (∀ {τ α : Type} (alternatives : List (Parser τ α)) (input : Array τ) (pos : Nat) (e : ParseError),
      choice alternatives input pos = .error e →
        ∃ errors, List.Forall₂ (fun p fault => p input pos = .error fault) alternatives errors ∧
          Reported pos errors e) ∧
    (∀ {τ α : Type} (p : Parser τ α) (name : String) (input : Array τ) (pos : Nat),
      (∀ result, p.context name input pos = .ok result ↔ p input pos = .ok result) ∧
      ∀ e, p.context name input pos = .error e ↔ ∃ bare, p input pos = .error bare ∧ e.fault = bare.fault ∧
        e.position = bare.position ∧ (bare.context = none → e.context = some name) ∧
        (bare.context ≠ none → e.context = bare.context)) ∧
    Consumes statement ∧ Consumes expression ∧ (∀ depth, ∀ level ∈ (innerTo depth).levels, Consumes level) ∧
    Built (fun _ => Consumes) body ∧
    ∀ {τ α : Type} {p : Parser τ α}, Built (fun _ => Consumes) p → Consumes p →
      ∀ {input : Array τ} {pos : Nat}, pos ≤ input.size →
        ∃ last items fault, many p input pos = .ok (last, items) ∧ (pos ≤ last ∧ last ≤ input.size) ∧
          p input last = .error fault :=
  ⟨fun built _ _ inside => ⟨fun _ _ given => built.bounded.ok inside given,
      fun _ failed => built.bounded.error inside failed⟩,
    fun _ _ _ _ failed => choice_reported failed,
    fun _ _ _ _ => ⟨fun _ => context_eq_ok_iff, fun _ => context_eq_error_iff⟩,
    statement_consumes, expression_consumes, fun depth => Inner.levels_consume (innerTo_spells depth),
    body_progressive, fun built consumes _ _ inside => built.bounded.many_stops consumes inside⟩

/-- Of two errors at the second letter the first one is reported. -/
theorem parser_positions_letters :
    ∃ e, choice [pair (equal 'a') (equal 'b'), pair (equal 'a') (equal 'c')] #['a', 'x'] 0 = .error e ∧
      (0 ≤ e.position ∧ e.position ≤ 2) ∧
      ∃ errors, List.Forall₂ (fun p fault => p #['a', 'x'] 0 = .error fault)
        [pair (equal 'a') (equal 'b'), pair (equal 'a') (equal 'c')] errors ∧ Reported 0 errors e := by
  obtain ⟨inside, chosen, -⟩ := parser_positions
  have letters : ∀ p ∈ [pair (equal 'a') (equal 'b'), pair (equal 'a') (equal 'c')],
      Built (fun _ _ => True) p := by
    simp only [List.forall_mem_cons]
    exact ⟨(Built.equal _).pair (.equal _), (Built.equal _).pair (.equal _), nofun⟩
  have failed : choice [pair (equal 'a') (equal 'b'), pair (equal 'a') (equal 'c')] #['a', 'x'] 0 =
      .error ⟨.unexpected "x" "`b`", 1, none⟩ := by decide +kernel
  exact ⟨_, failed, (inside (.choice letters) (Nat.zero_le _)).2 _ failed, chosen _ _ _ _ failed⟩

end Grammar

end Reckoner
