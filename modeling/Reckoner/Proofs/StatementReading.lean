import Reckoner.Proofs.ExpressionReading
import Reckoner.Proofs.Printable

namespace Reckoner

theorem EndMark.eq_semicolon {t : List Token} (mark : EndMark true t) : t = [.delimiter .semicolon] := by
  cases mark with
  | semicolon => rfl
  | missing impossible => cases impossible

/-- A semicolon ends every expression before it. -/
theorem EndMark.ends {t : List Token} (mark : EndMark true t) (rest : List Token) : Ends 0 (t ++ rest) := by
  obtain rfl := mark.eq_semicolon
  exact .of_free rfl rest

/-- No statement begins with `else`, so a statement is never taken for the branch of the one before it. -/
theorem StmtWritten.eq_cons {full : Bool} {s : Stmt} {t : List Token} (written : StmtWritten full s t) :
    ∃ token rest, t = token :: rest ∧ token ≠ .keyword .elseK := by
  cases written with
  | declare kind => exact ⟨_, _, rfl, by cases kind <;> decide⟩
  | expression onExpr =>
    obtain ⟨token, rest, rfl, starts, _⟩ := onExpr.heads
    exact ⟨token, _, rfl, fun same => absurd (same ▸ starts) (by decide)⟩
  | returnNothing _ => exact ⟨_, _, rfl, by simp⟩
  | returnValue _ _ => exact ⟨_, _, rfl, by simp⟩
  | ifOnly _ _ => exact ⟨_, _, rfl, by simp⟩
  | ifElse _ _ _ => exact ⟨_, _, rfl, by simp⟩
  | block _ => exact ⟨_, _, rfl, by simp⟩
  | throw _ _ => exact ⟨_, _, rfl, by simp⟩
  | empty => exact ⟨_, _, rfl, by simp⟩

namespace Grammar

open Reckoner.Parser

variable {t u v rest : List Token}

theorem semicolon_reads (rest : List Token) : Reads semicolon [.delimiter .semicolon] rest () :=
  (delimiter_reads .semicolon rest).context _

theorem semicolon_refuses (other : rest.head? ≠ some (.delimiter .semicolon)) : Refuses semicolon rest :=
  (delimiter_refuses other).context _

theorem statementEnd_reads (mark : EndMark true t) (rest : List Token) : Reads statementEnd t rest () := by
  obtain rfl := mark.eq_semicolon
  exact (semicolon_reads rest).optional.unit

theorem declarationKind_reads (kind : DeclarationKind) (rest : List Token) :
    Reads declarationKind [.keyword kind.keyword] rest kind := by
  cases kind <;> exact satisfy_reads (by rfl) rest

theorem declarator_reads (n : Nat) : ReadsAll n declarator (DeclaratorWritten true) (Ends 0) := by
  intro d t rest written _ ends
  refine Reads.context ?_ _
  cases written with
  | plain name =>
    have noValue : Refuses (preceded (delimiter .equal) expression) rest :=
      (delimiter_refuses (ends.head_ne rfl (Nat.le_refl _))).preceded
    exact ((identifier_reads name rest).pair noValue.optional).map _
  | valued name onValue =>
    have value := (delimiter_reads .equal _).preceded (expression_reads onValue ends)
    exact ((identifier_reads name _).pair value.optional).map _

/-- The commas stand in front of the further declarators, as the parser takes them. -/
theorem declaration_reads {first : Declarator} {others : List Declarator} (kind : DeclarationKind)
    (onFirst : DeclaratorWritten true first t)
    (onOthers : Repeated (Behind (.delimiter .comma) (DeclaratorWritten true)) others u) (mark : EndMark true v)
    (rest : List Token) :
    Reads declaration (.keyword kind.keyword :: (t ++ (u ++ v))) rest (.declare kind (first :: others)) := by
  have next : ReadsAll u.length (preceded comma declarator) (Behind (.delimiter .comma) (DeclaratorWritten true))
      (Ends 0) := by
    intro d t rest written bound ends
    cases written with
    | intro written => exact (comma_reads _).preceded (declarator_reads _ written (Nat.le_refl _) ends)
  have nonempty : ∀ {d t}, Behind (.delimiter .comma) (DeclaratorWritten true) d t → t ≠ [] := by
    intro d t written
    cases written with
    | intro _ => exact List.cons_ne_nil _ _
  have commaEnds : ∀ {d t rest}, Behind (.delimiter .comma) (DeclaratorWritten true) d t → Ends 0 (t ++ rest) := by
    intro d t rest written
    cases written with
    | intro _ => exact .of_free rfl _
  have noComma : Refuses (preceded comma declarator) (v ++ rest) := by
    obtain rfl := mark.eq_semicolon
    exact (comma_refuses (by simp)).preceded
  have behind := next.many nonempty commaEnds onOthers (Nat.le_refl _) (mark.ends rest) noComma
  have firstEnds : Ends 0 (u ++ v ++ rest) := by
    rw [List.append_assoc]
    exact onOthers.follow commaEnds (mark.ends rest)
  have read := (declarationKind_reads kind _).pair ((declarator_reads _ onFirst (Nat.le_refl _) firstEnds).pair
    (behind.pair (statementEnd_reads mark rest)))
  exact (read.map _).context _

theorem returnNothing_reads (mark : EndMark true v) (rest : List Token) :
    Reads returnStatement (.keyword .returnK :: v) rest (.return none) := by
  have noValue : Refuses expression (v ++ rest) := by
    obtain rfl := mark.eq_semicolon
    exact expression_refuses (.of_head rfl rest)
  have read := (keyword_reads .returnK _).pair (noValue.optional.pair (statementEnd_reads mark rest))
  exact (read.map _).context _

theorem returnValue_reads {e : Expr} (written : Written true 0 e t) (mark : EndMark true v) (rest : List Token) :
    Reads returnStatement (.keyword .returnK :: (t ++ v)) rest (.return (some e)) := by
  have value := (expression_reads written (mark.ends rest)).optional
  have read := (keyword_reads .returnK _).pair (value.pair (statementEnd_reads mark rest))
  exact (read.map _).context _

theorem throwStatement_reads {e : Expr} (written : Written true 0 e t) (mark : EndMark true v)
    (rest : List Token) : Reads throwStatement (.keyword .throwK :: (t ++ v)) rest (.throw e) := by
  have value := expression_reads written (mark.ends rest)
  have read := (keyword_reads .throwK _).pair (value.pair (statementEnd_reads mark rest))
  exact (read.map _).context _

/-- The mark at the end is no part of the expression and ends it. -/
theorem expressionStatement_reads {e : Expr} (written : Written true 0 e t) (mark : EndMark true v)
    (rest : List Token) : Reads expressionStatement (t ++ v) rest (.expression e) := by
  have read := (expression_reads written (mark.ends rest)).pair (statementEnd_reads mark rest)
  exact (read.map _).context _

/-- What follows a statement: an `else` is no part of it, unless the statement cannot take one. -/
def Follows (s : Stmt) (rest : List Token) : Prop := s.EndsOpen → rest.head? ≠ some (.keyword .elseK)

/-- A parser takes all writings of at most `n` tokens of statements that can be told apart. -/
def StatementReads (n : Nat) (inner : Parser Token Stmt) : Prop :=
  ∀ ⦃s t rest⦄, StmtWritten true s t → s.Printable → t.length ≤ n → Follows s rest → Reads inner t rest s

variable {n : Nat} {inner : Parser Token Stmt}

theorem condition_reads {e : Expr} (written : Written true 0 e t) (rest : List Token) :
    Reads (preceded (keyword .ifK) (delimited (delimiter .openParen) expression (delimiter .closeParen)))
      (.keyword .ifK :: enclosed .openParen t .closeParen) rest e := by
  have ends : Ends 0 (.delimiter .closeParen :: rest) := .of_free rfl rest
  exact (keyword_reads .ifK _).preceded (Inner.enclosed_reads (expression_reads written ends))

/-- Statements one after the other, in front of what is no statement. -/
theorem StatementReads.many {body : List Stmt} (reads : StatementReads n inner)
    (written : Repeated (StmtWritten true) body t) (printable : ∀ s ∈ body, s.Printable) (bound : t.length ≤ n)
    (last : rest.head? ≠ some (.keyword .elseK)) (refused : Refuses inner rest) :
    Reads (Parser.many inner) t rest body := by
  have each : ReadsAll n inner (fun s t => StmtWritten true s t ∧ s.Printable)
      fun rest => rest.head? ≠ some (.keyword .elseK) :=
    fun s t rest written bound follows => reads written.1 written.2 bound fun _ => follows
  refine each.many (fun written => ?_) (fun written => ?_) (written.and printable) bound last refused
  · obtain ⟨_, _, rfl, _⟩ := written.1.eq_cons
    exact List.cons_ne_nil _ _
  · obtain ⟨_, _, rfl, other⟩ := written.1.eq_cons
    exact fun head => other (Option.some.inj head)

/-- The statements of a block end at its closing brace, where no statement begins. -/
theorem block_reads {body : List Stmt} (reads : StatementReads n inner)
    (written : Repeated (StmtWritten true) body t) (printable : ∀ s ∈ body, s.Printable) (bound : t.length ≤ n)
    (refused : ∀ rest, Refuses inner (.delimiter .closeBrace :: rest)) (rest : List Token) :
    Reads (block inner) (enclosed .openBrace t .closeBrace) rest (.block body) := by
  have inside : Reads (Parser.many inner) t ([.delimiter .closeBrace] ++ rest) body :=
    reads.many written printable bound (by simp) (refused rest)
  have opened : Reads openBrace [.delimiter .openBrace] (t ++ [.delimiter .closeBrace] ++ rest) () :=
    (delimiter_reads .openBrace _).context _
  exact ((opened.delimited inside (delimiter_reads .closeBrace rest)).map _).context _

/-- A condition with one branch. An `else` behind it would belong to it, so there must be none. -/
theorem ifOnly_reads {condition : Expr} {yes : Stmt} (reads : StatementReads n inner)
    (onCondition : Written true 0 condition t) (onYes : StmtWritten true yes u) (printable : yes.Printable)
    (bound : u.length ≤ n) (noElse : rest.head? ≠ some (.keyword .elseK)) :
    Reads (ifStatement inner) (.keyword .ifK :: (enclosed .openParen t .closeParen ++ u)) rest
      (.ifElse condition yes none) := by
  have branch : Reads inner u rest yes := reads onYes printable bound fun _ => noElse
  have missing : Refuses (preceded (keyword .elseK) inner) rest := (keyword_refuses noElse).preceded
  have read := (condition_reads onCondition _).pair (branch.pair missing.optional)
  rw [List.append_nil] at read
  exact (read.map _).context _

/-- A condition with two branches. The first of them does not end open, so that the `else` behind it is none of its own.
-/
theorem ifElse_reads {condition : Expr} {yes no : Stmt} (reads : StatementReads n inner)
    (onCondition : Written true 0 condition t) (onYes : StmtWritten true yes u) (onNo : StmtWritten true no v)
    (printable : (Stmt.ifElse condition yes (some no)).Printable) (bound : u.length + v.length ≤ n)
    (follows : Follows no rest) :
    Reads (ifStatement inner)
      (.keyword .ifK :: (enclosed .openParen t .closeParen ++ (u ++ .keyword .elseK :: v))) rest
      (.ifElse condition yes (some no)) := by
  cases printable with
  | ifElse _ printableYes printableNo closed =>
    have branch : Reads inner u (.keyword .elseK :: v ++ rest) yes :=
      reads onYes printableYes (by omega) fun isOpen => absurd isOpen (closed (by simp))
    have other := (keyword_reads .elseK _).preceded (reads onNo (printableNo no rfl) (by omega) follows)
    exact ((((condition_reads onCondition _).pair (branch.pair other.optional)).map _).context _)

/-- Each kind of statement but expressions has a token of its own in front, and its parser refuses all others. -/
theorem declaration_refuses (noLet : rest.head? ≠ some (.keyword .letK))
    (noConst : rest.head? ≠ some (.keyword .constK)) (noVar : rest.head? ≠ some (.keyword .varK)) :
    Refuses declaration rest := by
  have noKind : Refuses declarationKind rest := by
    refine satisfy_refuses fun token head => ?_
    split
    · exact absurd head noLet
    · exact absurd head noConst
    · exact absurd head noVar
    · rfl
  exact (noKind.pair.map _).context _

theorem returnStatement_refuses (other : rest.head? ≠ some (.keyword .returnK)) : Refuses returnStatement rest :=
  ((keyword_refuses other).pair.map _).context _

theorem ifStatement_refuses (other : rest.head? ≠ some (.keyword .ifK)) : Refuses (ifStatement inner) rest :=
  ((keyword_refuses other).preceded.pair.map _).context _

theorem throwStatement_refuses (other : rest.head? ≠ some (.keyword .throwK)) : Refuses throwStatement rest :=
  ((keyword_refuses other).pair.map _).context _

theorem block_refuses (other : rest.head? ≠ some (.delimiter .openBrace)) : Refuses (block inner) rest :=
  (((delimiter_refuses other).context _).delimited.map _).context _

theorem emptyStatement_refuses (other : rest.head? ≠ some (.delimiter .semicolon)) : Refuses emptyStatement rest :=
  (semicolon_refuses other).map _

/-- Nothing but its own word begins a declaration or a `return`. -/
theorem past_return {alternatives : List (Parser Token Stmt)} {s : Stmt}
    (read : Reads (choice alternatives) t rest s)
    (other : ∀ word ∈ [.letK, .constK, .varK, .returnK], (t ++ rest).head? ≠ some (.keyword word)) :
    Reads (choice (declaration :: returnStatement :: alternatives)) t rest s := by
  have noReturn : Refuses returnStatement (t ++ rest) := returnStatement_refuses (other _ (by simp))
  have noDeclaration : Refuses declaration (t ++ rest) :=
    declaration_refuses (other _ (by simp)) (other _ (by simp)) (other _ (by simp))
  exact (read.choice_tail noReturn).choice_tail noDeclaration

theorem past_throw {alternatives : List (Parser Token Stmt)} {s : Stmt}
    (read : Reads (choice alternatives) t rest s)
    (other : ∀ word ∈ [.letK, .constK, .varK, .returnK, .ifK, .throwK], (t ++ rest).head? ≠ some (.keyword word)) :
    Reads (choice (declaration :: returnStatement :: ifStatement inner :: throwStatement :: alternatives)) t rest
      s := by
  have noThrow : Refuses throwStatement (t ++ rest) := throwStatement_refuses (other _ (by simp))
  have noIf : Refuses (ifStatement inner) (t ++ rest) := ifStatement_refuses (other _ (by simp))
  refine past_return ((read.choice_tail noThrow).choice_tail noIf) fun word member => other word ?_
  exact List.mem_append_left [.ifK, .throwK] member

/-- The alternative for expressions is the last one, and it is reached where no keyword of a statement and no brace
stands in front. An object literal there would be read as a block. -/
theorem expression_among_statements {e : Expr} (read : Reads expressionStatement t rest (.expression e))
    {token : Token} (head : (t ++ rest).head? = some token) (starts : token.startsExpression = true)
    (noBrace : token ≠ .delimiter .openBrace) : Reads (statementWith inner) t rest (.expression e) := by
  have other {wanted : Token} (no : wanted.startsExpression = false) : (t ++ rest).head? ≠ some wanted := by
    rw [head]
    exact fun same => Bool.false_ne_true (no.symm.trans (Option.some.inj same ▸ starts))
  have noBlock : Refuses (block inner) (t ++ rest) :=
    block_refuses fun same => noBrace (Option.some.inj (head.symm.trans same))
  have noEmpty : Refuses emptyStatement (t ++ rest) := emptyStatement_refuses (other rfl)
  have words : ∀ word ∈ [Keyword.letK, .constK, .varK, .returnK, .ifK, .throwK],
      (Token.keyword word).startsExpression = false := by decide
  exact (past_throw (((read.choice_head []).choice_tail noEmpty).choice_tail noBlock)
    fun word member => other (words word member)).context _

/-- One step of the recursion, with a case for each constructor of statements. The inner parser takes writings of at
most `n` tokens, and the outer one those of one token more. -/
theorem statementWith_reads (reads : StatementReads n inner)
    (refused : ∀ rest, Refuses inner (.delimiter .closeBrace :: rest)) :
    StatementReads (n + 1) (statementWith inner) := by
  intro s t rest written printable bound follows
  cases written with
  | @expression e t v onExpr noBrace mark =>
    obtain ⟨token, tail, rfl, starts, _⟩ := onExpr.heads
    exact expression_among_statements (expressionStatement_reads onExpr mark rest) rfl starts
      fun same => noBrace rfl (congrArg some same)
  | declare kind onFirst onOthers mark =>
    exact ((declaration_reads kind onFirst onOthers mark rest).choice_head _).context _
  | returnNothing mark =>
    have read := (returnNothing_reads mark rest).choice_head
    exact ((read _).choice_tail (declaration_refuses (by simp) (by simp) (by simp))).context _
  | returnValue onExpr mark =>
    have read := (returnValue_reads onExpr mark rest).choice_head
    exact ((read _).choice_tail (declaration_refuses (by simp) (by simp) (by simp))).context _
  | @ifOnly condition yes t u onCondition onYes =>
    rw [List.length_cons, List.length_append] at bound
    cases printable with
    | ifElse _ printableYes _ _ =>
      have noElse := follows (.noElse condition yes)
      have read := ifOnly_reads reads onCondition onYes printableYes (by omega) noElse
      exact (past_return (read.choice_head _) (by simp)).context _
  | @ifElse condition yes no t u v onCondition onYes onNo =>
    rw [List.length_cons, List.length_append, List.length_append, List.length_cons] at bound
    have followsNo : Follows no rest := fun isOpen => follows (.onElse condition yes isOpen)
    have read := ifElse_reads reads onCondition onYes onNo printable (by omega) followsNo
    exact (past_return (read.choice_head _) (by simp)).context _
  | throw onExpr mark =>
    have read := throwStatement_reads onExpr mark rest
    exact (past_return ((read.choice_head _).choice_tail (ifStatement_refuses (by simp))) (by simp)).context _
  | @block body t onBody =>
    rw [length_enclosed] at bound
    cases printable with
    | block each =>
      have read := block_reads reads onBody each (by omega) refused rest
      exact (past_throw (read.choice_head _) (by simp [enclosed])).context _
  | empty =>
    have read : Reads emptyStatement [.delimiter .semicolon] rest .empty := (semicolon_reads rest).map _
    exact (past_throw ((read.choice_head _).choice_tail (block_refuses (by simp))) (by simp)).context _

/-- No statement begins at the end of a block or of all tokens. -/
theorem statementWith_refuses (ended : ∀ token ∈ rest.head?, token = .delimiter .closeBrace) :
    Refuses (statementWith inner) rest := by
  have other {wanted : Token} (different : wanted ≠ .delimiter .closeBrace) : rest.head? ≠ some wanted :=
    fun head => different (ended wanted head)
  have noStart : NoStart rest := fun token head => ended token head ▸ rfl
  have noExpression : Refuses expressionStatement rest := ((expression_refuses noStart).pair.map _).context _
  have noDeclaration : Refuses declaration rest :=
    declaration_refuses (other (by decide)) (other (by decide)) (other (by decide))
  exact (noDeclaration.choice ((returnStatement_refuses (other (by decide))).choice
    ((ifStatement_refuses (other (by decide))).choice ((throwStatement_refuses (other (by decide))).choice
      ((block_refuses (other (by decide))).choice ((emptyStatement_refuses (other (by decide))).choice
        (noExpression.choice (choice_nil_refuses _)))))))).context _

theorem statementTo_refuses (depth : Nat) (ended : ∀ token ∈ rest.head?, token = .delimiter .closeBrace) :
    Refuses (statementTo depth) rest := by
  cases depth with
  | zero => exact fun _ _ _ => ⟨_, rfl⟩
  | succ depth => exact fun _ _ here => statementWith_refuses ended here

/-- By induction on the depth, as each level of nesting takes a token at least. -/
theorem statementTo_reads (depth : Nat) : StatementReads depth (statementTo depth) := by
  induction depth with
  | zero =>
    intro s t rest written _ bound _
    obtain ⟨_, _, rfl, _⟩ := written.eq_cons
    exact absurd bound (by simp)
  | succ depth ih =>
    exact statementWith_reads ih fun rest => statementTo_refuses depth fun _ head => (Option.some.inj head).symm

/-- Statements are read one after the other, each with a depth of nesting of all tokens that are left. -/
theorem body_reads {body : Body} (written : Repeated (StmtWritten true) body t)
    (printable : ∀ s ∈ body, s.Printable) : Reads Grammar.body t [] body := by
  have reads : StatementReads t.length statement := by
    intro s u rest written printable _ follows input pos here
    have room : u.length ≤ depthFrom input pos := Nat.le_succ_of_le (length_of_drop here)
    exact statementTo_reads _ written printable room follows here
  have refused : Refuses statement [] := fun _ _ here => statementTo_refuses _ (by simp) here
  exact (reads.many written printable (Nat.le_refl _) (by simp) refused).context _

/-- Parsing undoes writing. Printable expressions and statements have writings, and from each of them
the parser makes the very tree and takes exactly its tokens. -/
theorem parse_of_written :
    (∀ e : Expr, e.Printable → (∃ t, Written true 0 e t) ∧
      ∀ t, Written true 0 e t → ∀ rest, Ends 0 rest →
        expression (t ++ rest).toArray 0 = .ok (t.length, e)) ∧
    (∀ statements : Body, (∀ s ∈ statements, s.Printable) → (∃ t, Repeated (StmtWritten true) statements t) ∧
      ∀ t, Repeated (StmtWritten true) statements t → body t.toArray 0 = .ok (t.length, statements)) := by
  refine ⟨fun e printable => ⟨printable.exists_written 0, fun t written rest ends => ?_⟩,
    fun statements printable => ⟨exists_repeated fun s member => (printable s member).exists_written,
      fun t written => ?_⟩⟩
  · have read : expression (t ++ rest).toArray 0 = .ok (0 + t.length, e) := expression_reads written ends rfl
    rw [read, Nat.zero_add]
  · have whole : t.toArray.toList.drop 0 = t ++ [] := (List.append_nil t).symm
    rw [body_reads written printable whole, Nat.zero_add]

/-- An operand that has to be parenthesized, and a branch behind `else`. -/
theorem parse_of_written_else :
    expression #[.delimiter .openParen, .identifier "a", .operator .plus, .identifier "b", .delimiter .closeParen,
      .operator .times, .identifier "c", .delimiter .comma] 0 =
        .ok (7, .binary .multiply (.binary .add (.name "a") (.name "b")) (.name "c")) ∧
    body #[.keyword .ifK, .delimiter .openParen, .identifier "a", .delimiter .closeParen, .delimiter .semicolon,
      .keyword .elseK, .keyword .returnK, .identifier "b", .delimiter .semicolon] 0 =
        .ok (9, [.ifElse (.name "a") .empty (some (.return (some (.name "b"))))]) := by
  have name {limit : Nat} (low : limit ≤ 12) (id : String) : Written true limit (.name id) [.identifier id] :=
    .bare low (.name id)
  have sum : Bare true (.binary .add (.name "a") (.name "b"))
      [.identifier "a", .operator .plus, .identifier "b"] :=
    .binary .add (name (by decide) "a") (name (by decide) "b")
  have product := Bare.binary .multiply (.parenthesized (.bare (Nat.zero_le _) sum)) (name (by decide) "c")
  have mark : EndMark true [.delimiter .semicolon] := .semicolon
  have branch := StmtWritten.returnValue (name (Nat.zero_le _) "b") mark
  have choice := StmtWritten.ifElse (name (Nat.zero_le _) "a") .empty branch
  have first := (parse_of_written.1 _ (.binary .multiply (.binary .add (.name "a") (.name "b")) (.name "c"))).2 _
    (.bare (Nat.zero_le _) product) [.delimiter .comma] (.of_free rfl [])
  have second := (parse_of_written.2 [.ifElse (.name "a") .empty (some (.return (some (.name "b"))))] ?_).2 _
    (.cons choice .nil)
  · exact ⟨first, second⟩
  · intro s member
    obtain rfl := List.mem_singleton.mp member
    exact .ifElse (.name "a") .empty (fun _ same => Option.some.inj same ▸ .return fun _ same =>
      Option.some.inj same ▸ .name "b") fun _ isOpen => nomatch isOpen

end Grammar

end Reckoner
