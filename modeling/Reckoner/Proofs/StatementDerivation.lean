import Reckoner.Proofs.ExpressionDerivation
import Reckoner.Script

namespace Reckoner

namespace Grammar

open Reckoner.Parser

theorem semicolon_spells : Spells semicolon fun _ t => t = [.delimiter .semicolon] :=
  (delimiter_spells .semicolon).context _

/-- A statement ends with a semicolon, or without any token. -/
theorem statementEnd_spells : Spells statementEnd fun _ t => EndMark false t := by
  refine semicolon_spells.optional.map fun mark => ?_
  rcases mark with _ | rfl
  · exact .missing rfl
  · exact .semicolon

theorem declarationKind_spells : Spells declarationKind fun kind t => t = [.keyword kind.keyword] := by
  refine satisfy_spells fun {token kind} made => ?_
  split at made
  all_goals cases made
  all_goals rfl

/-- Each parser spells what it takes: the tokens are a writing of what it gives, where marks may be left out as the
grammar allows. -/
theorem declarator_spells : Spells declarator (DeclaratorWritten false) := by
  have value := ((delimiter_spells .equal).preceded expression_spells).optional
  refine ((identifier_spells.pair value).map fun {result t} both => ?_).context _
  obtain ⟨rfl, value⟩ := both
  rcases value with _ | ⟨⟨written⟩⟩
  · exact .plain _
  · exact .valued _ written

theorem declaration_spells : Spells declaration (StmtWritten false) := by
  have parts := declarationKind_spells.pair (declarator_spells.pair
    ((comma_spells.preceded declarator_spells).many.pair statementEnd_spells))
  refine (parts.map fun {result t} both => ?_).context _
  obtain ⟨rfl, first, others, mark⟩ := both
  rw [List.singleton_append]
  exact .declare _ first others mark

theorem returnStatement_spells : Spells returnStatement (StmtWritten false) := by
  have parts := (keyword_spells .returnK).pair (expression_spells.optional.pair statementEnd_spells)
  refine (parts.map fun {result t} both => ?_).context _
  obtain ⟨rfl, value, mark⟩ := both
  rw [List.singleton_append]
  rcases value with _ | written
  · exact .returnNothing mark
  · exact .returnValue written mark

theorem throwStatement_spells : Spells throwStatement (StmtWritten false) := by
  have parts := (keyword_spells .throwK).pair (expression_spells.pair statementEnd_spells)
  refine (parts.map fun {result t} both => ?_).context _
  obtain ⟨rfl, written, mark⟩ := both
  rw [List.singleton_append]
  exact .throw written mark

theorem expressionStatement_spells : Spells expressionStatement (StmtWritten false) := by
  refine ((expression_spells.pair statementEnd_spells).map fun {result t} both => ?_).context _
  obtain ⟨written, mark⟩ := both
  exact .expression written nofun mark

theorem emptyStatement_spells : Spells emptyStatement (StmtWritten false) :=
  semicolon_spells.map fun here => here ▸ .empty

variable {inner : Parser Token Stmt}

theorem ifStatement_spells (spells : Spells inner (StmtWritten false)) :
    Spells (ifStatement inner) (StmtWritten false) := by
  have condition := (keyword_spells .ifK).preceded (Inner.enclosed_spells .openParen .closeParen expression_spells)
  have parts := condition.pair (spells.pair ((keyword_spells .elseK).preceded spells).optional)
  refine (parts.map fun {result t} both => ?_).context _
  obtain ⟨⟨⟨onCondition⟩⟩, yes, no⟩ := both
  rcases no with _ | ⟨⟨no⟩⟩
  · rw [List.append_nil]
    exact .ifOnly onCondition yes
  · exact .ifElse onCondition yes no

/-- The parser of the statements within is a parameter. So the cases for blocks and conditions are proved before the
recursion is closed. -/
theorem block_spells (spells : Spells inner (StmtWritten false)) : Spells (block inner) (StmtWritten false) := by
  have braces := ((delimiter_spells .openBrace).context "open brace").delimited spells.many
    (delimiter_spells .closeBrace)
  refine (braces.map fun {result t} between => ?_).context _
  obtain ⟨statements⟩ := between
  exact .block statements

theorem statementWith_spells (spells : Spells inner (StmtWritten false)) :
    Spells (statementWith inner) (StmtWritten false) :=
  (declaration_spells.choice (returnStatement_spells.choice ((ifStatement_spells spells).choice
    (throwStatement_spells.choice ((block_spells spells).choice (emptyStatement_spells.choice
      (expressionStatement_spells.choice choice_nil_spells))))))).context _

/-- By induction on the depth of nesting that is left. With none left nothing is taken. -/
theorem statementTo_spells (depth : Nat) : Spells (statementTo depth) (StmtWritten false) := by
  induction depth with
  | zero => exact nofun
  | succ depth ih => exact fun _ _ _ _ given => statementWith_spells ih given

theorem body_spells : Spells body (Repeated (StmtWritten false)) := by
  have spells : Spells statement (StmtWritten false) := fun _ _ _ _ given => statementTo_spells _ given
  exact spells.many.context _

/-- Statements that take all tokens are written by these. -/
theorem body_written {tokens : Array Token} {statements : Body}
    (parsed : body tokens 0 = .ok (tokens.size, statements)) :
    Repeated (StmtWritten false) statements tokens.toList := by
  obtain ⟨t, taken, written⟩ := body_spells parsed
  have nothing : tokens.toList.drop tokens.size = [] := List.drop_eq_nil_of_le (Nat.le_of_eq Array.length_toList)
  rw [nothing, List.append_nil, List.drop_zero] at taken
  exact taken ▸ written

end Grammar

/-- A text that compiles is cut into tokens, and all of these that carry meaning, in their order, are a
writing of the statements. -/
theorem compileBody_derivation {name source : String} {statements : Body}
    (compiled : compileBody name source = .ok statements) :
    ∃ placed, (Token.scanAll .start source).1 = .ok placed ∧
      Repeated (StmtWritten false) statements ((placed.filter (·.token.isSignificant)).map (·.token)) := by
  unfold compileBody Token.significant at compiled
  cases scanned : (Token.scanAll .start source).1 with
  | error e =>
    rw [scanned] at compiled
    exact nomatch compiled
  | ok placed =>
    refine ⟨placed, rfl, ?_⟩
    rw [scanned] at compiled
    dsimp only [Except.map] at compiled
    split at compiled
    · exact nomatch compiled
    · rename_i pos parsedBody parsed
      split at compiled
      · rename_i whole
        cases compiled
        have written := Grammar.body_written (whole ▸ parsed)
        rw [Array.toList_map] at written
        exact written
      · split at compiled <;> exact nomatch compiled

/-- Optional marks are left out, a comma stands behind the last argument, and blanks and comments are
passed over. -/
theorem compileBody_derivation_sparse :
    ∃ statements placed, compileBody "x" "if (a) b(1,) /* c */ else return" = .ok statements ∧
      (Token.scanAll .start "if (a) b(1,) /* c */ else return").1 = .ok placed ∧
      Repeated (StmtWritten false) statements ((placed.filter (·.token.isSignificant)).map (·.token)) := by
  have compiles : (compileBody "x" "if (a) b(1,) /* c */ else return").isOk = true := by decide +kernel
  cases compiled : compileBody "x" "if (a) b(1,) /* c */ else return" with
  | error e => rw [compiled] at compiles; exact nomatch compiles
  | ok statements =>
    obtain ⟨placed, scanned, written⟩ := compileBody_derivation compiled
    exact ⟨statements, placed, rfl, scanned, written⟩

end Reckoner
