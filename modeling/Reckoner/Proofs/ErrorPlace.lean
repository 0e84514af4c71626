import Mathlib.Data.List.TakeWhile
import Reckoner.Proofs.Tiling
import Reckoner.Proofs.TokenProgress

namespace Reckoner

namespace Token

/-- Of tokens behind others the first one is read behind these. -/
theorem Cuts.scan_eq {last text : List Char} {front back : List (Token × List Char)} {token : Token}
    {piece : List Char} (cuts : Cuts last text (front ++ (token, piece) :: back)) :
    ∃ behind rest, text = spelling front ++ behind ∧ scan behind = some (token, rest) := by
  induction front generalizing text with
  | nil =>
    cases cuts with
    | token read _ => exact ⟨_, _, rfl, read⟩
  | cons first front ih =>
    cases cuts with
    | token _ cuts =>
      obtain ⟨behind, rest, rfl, read⟩ := ih cuts
      exact ⟨behind, rest, by rw [spelling_cons, List.append_assoc], read⟩

/-- At its place in a source a token is read, and the place tells the bytes, lines and characters before it. -/
def StandsIn (source : String) (t : PlacedToken) : Prop :=
  ∃ before behind rest, source.toList = before ++ behind ∧ scan behind = some (t.token, rest) ∧
    t.start = Cursor.start.behind before

theorem standsIn_of_scanAll {source : String} {placed : List PlacedToken}
    (scanned : (scanAll .start source).1 = .ok placed) : ∀ t ∈ placed, StandsIn source t := by
  intro t member
  obtain ⟨pieces, rest, cuts, ended⟩ := exists_cuts source.toList
  rw [scanAll, cuts.scanFrom_eq ended (Nat.le_refl _)] at scanned
  split at scanned
  · cases scanned
    obtain ⟨earlier, later, split⟩ := List.append_of_mem member
    obtain ⟨front, piece, back, rfl, -, start⟩ := place_split split
    obtain ⟨behind, rest, spelled, read⟩ := cuts.scan_eq
    exact ⟨spelling front, behind, rest, spelled, read, start.trans (Cursor.advance_eq_behind ..)⟩
  · cases scanned

end Token

/-- The end of a text is the place behind all of it. -/
theorem endOfText_eq (source : String) : endOfText source =
    ((Cursor.start.behind source.toList).line, (Cursor.start.behind source.toList).column) := by
  rw [endOfText, Cursor.behind, Prod.mk.injEq]
  refine ⟨Nat.add_comm .., ?_⟩
  dsimp only
  split
  · rfl
  · rename_i oneLine
    have whole : ∀ c ∈ source.toList.reverse, (c != '\n') = true := by
      intro c member
      rw [bne_iff_ne]
      rintro rfl
      exact oneLine (List.mem_reverse.mp member)
    rw [List.takeWhile_eq_self_iff.2 whole, List.length_reverse]
    exact Nat.add_comm ..

namespace Grammar

open Reckoner.Parser

/-- The statements of a calculation end where no further statement is read. -/
theorem body_stops (tokens : Array Token) : ∃ pos statements fault, body tokens 0 = .ok (pos, statements) ∧
    pos ≤ tokens.size ∧ Repeated (StmtWritten false) statements (tokens.toList.take pos) ∧
    statement tokens pos = .error fault ∧ pos ≤ fault.position ∧ fault.position ≤ tokens.size := by
  obtain ⟨pos, statements, fault, given, ⟨-, inside⟩, stops⟩ :=
    statement_bounded.many_stops statement_consumes (Nat.zero_le tokens.size)
  have parsed : body tokens 0 = .ok (pos, statements) := by rw [body, context, given]; rfl
  obtain ⟨t, taken, written⟩ := body_spells parsed
  have front : tokens.toList.take pos = t := by
    rw [List.drop_zero] at taken
    exact List.append_cancel_right ((List.take_append_drop pos tokens.toList).trans taken)
  exact ⟨pos, statements, fault, parsed, inside, front ▸ written, stops, statement_bounded.error inside stops⟩

end Grammar

/-- An error quotes the token at a position among the tokens of a source, with the place of that token, or reports
the end of the source when the position is behind them all. -/
def CompileError.Reports (name source : String) (tokens : List PlacedToken) (position : Nat) (e : CompileError) :
    Prop :=
  (position < tokens.length ∧ ∃ t, tokens[position]? = some t ∧ Token.StandsIn source t ∧
      e = .malformed name (.unexpected t.token) t.start.line t.start.column) ∨
    (position = tokens.length ∧ ∃ last, last = Cursor.start.behind source.toList ∧
      e = .malformed name .endOfInput last.line last.column)

theorem malformedAt_reports {name source : String} {tokens : List PlacedToken} {position : Nat}
    (stand : ∀ t ∈ tokens, Token.StandsIn source t) (inside : position ≤ tokens.length) :
    (malformedAt name source tokens.toArray position).Reports name source tokens position := by
  rcases Nat.lt_or_eq_of_le inside with before | rfl
  · have found : tokens[position]? = some tokens[position] := List.getElem?_eq_getElem before
    refine .inl ⟨before, _, found, stand _ (List.getElem_mem before), ?_⟩
    rw [malformedAt, List.getElem?_toArray, found]
  · refine .inr ⟨rfl, _, rfl, ?_⟩
    rw [malformedAt, List.getElem?_toArray, List.getElem?_eq_none (Nat.le_refl _), endOfText_eq]

/-- A calculation that is cut into tokens but is no sequence of statements is rejected where the statement behind the
last complete one fails. -/
theorem compileBody_error_place {name source : String} {placed : List PlacedToken} {e : CompileError}
    (scanned : (Token.scanAll .start source).1 = .ok placed) (rejected : compileBody name source = .error e) :
    ∃ tokens pos statements fault, tokens = placed.filter (·.token.isSignificant) ∧
      Grammar.body (tokens.map (·.token)).toArray 0 = .ok (pos, statements) ∧ pos < tokens.length ∧
      Repeated (StmtWritten false) statements ((tokens.map (·.token)).take pos) ∧
      Grammar.statement (tokens.map (·.token)).toArray pos = .error fault ∧ pos ≤ fault.position ∧
      e.Reports name source tokens fault.position := by
  have stand := Token.standsIn_of_scanAll scanned
  set tokens := placed.filter (·.token.isSignificant) with filtered
  obtain ⟨pos, statements, fault, parsed, inside, written, fails, forward, last⟩ :=
    Grammar.body_stops (tokens.map (·.token)).toArray
  rw [List.size_toArray, List.length_map] at inside last
  unfold compileBody Token.significant at rejected
  rw [scanned] at rejected
  simp only [Except.map, List.map_toArray, ← filtered, parsed, fails, List.size_toArray, List.length_map] at rejected
  split at rejected
  · exact nomatch rejected
  · rename_i further
    cases rejected
    refine ⟨tokens, pos, statements, fault, rfl, parsed, Nat.lt_of_le_of_ne inside further, written, fails, forward, ?_⟩
    exact malformedAt_reports (fun t member => stand t (List.mem_of_mem_filter member)) last

/-- The statement in the second line fails at its third token. -/
theorem compileBody_error_place_operator :
    ∃ placed e, (Token.scanAll .start "let a = 1;\nreturn a +* 2;").1 = .ok placed ∧
      compileBody "x" "let a = 1;\nreturn a +* 2;" = .error e ∧
      ∃ tokens pos statements fault, tokens = placed.filter (·.token.isSignificant) ∧
        Grammar.body (tokens.map (·.token)).toArray 0 = .ok (pos, statements) ∧ pos < tokens.length ∧
        Repeated (StmtWritten false) statements ((tokens.map (·.token)).take pos) ∧
        Grammar.statement (tokens.map (·.token)).toArray pos = .error fault ∧ pos ≤ fault.position ∧
        e.Reports "x" "let a = 1;\nreturn a +* 2;" tokens fault.position := by
  have rejects : (compileBody "x" "let a = 1;\nreturn a +* 2;").isOk = false := by decide +kernel
  have cuts : (Token.scanAll .start "let a = 1;\nreturn a +* 2;").1.isOk = true := by decide +kernel
  cases scanned : (Token.scanAll .start "let a = 1;\nreturn a +* 2;").1 with
  | error e => rw [scanned] at cuts; exact nomatch cuts
  | ok placed =>
    cases rejected : compileBody "x" "let a = 1;\nreturn a +* 2;" with
    | ok statements => rw [rejected] at rejects; exact nomatch rejects
    | error e => exact ⟨placed, e, rfl, rfl, compileBody_error_place scanned rejected⟩

end Reckoner
