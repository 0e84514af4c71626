import Reckoner.Proofs.Cutting
import Reckoner.Script

namespace Reckoner

namespace Token

open Text

variable {text rest : List Char} {token : Token}

/-- The tokens of a text that carry meaning, if the text is cut to its end. -/
def meaning? (text : List Char) : Option (List Token) :=
  (scanFrom .start text.length text).1.toOption.map fun placed => (placed.map (·.token)).filter isSignificant

theorem meaning?_of_cuts {pieces : List (Token × List Char)} (ended : scan rest = none) (cuts : Cuts rest text pieces) :
    meaning? text = if rest = [] then some ((pieces.map (·.1)).filter isSignificant) else none := by
  rw [meaning?, cuts.scanFrom_eq ended (Nat.le_refl _)]
  split
  · rw [← map_token_place Cursor.start]
    rfl
  · rfl

theorem meaning?_of_scan (read : scan text = some (token, rest)) :
    meaning? text = (meaning? rest).map ([token].filter isSignificant ++ ·) := by
  obtain ⟨piece, rfl, _⟩ := scan_eq_some_iff.mp read
  obtain ⟨pieces, last, cuts, ended⟩ := exists_cuts rest
  rw [meaning?_of_cuts ended (.token read cuts), meaning?_of_cuts ended cuts]
  split
  · rw [Option.map_some, List.map_cons, ← List.singleton_append, List.filter_append]
  · rfl

theorem meaning?_of_ended (ended : scan text = none) (nonempty : text ≠ []) : meaning? text = none := by
  rw [meaning?_of_cuts ended .done, if_neg nonempty]

/-- A token without meaning adds nothing. -/
theorem map_meaning?_empty (empty : token.isSignificant = false) (text : List Char) :
    (meaning? text).map ([token].filter isSignificant ++ ·) = meaning? text := by
  rw [List.filter_cons_of_neg (by rw [empty]; exact Bool.false_ne_true)]
  exact Option.map_id'

theorem meaning?_skip (read : scan text = some (token, rest)) (empty : token.isSignificant = false) :
    meaning? text = meaning? rest := by
  rw [meaning?_of_scan read, map_meaning?_empty empty]

theorem scan_space {c : Char} (space : isSpace c = true) (text : List Char) :
    scan (c :: text) = some (.whitespace (String.ofList (c :: text.takeWhile isSpace)), text.dropWhile isSpace) := by
  obtain ⟨spelled, spaces, stop⟩ := Reader.takeWhile_eq_some.mp (show Reader.takeWhile isSpace text = _ from rfl)
  refine scan_eq_some_iff.mpr ⟨c :: text.takeWhile isSpace, ?_, ?_⟩
  · rw [List.cons_append, ← spelled]
  · exact .blanks (List.cons_ne_nil _ _) (List.forall_mem_cons.mpr ⟨space, spaces⟩) stop

theorem meaning?_space {c : Char} (space : isSpace c = true) (text : List Char) :
    meaning? (c :: text) = meaning? text := by
  rw [meaning?_skip (scan_space space text) rfl]
  cases text with
  | nil => rfl
  | cons d text =>
    cases more : isSpace d with
    | true => rw [List.dropWhile_cons_of_pos more, meaning?_skip (scan_space more text) rfl]
    | false => rw [List.dropWhile_cons_of_neg (by rw [more]; exact Bool.false_ne_true)]

/-- One character of layout in front changes no meaning. A carriage return with a line feed behind it is one token, and
then the line feed is left by itself. -/
theorem meaning?_layoutChar {c : Char} (layout : isLayout c = true) (text : List Char) :
    meaning? (c :: text) = meaning? text := by
  rcases (Bool.or_eq_true ..).mp layout with space | ending
  · exact meaning?_space space text
  rcases (Bool.or_eq_true ..).mp ending with same | same
  · cases eq_of_beq same
    by_cases feed : text.head? = some '\n'
    · obtain ⟨more, rfl⟩ := List.head?_eq_some_iff.mp feed
      have both : scan ('\r' :: '\n' :: more) = some (.newline, more) := rfl
      have alone : scan ('\n' :: more) = some (.newline, more) := rfl
      rw [meaning?_skip both rfl, meaning?_skip alone rfl]
    · exact meaning?_skip (scan_loneReturn feed) rfl
  · cases eq_of_beq same
    exact meaning?_skip (scan_eq_some_iff.mpr ⟨_, rfl, .lineFeed⟩) rfl

/-- Layout in front of a text has no meaning. -/
theorem meaning?_layout {layout : List Char} (all : ∀ c ∈ layout, isLayout c = true) (text : List Char) :
    meaning? (layout ++ text) = meaning? text := by
  induction layout with
  | nil => rfl
  | cons c layout ih =>
    obtain ⟨here, later⟩ := List.forall_mem_cons.mp all
    rw [List.cons_append, meaning?_layoutChar here, ih later]

end Token

/-- Whether a source is accepted, and as which body, is seen from its tokens that carry meaning. -/
theorem compileBody_eq_ok_iff {name source : String} {body : Body} : compileBody name source = .ok body ↔
    ∃ tokens, Token.meaning? source.toList = some tokens ∧
      Grammar.body tokens.toArray 0 = .ok (tokens.length, body) := by
  unfold compileBody Token.significant Token.meaning?
  rw [Token.scanAll]
  cases (Token.scanFrom .start source.toList.length source.toList).1 with
  | error e =>
    constructor
    · exact nofun
    · rintro ⟨_, meaning, _⟩
      exact nomatch meaning
  | ok placed =>
    have same : (placed.filter (·.token.isSignificant)).toArray.map (·.token) =
        ((placed.map (·.token)).filter Token.isSignificant).toArray := by
      rw [List.map_toArray, List.filter_map]
      rfl
    simp only [Except.map, same, Except.toOption, Option.map_some, Option.some.injEq, exists_eq_left',
      List.size_toArray]
    generalize (placed.map (·.token)).filter Token.isSignificant = tokens
    cases parsed : Grammar.body tokens.toArray 0 with
    | error e => exact ⟨nofun, nofun⟩
    | ok result =>
      obtain ⟨pos, statements⟩ := result
      dsimp only
      split
      · rename_i whole
        subst whole
        simp
      · rename_i early
        constructor
        · intro accepted
          split at accepted <;> exact nomatch accepted
        · rintro same
          cases same
          exact absurd rfl early

end Reckoner
