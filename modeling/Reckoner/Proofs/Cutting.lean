import Reckoner.Proofs.Spelling

namespace Reckoner.Token

open Text

variable {text rest rest' : List Char} {token : Token}

theorem Spelled.ne_nil {piece : List Char} (spelled : Spelled token piece rest) : piece ≠ [] := by
  cases spelled with
  | blanks nonempty => exact nonempty
  | plain _ taken =>
    obtain ⟨c, more, rfl, _⟩ := plain_head taken
    exact List.cons_ne_nil c more
  | _ => exact List.cons_ne_nil _ _

/-- The first tokens of a text with their spellings, in front of the rest of it. -/
inductive Cuts (last : List Char) : List Char → List (Token × List Char) → Prop
  | done : Cuts last last []
  | token {t : Token} {piece behind : List Char} {pieces : List (Token × List Char)} :
      scan (piece ++ behind) = some (t, behind) → Cuts last behind pieces →
      Cuts last (piece ++ behind) ((t, piece) :: pieces)

/-- The text that tokens are cut from. -/
def spelling (pieces : List (Token × List Char)) : List Char := pieces.flatMap (·.2)

variable {pieces pieces' : List (Token × List Char)}

@[simp]
theorem spelling_cons {piece : List Char} : spelling ((token, piece) :: pieces) = piece ++ spelling pieces := rfl

@[simp]
theorem spelling_append : spelling (pieces ++ pieces') = spelling pieces ++ spelling pieces' := List.flatMap_append

theorem Cuts.text_eq (cuts : Cuts rest text pieces) : text = spelling pieces ++ rest := by
  induction cuts with
  | done => rfl
  | token _ _ ih =>
    rw [spelling_cons, List.append_assoc]
    congr

theorem Cuts.pieces_ne_nil (cuts : Cuts rest text pieces) : ∀ piece ∈ pieces, piece.2 ≠ [] := by
  induction cuts with
  | done => exact nofun
  | @token t piece behind _ read _ ih =>
    refine List.forall_mem_cons.mpr ⟨?_, ih⟩
    obtain ⟨same, whole, spelled⟩ := scan_eq_some_iff.mp read
    cases List.append_cancel_right whole
    exact spelled.ne_nil

/-- Where no further token is read, no tokens but these are cut off the text. -/
theorem Cuts.longest (ended : scan rest = none) (cuts : Cuts rest text pieces) (other : Cuts rest' text pieces') :
    pieces' <+: pieces := by
  induction cuts generalizing pieces' with
  | done =>
    cases other with
    | done => exact List.prefix_rfl
    | token read _ =>
      rw [ended] at read
      exact nomatch read
  | @token t piece behind pieces read _ ih =>
    generalize whole : piece ++ behind = text at other
    cases other with
    | done => exact List.nil_prefix
    | @token t' piece' behind' _ read' other =>
      rw [← whole, read] at read'
      cases read'
      cases List.append_cancel_right whole
      exact List.cons_prefix_cons.mpr ⟨rfl, ih other⟩

/-- Every text is cut up to a rest at which no token is read. -/
theorem exists_cuts (text : List Char) : ∃ pieces rest, Cuts rest text pieces ∧ scan rest = none := by
  cases read : scan text with
  | none => exact ⟨[], text, .done, read⟩
  | some result =>
    obtain ⟨token, behind⟩ := result
    obtain ⟨piece, rfl, spelled⟩ := scan_eq_some_iff.mp read
    have shorter : behind.length < (piece ++ behind).length := by
      have positive := List.length_pos_iff.mpr spelled.ne_nil
      rw [List.length_append]
      omega
    obtain ⟨pieces, rest, cuts, ended⟩ := exists_cuts behind
    exact ⟨(token, piece) :: pieces, rest, .token read cuts, ended⟩
termination_by text.length

/-- The tokens of pieces at their places from a cursor on. -/
def place (cursor : Cursor) : List (Token × List Char) → List PlacedToken
  | [] => []
  | (token, piece) :: pieces =>
    ⟨token, cursor, (cursor.advance piece).offset⟩ :: place (cursor.advance piece) pieces

theorem map_token_place (cursor : Cursor) : (place cursor pieces).map (·.token) = pieces.map (·.1) := by
  induction pieces generalizing cursor with
  | nil => rfl
  | cons first pieces ih => rw [place, List.map_cons, List.map_cons, ih]

theorem Cursor.advance_append (cursor : Cursor) (front back : List Char) :
    cursor.advance (front ++ back) = (cursor.advance front).advance back := List.foldl_append

theorem Cuts.scanFrom_eq (ended : scan rest = none) (cuts : Cuts rest text pieces) {limit : Nat}
    (enough : text.length ≤ limit) (cursor : Cursor) :
    scanFrom cursor limit text =
      (if rest = [] then .ok (place cursor pieces)
        else .error ⟨String.ofList (rest.take 20), cursor.advance (spelling pieces)⟩,
        cursor.advance (spelling pieces)) := by
  induction cuts generalizing cursor limit with
  | done =>
    by_cases nothing : rest = []
    · subst nothing
      cases limit <;> rfl
    · rw [if_neg nothing]
      cases limit with
      | zero => exact absurd (List.length_eq_zero_iff.mp (Nat.le_zero.mp enough)) nothing
      | succ limit =>
        rw [scanFrom]
        · rw [ended]
          rfl
        · exact nothing
  | @token t piece behind pieces read cuts ih =>
    have nonempty : piece ≠ [] := (Cuts.token read cuts).pieces_ne_nil _ (List.mem_cons_self ..)
    have positive := List.length_pos_iff.mpr nonempty
    rw [List.length_append] at enough
    obtain ⟨limit, rfl⟩ : ∃ n, limit = n + 1 := ⟨limit - 1, by omega⟩
    have front : (piece ++ behind).take ((piece ++ behind).length - behind.length) = piece := by
      rw [List.length_append, Nat.add_sub_cancel, List.take_left]
    rw [scanFrom]
    · rw [read]
      dsimp only
      rw [front, ih (by omega), spelling_cons, Cursor.advance_append]
      split <;> rfl
    · exact List.append_ne_nil_of_left_ne_nil nonempty behind

end Reckoner.Token
