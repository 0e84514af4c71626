import Reckoner.Proofs.Compilation
import Reckoner.Proofs.Division
import Reckoner.Proofs.Meaning

namespace Reckoner

namespace Token

open Text Text.Reader

/-- Inserted texts: spaces, tabs and line feeds, or a comment on one line between two spaces. -/
inductive Filler : List Char → Prop
  | layout {run : List Char} : run ≠ [] → (∀ c ∈ run, c = ' ' ∨ c = '\t' ∨ c = '\n') → Filler run
  | comment {content : List Char} : ¬ ['*', '/'] <:+: content → (∀ c ∈ content, isLineEnd c = false) →
      Filler (' ' :: '/' :: '*' :: (content ++ ['*', '/', ' ']))

variable {text rest near far inserted content : List Char} {token : Token}

/-- A block comment goes to its first end mark. -/
theorem blockContent?_of_free (free : ¬ ['*', '/'] <:+: content) (tail : List Char) :
    blockContent? (content ++ '*' :: '/' :: tail) = some (content, tail) := by
  induction content with
  | nil => rfl
  | cons c content ih =>
    have inner := ih fun inside => free (List.infix_cons inside)
    rw [List.cons_append, blockContent?]
    · rw [inner]
      rfl
    · rintro behind rfl split
      cases content with
      | nil => exact absurd (List.cons.inj split).1 (by decide)
      | cons d content =>
        cases split
        exact free ⟨[], content, rfl⟩

namespace Filler

theorem stops (filler : Filler inserted) (far : List Char) : Stops (inserted ++ far) := by
  cases filler with
  | layout nonempty mix =>
    cases inserted with
    | nil => exact absurd rfl nonempty
    | cons c run =>
      intro d first
      cases first
      rcases mix c (List.mem_cons_self ..) with rfl | rfl | rfl <;> rfl
  | comment =>
    intro d first
    cases first
    rfl

theorem meaning (filler : Filler inserted) (far : List Char) : meaning? (inserted ++ far) = meaning? far := by
  cases filler with
  | layout _ mix =>
    refine meaning?_layout (fun c member => ?_) far
    rcases mix c member with rfl | rfl | rfl <;> rfl
  | @comment content free _ =>
    have read : scan ('/' :: '*' :: (content ++ '*' :: '/' :: ' ' :: far)) =
        some (.blockComment (String.ofList content), ' ' :: far) :=
      scan_eq_some_iff.mpr ⟨_, by simp, .blockComment (blockContent?_of_free free)⟩
    have spelled : ' ' :: '/' :: '*' :: (content ++ ['*', '/', ' ']) ++ far =
        ' ' :: '/' :: '*' :: (content ++ '*' :: '/' :: ' ' :: far) := by simp
    rw [spelled, meaning?_layoutChar rfl, meaning?_skip read rfl, meaning?_layoutChar rfl]

/-- A filler on the line of what stands before it, and behind that layout on further lines. -/
theorem lines (filler : Filler inserted) : ∃ front back, inserted = front ++ back ∧
    (∀ c ∈ front, (!isLineEnd c) = true) ∧ (∀ c ∈ back, isLayout c = true) ∧ ∀ c ∈ back.head?, c = '\n' := by
  cases filler with
  | layout _ mix =>
    obtain ⟨spelled, front, stop⟩ := takeWhile_eq_some.mp (show takeWhile (· != '\n') inserted = _ from rfl)
    refine ⟨_, _, spelled, fun c member => ?_, fun c member => ?_, fun c first => ?_⟩
    · have other := front c member
      rcases mix c (spelled ▸ List.mem_append_left _ member) with rfl | rfl | rfl
      · rfl
      · rfl
      · exact absurd other (by decide)
    · rcases mix c (spelled ▸ List.mem_append_right _ member) with rfl | rfl | rfl <;> rfl
    · exact by simpa using stop c first
  | @comment content _ inLine =>
    refine ⟨_, [], (List.append_nil _).symm, fun c member => ?_, nofun, nofun⟩
    have which : c = ' ' ∨ c = '/' ∨ c = '*' ∨ c ∈ content := by
      simp only [List.mem_cons, List.mem_append, List.not_mem_nil, or_false] at member
      grind
    rcases which with rfl | rfl | rfl | inside
    · rfl
    · rfl
    · rfl
    · rw [inLine c inside]
      rfl

theorem inLine (filler : Filler inserted) (noFeed : '\n' ∉ inserted) : ∀ c ∈ inserted, (!isLineEnd c) = true := by
  obtain ⟨front, back, rfl, sameLine, _, feed⟩ := filler.lines
  cases back with
  | nil =>
    rw [List.append_nil]
    exact sameLine
  | cons c back =>
    cases feed c rfl
    exact absurd (List.mem_append_right _ (List.mem_cons_self ..)) noFeed

end Filler

theorem ReturnsAlone.insert (alone : ReturnsAlone (near ++ far)) (inLine : ∀ c ∈ inserted, (!isLineEnd c) = true) :
    ReturnsAlone (near ++ (inserted ++ far)) := by
  obtain ⟨content, rest, split, run, other⟩ := alone
  rcases List.append_eq_append_iff.mp split with ⟨between, rfl, rfl⟩ | ⟨between, rfl, behind⟩
  · obtain ⟨front, back⟩ := List.forall_mem_append.mp run
    refine ⟨near ++ (inserted ++ between), rest, by simp, ?_, other⟩
    exact List.forall_mem_append.mpr ⟨front, List.forall_mem_append.mpr ⟨inLine, back⟩⟩
  · cases between with
    | nil =>
      cases behind
      exact ⟨content ++ inserted, rest, by simp, List.forall_mem_append.mpr ⟨run, inLine⟩, other⟩
    | cons c between =>
      obtain ⟨rfl, rfl⟩ := List.cons.inj behind
      refine ⟨content, between ++ (inserted ++ far), by simp, run, ?_⟩
      cases between with
      | cons d between => exact other
      | nil =>
        cases inserted with
        | nil => exact other
        | cons d inserted =>
          rintro ⟨⟩
          exact absurd (inLine _ (List.mem_cons_self ..)) (by decide)

theorem scanOperator_eq_some (read : scanOperator text = some (token, rest)) :
    ∃ op, token = .operator op ∧ text = op.symbol.toList ++ rest := by
  obtain ⟨op, _, found⟩ := List.exists_of_findSome?_eq_some read
  obtain ⟨_, taken, same⟩ := Option.map_eq_some_iff.mp found
  cases same
  exact ⟨op, rfl, chars_eq_some.mp taken⟩

/-- The operators that begin with a star begin no expression. -/
theorem scan_star (text : List Char) :
    ∃ op rest, scan ('*' :: text) = some (.operator op, rest) ∧ (Token.operator op).startsExpression = false := by
  have behind : scan ('*' :: text) = (scanOperator <|> scanDelimiter) ('*' :: text) := rfl
  rw [behind, or_apply]
  cases read : scanOperator ('*' :: text) with
  | none =>
    have times := List.findSome?_eq_none_iff.mp read .times (by decide)
    exact nomatch times
  | some result =>
    obtain ⟨token, rest⟩ := result
    obtain ⟨op, rfl, spelled⟩ := scanOperator_eq_some read
    refine ⟨op, rest, rfl, ?_⟩
    cases op <;> first | rfl | exact absurd spelled (by simp [Operator.symbol])

variable {pieces : List (Token × List Char)} {tokens : List Token}

theorem not_heads_of_star (means : meaning? ('*' :: text) = some tokens) : ¬ Heads 0 tokens := by
  obtain ⟨op, rest, read, noStart⟩ := scan_star text
  rw [meaning?_of_scan read, Option.map_eq_some_iff] at means
  obtain ⟨later, _, rfl⟩ := means
  rintro ⟨token, more, split, starts, _⟩
  obtain ⟨rfl, _⟩ := List.cons.inj split
  rw [noStart] at starts
  exact nomatch starts

/-- The end of a line stays where something is inserted behind further tokens. -/
theorem EndsLine.insert (ends : EndsLine text) (cuts : Cuts far text pieces) (further : pieces ≠ [])
    (inserted : List Char) : EndsLine (spelling pieces ++ (inserted ++ far)) := by
  cases cuts with
  | done => exact absurd rfl further
  | @token t piece behind pieces read cuts =>
    obtain ⟨same, whole, spelled⟩ := scan_eq_some_iff.mp read
    cases List.append_cancel_right whole
    obtain ⟨c, more, rfl⟩ := List.exists_cons_of_ne_nil spelled.ne_nil
    rcases ends with nothing | ⟨rest, feed⟩ | ⟨rest, both⟩
    · exact nomatch nothing
    · cases (List.cons.inj feed).1
      exact .inr (.inl ⟨_, rfl⟩)
    · have newline : scan ('\r' :: '\n' :: rest) = some (.newline, rest) := rfl
      rw [both, newline] at read
      cases read
      have whole : c :: more = ['\r', '\n'] :=
        List.append_cancel_right (both : c :: more ++ behind = ['\r', '\n'] ++ behind)
      rw [spelling_cons, whole]
      exact .inr (.inr ⟨_, rfl⟩)

/-- What is inserted behind a line comment goes on with it up to the first line feed. -/
theorem meaning?_lineComment_insert (filler : Filler inserted) (inLine : ∀ c ∈ content, (!isLineEnd c) = true)
    (ends : EndsLine far) : meaning? ('/' :: '/' :: (content ++ (inserted ++ far))) = meaning? far := by
  obtain ⟨front, back, rfl, sameLine, layout, feed⟩ := filler.lines
  have ends : EndsLine (back ++ far) := by
    cases back with
    | nil => exact ends
    | cons c back =>
      cases feed c rfl
      exact .inr (.inl ⟨_, rfl⟩)
  obtain ⟨comment, read⟩ := scan_lineComment (List.forall_mem_append.mpr ⟨inLine, sameLine⟩) ends
  have spelled : content ++ (front ++ back ++ far) = content ++ front ++ (back ++ far) := by simp
  rw [spelled, meaning?_skip read rfl, meaning?_layout layout]

/-- One token means the same with a filler behind the tokens that follow. The sign of division is the only one that a
filler could join, and behind it stands an expression, which begins with no star. -/
theorem meaning?_token_insert {piece : List Char} (filler : Filler inserted)
    (read : scan (piece ++ text) = some (token, text)) (cuts : Cuts far text pieces)
    (means : meaning? text = some tokens)
    (divided : token = .operator .divide → Heads 0 tokens)
    (apart : '\n' ∈ inserted → token = .operator .divide → text.head? ≠ some '/') :
    meaning? (piece ++ (spelling pieces ++ (inserted ++ far))) =
      (meaning? (spelling pieces ++ (inserted ++ far))).map ([token].filter isSignificant ++ ·) := by
  have layout (empty : token.isSignificant = false) (all : ∀ c ∈ piece, isLayout c = true) :
      meaning? (piece ++ (spelling pieces ++ (inserted ++ far))) =
        (meaning? (spelling pieces ++ (inserted ++ far))).map ([token].filter isSignificant ++ ·) := by
    rw [meaning?_layout all, map_meaning?_empty empty]
  obtain ⟨_, whole, spelled⟩ := scan_eq_some_iff.mp read
  cases List.append_cancel_right whole
  cases spelled with
  | blanks _ spaces => exact layout rfl fun c member => isLayout_of_isSpace (spaces c member)
  | lineFeed => exact layout rfl (List.all_eq_true.mp rfl)
  | returnFeed => exact layout rfl (List.all_eq_true.mp rfl)
  | loneReturn => exact layout rfl (List.all_eq_true.mp rfl)
  | lineComment inLine ends =>
    by_cases further : pieces = []
    · subst further
      cases cuts
      rw [map_meaning?_empty rfl]
      exact (meaning?_lineComment_insert filler inLine ends).trans (filler.meaning _).symm
    · exact meaning?_of_scan (scan_eq_some_iff.mpr ⟨_, rfl, .lineComment inLine (ends.insert cuts further inserted)⟩)
  | blockComment closed => exact meaning?_of_scan (scan_eq_some_iff.mpr ⟨_, rfl, .blockComment closed⟩)
  | string mark spelled => exact meaning?_of_scan (scan_eq_some_iff.mpr ⟨_, rfl, .string mark spelled⟩)
  | plain noComment taken =>
    rw [cuts.text_eq] at taken noComment means apart
    refine meaning?_of_scan (scan_keeps (filler.stops far) taken fun c more split mark division alone => ?_)
    subst division alone
    rw [split] at noComment means apart
    rcases mark with rfl | rfl
    · have alone := scanLineComment_eq_none.mp (or_eq_none.mp noComment).2
      have noFeed : '\n' ∉ inserted := fun feed => apart feed rfl rfl
      exact or_eq_none.mpr ⟨rfl, scanLineComment_eq_none.mpr (alone.insert (filler.inLine noFeed))⟩
    · exact absurd (divided rfl) (not_heads_of_star means)

/-- A filler between two tokens changes no meaning, unless it brings a line feed behind a sign of
division in front of a slash. -/
theorem meaning?_insert (filler : Filler inserted) (cuts : Cuts far text pieces) (means : meaning? text = some tokens)
    (divided : Divided tokens)
    (apart : '\n' ∈ inserted → ∀ front piece back, pieces = front ++ (.operator .divide, piece) :: back →
      (spelling back ++ far).head? ≠ some '/') :
    meaning? (spelling pieces ++ (inserted ++ far)) = some tokens := by
  induction cuts generalizing tokens with
  | done => exact (filler.meaning far).trans means
  | @token t piece behind pieces read cuts ih =>
    rw [meaning?_of_scan read, Option.map_eq_some_iff] at means
    obtain ⟨later, means, rfl⟩ := means
    have inner := ih means divided.of_append fun feed front piece back split =>
      apart feed (_ :: front) piece back (by rw [split]; rfl)
    have here := meaning?_token_insert filler read cuts means
      (fun same => divided [] later (by rw [same]; rfl))
      (fun feed same => cuts.text_eq ▸ apart feed [] piece pieces (by rw [same]; rfl))
    rw [spelling_cons, List.append_assoc, here, inner]
    rfl

end Token

/-- Layout and comments between the tokens of an accepted source leave its body as it is, unless a line
feed is inserted behind a sign of division that stands in front of a slash. -/
theorem compileBody_insert {name before after inserted : String} {body : Body} {pieces : List (Token × List Char)}
    (accepted : compileBody name (before ++ after) = .ok body)
    (boundary : Token.Cuts after.toList (before ++ after).toList pieces) (filler : Token.Filler inserted.toList)
    (apart : '\n' ∈ inserted.toList → ∀ front piece back, pieces = front ++ (.operator .divide, piece) :: back →
      (Token.spelling back ++ after.toList).head? ≠ some '/') :
    compileBody name (before ++ inserted ++ after) = .ok body := by
  obtain ⟨tokens, means, parsed⟩ := compileBody_eq_ok_iff.mp accepted
  have spelled : before.toList = Token.spelling pieces := by
    have whole := boundary.text_eq
    rw [String.toList_append] at whole
    exact List.append_cancel_right whole
  refine compileBody_eq_ok_iff.mpr ⟨tokens, ?_, parsed⟩
  rw [String.toList_append, String.toList_append, spelled, List.append_assoc]
  exact Token.meaning?_insert filler boundary means (Grammar.body_divided parsed) apart

theorem compileBody_insert_behind_comment : ∃ body, compileBody "x" ("return a // b" ++ "\n/ c;") = .ok body ∧
    compileBody "x" ("return a // b" ++ " \n\t" ++ "\n/ c;") = .ok body := by
  refine exists_ok_and (by decide +kernel) fun body accepted => ?_
  have boundary : Token.Cuts "\n/ c;".toList ("return a // b" ++ "\n/ c;").toList
      [(.keyword .returnK, "return".toList), (.whitespace " ", " ".toList), (.identifier "a", "a".toList),
        (.whitespace " ", " ".toList), (.lineComment "b", "// b".toList)] :=
    @Token.Cuts.token _ _ "return".toList " a // b\n/ c;".toList _ rfl <|
    @Token.Cuts.token _ _ " ".toList "a // b\n/ c;".toList _ rfl <|
    @Token.Cuts.token _ _ "a".toList " // b\n/ c;".toList _ rfl <|
    @Token.Cuts.token _ _ " ".toList "// b\n/ c;".toList _ rfl <|
    @Token.Cuts.token _ _ "// b".toList "\n/ c;".toList _ rfl .done
  have filler : Token.Filler " \n\t".toList := .layout (by decide) (by simp)
  refine compileBody_insert accepted boundary filler fun _ front piece back split => ?_
  have member : (Token.operator .divide, piece) ∈ front ++ (Token.operator .divide, piece) :: back := by simp
  rw [← split] at member
  simp at member

/-- A line feed behind a lone carriage return ends a line, and two slashes on that line begin a comment
then that were a sign of division and a slash before. -/
theorem compileBody_insert_changes : ∃ pieces body other, Token.Filler "\n".toList ∧
    Token.Cuts "2;".toList ("return 6 //* c */\r" ++ "2;").toList pieces ∧
    compileBody "x" ("return 6 //* c */\r" ++ "2;") = .ok body ∧
    compileBody "x" ("return 6 //* c */\r" ++ "\n" ++ "2;") = .ok other ∧ body ≠ other := by
  have boundary : ∃ pieces, Token.Cuts "2;".toList ("return 6 //* c */\r" ++ "2;").toList pieces :=
    ⟨_, @Token.Cuts.token _ _ "return".toList " 6 //* c */\r2;".toList _ rfl <|
      @Token.Cuts.token _ _ " ".toList "6 //* c */\r2;".toList _ rfl <|
      @Token.Cuts.token _ _ "6".toList " //* c */\r2;".toList _ rfl <|
      @Token.Cuts.token _ _ " ".toList "//* c */\r2;".toList _ rfl <|
      @Token.Cuts.token _ _ "/".toList "/* c */\r2;".toList _ rfl <|
      @Token.Cuts.token _ _ "/* c */".toList "\r2;".toList _ rfl <|
      @Token.Cuts.token _ _ "\r".toList "2;".toList _ rfl .done⟩
  obtain ⟨pieces, boundary⟩ := boundary
  have lengths : (compileBody "x" ("return 6 //* c */\r" ++ "2;")).toOption.map List.length = some 1 ∧
      (compileBody "x" ("return 6 //* c */\r" ++ "\n" ++ "2;")).toOption.map List.length = some 2 := by decide +kernel
  obtain ⟨body, first, one⟩ := exists_ok_of_map lengths.1
  obtain ⟨other, second, two⟩ := exists_ok_of_map lengths.2
  refine ⟨pieces, body, other, .layout (by decide) (by simp), boundary, first, second, fun same => ?_⟩
  rw [same, two] at one
  exact absurd one (by decide)

end Reckoner
