import Reckoner.Proofs.PlainTokens
import Reckoner.Token.Placed

namespace Reckoner.Token

open Text Text.Reader

variable {text rest content : List Char} {token : Token}

/-- A block comment ends at the first end mark, whatever stands behind that. -/
theorem blockContent?_spelled (read : blockContent? text = some (content, rest)) :
    text = content ++ '*' :: '/' :: rest ∧
      ∀ tail, blockContent? (content ++ '*' :: '/' :: tail) = some (content, tail) := by
  fun_induction blockContent? text generalizing content rest with
  | case1 =>
    cases read
    exact ⟨rfl, fun _ => rfl⟩
  | case2 c text other ih =>
    obtain ⟨⟨inner, _⟩, found, same⟩ := Option.map_eq_some_iff.mp read
    cases same
    obtain ⟨rfl, whole⟩ := ih found
    refine ⟨rfl, fun tail => ?_⟩
    have next : blockContent? (c :: (inner ++ '*' :: '/' :: tail)) =
        (blockContent? (inner ++ '*' :: '/' :: tail)).map fun r => (c :: r.1, r.2) := by
      rw [blockContent?]
      rintro behind rfl same
      cases inner with
      | nil => cases same
      | cons d inner =>
        cases same
        exact other _ rfl rfl
    rw [List.cons_append, next, whole]
    rfl
  | case3 => cases read

/-- The spelling of the content of a string, with the closing quotation mark. -/
inductive StringSpelled (quote : Char) : List Char → List Char → Prop
  | close : StringSpelled quote [] [quote]
  | codePoint {a b c d denoted : Char} {inner piece : List Char} :
      (Number.readNatural? 16 [a, b, c, d] >>= ofCodePoint?) = some denoted → StringSpelled quote inner piece →
      StringSpelled quote (denoted :: inner) ('\\' :: 'u' :: a :: b :: c :: d :: piece)
  | continued {inner piece : List Char} : StringSpelled quote inner piece →
      StringSpelled quote inner ('\\' :: '\n' :: piece)
  | escaped {c : Char} {inner piece : List Char} : c ≠ 'u' → c ≠ '\n' → StringSpelled quote inner piece →
      StringSpelled quote (unescape c :: inner) ('\\' :: c :: piece)
  | char {c : Char} {inner piece : List Char} : c ≠ quote → c ≠ '\\' → isLineEnd c = false →
      StringSpelled quote inner piece → StringSpelled quote (c :: inner) (c :: piece)

theorem stringContent?_eq_some {quote : Char} (mark : quote ≠ '\\') : stringContent? quote text = some (content, rest) ↔
    ∃ piece, text = piece ++ rest ∧ StringSpelled quote content piece := by
  constructor
  · intro read
    fun_induction stringContent? quote text generalizing content rest with
    | case1 => exact nomatch read
    | case2 a b c d text ih =>
      obtain ⟨denoted, value, read⟩ := Option.bind_eq_some_iff.mp read
      obtain ⟨⟨inner, behind⟩, found, same⟩ := Option.bind_eq_some_iff.mp read
      cases same
      obtain ⟨piece, rfl, spelled⟩ := ih found
      exact ⟨_, rfl, .codePoint value spelled⟩
    | case3 text ih =>
      obtain ⟨piece, rfl, spelled⟩ := ih read
      exact ⟨_, rfl, .continued spelled⟩
    | case4 => exact nomatch read
    | case5 c text _ noFeed _ noCode =>
      rename_i ih
      obtain ⟨⟨inner, behind⟩, found, same⟩ := Option.bind_eq_some_iff.mp read
      cases same
      obtain ⟨piece, rfl, spelled⟩ := ih found
      exact ⟨_, rfl, .escaped noCode noFeed spelled⟩
    | case6 =>
      cases read
      exact ⟨[quote], rfl, .close⟩
    | case7 => exact nomatch read
    | case8 c text _ _ _ noQuote _ other =>
      rename_i ih
      obtain ⟨⟨inner, behind⟩, found, same⟩ := Option.bind_eq_some_iff.mp read
      cases same
      obtain ⟨piece, rfl, spelled⟩ := ih found
      obtain ⟨noEnd, noSlash⟩ := not_or.mp other
      exact ⟨_, rfl, .char noQuote noSlash (Bool.eq_false_iff.mpr noEnd) spelled⟩
  · rintro ⟨piece, rfl, spelled⟩
    induction spelled with
    | close =>
      rw [List.singleton_append, stringContent?]
      · rw [if_pos rfl]
        rfl
      all_goals
        intros
        contradiction
    | codePoint value _ ih =>
      simp only [List.cons_append, stringContent?]
      rw [value, ih]
      rfl
    | continued _ ih => exact ih
    | escaped noCode noFeed _ ih =>
      rw [List.cons_append, List.cons_append, stringContent?]
      · rw [if_neg noCode, ih]
        rfl
      all_goals
        intros
        contradiction
    | char noQuote noSlash noEnd _ ih =>
      rw [List.cons_append, stringContent?]
      · rw [if_neg noQuote, if_neg (not_or.mpr ⟨Bool.eq_false_iff.mp noEnd, noSlash⟩), ih]
        rfl
      all_goals
        intros
        contradiction

/-- A line comment ends in front of such a text. -/
def EndsLine (text : List Char) : Prop :=
  text = [] ∨ (∃ rest, text = '\n' :: rest) ∨ ∃ rest, text = '\r' :: '\n' :: rest

theorem EndsLine.head {text : List Char} (ends : EndsLine text) : ∀ c ∈ text.head?, (!isLineEnd c) = false := by
  rcases ends with rfl | ⟨rest, rfl⟩ | ⟨rest, rfl⟩
  · exact nofun
  · intro c first
    cases first
    rfl
  · intro c first
    cases first
    rfl

/-- A line comment reaches to the end of its line, and there is none if that is a carriage return alone. -/
theorem scanLineComment_eq_some : scanLineComment text = some (token, rest) ↔
    ∃ content, text = '/' :: '/' :: (content ++ rest) ∧ (∀ c ∈ content, (!isLineEnd c) = true) ∧ EndsLine rest ∧
      token = .lineComment (String.ofList (trim content)) := by
  constructor
  · intro read
    unfold scanLineComment at read
    split at read
    · rename_i text
      obtain ⟨spelled, inLine, stop⟩ := takeWhile_eq_some.mp (show takeWhile (!isLineEnd ·) text = _ from rfl)
      refine ⟨text.takeWhile (!isLineEnd ·), ?_⟩
      dsimp only at read
      split at read
      · rename_i behind
        cases read
        exact ⟨by rw [← behind, ← spelled], inLine, .inr (.inr ⟨_, rfl⟩), rfl⟩
      · exact nomatch read
      · rename_i tail _ alone
        cases read
        refine ⟨by rw [← spelled], inLine, ?_, rfl⟩
        cases behind : text.dropWhile (!isLineEnd ·) with
        | nil => exact .inl rfl
        | cons c tail =>
          rw [behind] at stop
          have ending := stop c rfl
          simp only [isLineEnd, Bool.not_eq_eq_eq_not, Bool.not_false, Bool.or_eq_true, beq_iff_eq] at ending
          rcases ending with rfl | rfl
          · exact absurd behind (alone tail)
          · exact .inr (.inl ⟨tail, rfl⟩)
    · exact nomatch read
  · rintro ⟨content, rfl, inLine, ends, rfl⟩
    have run := takeWhile_eq_some.mpr ⟨rfl, inLine, ends.head⟩
    obtain ⟨taken, dropped⟩ := Prod.mk.inj (Option.some.inj run)
    simp only [scanLineComment, taken, dropped]
    rcases ends with rfl | ⟨rest, rfl⟩ | ⟨rest, rfl⟩ <;> rfl

theorem scanBlockComment_eq_some : scanBlockComment text = some (token, rest) ↔ ∃ content,
    text = '/' :: '*' :: (content ++ '*' :: '/' :: rest) ∧
      (∀ tail, blockContent? (content ++ '*' :: '/' :: tail) = some (content, tail)) ∧
      token = .blockComment (String.ofList content) := by
  constructor
  · intro read
    unfold scanBlockComment at read
    split at read
    · obtain ⟨⟨content, behind⟩, found, same⟩ := Option.map_eq_some_iff.mp read
      cases same
      obtain ⟨rfl, closed⟩ := blockContent?_spelled found
      exact ⟨content, rfl, closed, rfl⟩
    · exact nomatch read
  · rintro ⟨content, rfl, closed, rfl⟩
    simp only [scanBlockComment]
    rw [closed]
    rfl

theorem isQuote_iff {quote : Char} : isQuote quote = true ↔ quote = '\x22' ∨ quote = '\x27' := by
  rw [isQuote, Bool.or_eq_true, beq_iff_eq, beq_iff_eq]

theorem ne_backslash_of_isQuote {quote : Char} (mark : isQuote quote = true) : quote ≠ '\\' := by
  rintro rfl
  exact absurd mark (by decide)

theorem scanString_eq_some : scanString text = some (token, rest) ↔ ∃ quote content piece,
    text = quote :: (piece ++ rest) ∧ isQuote quote = true ∧ StringSpelled quote content piece ∧
      token = .string (String.ofList content) := by
  constructor
  · intro read
    unfold scanString at read
    split at read
    · rename_i quote text
      split at read
      · rename_i mark
        have mark := isQuote_iff.mpr mark
        obtain ⟨⟨content, behind⟩, found, same⟩ := Option.map_eq_some_iff.mp read
        cases same
        obtain ⟨piece, rfl, spelled⟩ := (stringContent?_eq_some (ne_backslash_of_isQuote mark)).mp found
        exact ⟨quote, content, piece, rfl, mark, spelled, rfl⟩
      · exact nomatch read
    · exact nomatch read
  · rintro ⟨quote, content, piece, rfl, mark, spelled, rfl⟩
    have found : stringContent? quote (piece ++ rest) = some (content, rest) :=
      (stringContent?_eq_some (ne_backslash_of_isQuote mark)).mpr ⟨piece, rfl, spelled⟩
    simp only [scanString]
    rw [if_pos (isQuote_iff.mp mark), found]
    rfl

/-- The first line end is a carriage return that no line feed follows. -/
def ReturnsAlone (text : List Char) : Prop :=
  ∃ content rest, text = content ++ '\r' :: rest ∧ (∀ c ∈ content, (!isLineEnd c) = true) ∧ rest.head? ≠ some '\n'

theorem scanLineComment_eq_none : scanLineComment ('/' :: '/' :: text) = none ↔ ReturnsAlone text := by
  obtain ⟨spelled, inLine, stop⟩ := takeWhile_eq_some.mp (show takeWhile (!isLineEnd ·) text = _ from rfl)
  constructor
  · intro unread
    simp only [scanLineComment] at unread
    split at unread
    · exact nomatch unread
    · rename_i rest other behind
      refine ⟨_, rest, behind ▸ spelled, inLine, fun feed => ?_⟩
      obtain ⟨more, rfl⟩ := List.head?_eq_some_iff.mp feed
      exact other more rfl
    · exact nomatch unread
  · rintro ⟨content, rest, rfl, inLine, other⟩
    have run := takeWhile_eq_some.mpr
      ⟨rfl, inLine, (by rintro c ⟨⟩; rfl : ∀ c ∈ ('\r' :: rest).head?, (!isLineEnd c) = false)⟩
    obtain ⟨_, dropped⟩ := Prod.mk.inj (Option.some.inj run)
    simp only [scanLineComment, dropped]
    split
    · rename_i more same
      cases same
      exact absurd rfl other
    · rfl
    · rename_i alone
      exact absurd rfl (alone rest)

theorem scanComment_eq_none (noLine : ∀ rest, text ≠ '/' :: '/' :: rest) (noBlock : ∀ rest, text ≠ '/' :: '*' :: rest) :
    scanComment text = none := by
  refine or_eq_none.mpr ⟨?_, ?_⟩
  · rw [scanBlockComment]
    exact noBlock
  · rw [scanLineComment]
    exact noLine

/-- How a token is spelled in front of a text. -/
inductive Spelled : Token → List Char → List Char → Prop
  | blanks {run behind : List Char} : run ≠ [] → (∀ c ∈ run, isSpace c = true) →
      (∀ c ∈ behind.head?, isSpace c = false) → Spelled (.whitespace (String.ofList run)) run behind
  | lineFeed {behind : List Char} : Spelled .newline ['\n'] behind
  | returnFeed {behind : List Char} : Spelled .newline ['\r', '\n'] behind
  | loneReturn {behind : List Char} : behind.head? ≠ some '\n' → Spelled .newline ['\r'] behind
  | lineComment {inner behind : List Char} : (∀ c ∈ inner, (!isLineEnd c) = true) → EndsLine behind →
      Spelled (.lineComment (String.ofList (trim inner))) ('/' :: '/' :: inner) behind
  | blockComment {inner behind : List Char} :
      (∀ tail, blockContent? (inner ++ '*' :: '/' :: tail) = some (inner, tail)) →
      Spelled (.blockComment (String.ofList inner)) ('/' :: '*' :: (inner ++ ['*', '/'])) behind
  | string {quote : Char} {inner piece behind : List Char} : isQuote quote = true →
      StringSpelled quote inner piece → Spelled (.string (String.ofList inner)) (quote :: piece) behind
  | plain {t : Token} {piece behind : List Char} : scanComment (piece ++ behind) = none →
      scanPlain (piece ++ behind) = some (t, behind) → Spelled t piece behind

theorem scan_eq : scan = (scanWhitespace <|> scanNewline <|> scanComment <|> scanString <|> scanPlain) := by
  funext text
  simp only [scan, scanLiteral, scanPlain, or_apply]
  cases scanString text <;> rfl

theorem scanNewline_eq_some : scanNewline text = some (token, rest) ↔ token = .newline ∧
    (text = '\n' :: rest ∨ text = '\r' :: '\n' :: rest ∨ text = '\r' :: rest ∧ rest.head? ≠ some '\n') := by
  constructor
  · intro read
    unfold scanNewline at read
    split at read
    · cases read
      exact ⟨rfl, .inr (.inl rfl)⟩
    · cases read
      exact ⟨rfl, .inl rfl⟩
    · rename_i tail other
      cases read
      refine ⟨rfl, .inr (.inr ⟨rfl, fun feed => ?_⟩)⟩
      obtain ⟨more, rfl⟩ := List.head?_eq_some_iff.mp feed
      exact other more rfl
    · exact nomatch read
  · rintro ⟨rfl, rfl | rfl | ⟨rfl, other⟩⟩
    · rfl
    · rfl
    · rw [scanNewline]
      rintro more rfl
      exact other rfl

theorem scanWhitespace_eq_some : scanWhitespace text = some (token, rest) ↔ ∃ run, text = run ++ rest ∧ run ≠ [] ∧
    (∀ c ∈ run, isSpace c = true) ∧ (∀ c ∈ rest.head?, isSpace c = false) ∧
      token = .whitespace (String.ofList run) := by
  have same : scanWhitespace = (fun run => Token.whitespace (String.ofList run)) <$> takeWhile1 isSpace := rfl
  rw [same, map_eq_some]
  constructor
  · rintro ⟨run, taken, rfl⟩
    obtain ⟨spelled, nonempty, spaces, stop⟩ := takeWhile1_eq_some.mp taken
    exact ⟨run, spelled, nonempty, spaces, stop, rfl⟩
  · rintro ⟨run, spelled, nonempty, spaces, stop, rfl⟩
    exact ⟨run, takeWhile1_eq_some.mpr ⟨spelled, nonempty, spaces, stop⟩, rfl⟩

/-- A token other than layout, comments and strings begins with a plain character. It has one, since a reader that took
nothing here would take something of the empty text as well. -/
theorem plain_head {piece : List Char} (taken : scanPlain (piece ++ rest) = some (token, rest)) :
    ∃ c more, piece = c :: more ∧ isPlain c = true := by
  obtain ⟨taking, spelled, plain⟩ := scanPlain_local.takes taken
  cases List.append_cancel_right spelled
  cases piece with
  | nil =>
    have nothing := @Local.keeps _ _ scanPlain_local [] [] rest [] token nofun taken
    exact nomatch nothing
  | cons c more => exact ⟨c, more, rfl, plain c (List.mem_cons_self ..)⟩

/-- Layout is not read where a text begins with another character. -/
theorem scan_of_head {c : Char} (other : isLayout c = false) (text : List Char) :
    scan (c :: text) = (scanComment <|> scanString <|> scanPlain) (c :: text) := by
  obtain ⟨noSpace, noEnd⟩ := Bool.or_eq_false_iff.mp other
  have blanks : scanWhitespace (c :: text) = none := by
    refine Option.eq_none_iff_forall_ne_some.mpr fun (_, rest) read => ?_
    obtain ⟨run, spelled, nonempty, spaces, _⟩ := scanWhitespace_eq_some.mp read
    cases run with
    | nil => exact nonempty rfl
    | cons d run =>
      cases spelled
      rw [spaces c (List.mem_cons_self ..)] at noSpace
      exact nomatch noSpace
  have newline : scanNewline (c :: text) = none := by
    refine Option.eq_none_iff_forall_ne_some.mpr fun (_, rest) read => ?_
    obtain ⟨_, spelled | spelled | ⟨spelled, _⟩⟩ := scanNewline_eq_some.mp read
    all_goals
      cases spelled
      exact nomatch noEnd
  rw [scan_eq, or_apply, blanks, or_apply, newline]
  rfl

/-- A token is read where it is spelled, and nothing else is. -/
theorem scan_eq_some_iff :
    scan text = some (token, rest) ↔ ∃ piece, text = piece ++ rest ∧ Spelled token piece rest := by
  constructor
  · intro read
    rw [scan_eq] at read
    rcases or_eq_some.mp read with blanks | ⟨_, read⟩
    · obtain ⟨run, rfl, nonempty, spaces, stop, rfl⟩ := scanWhitespace_eq_some.mp blanks
      exact ⟨run, rfl, .blanks nonempty spaces stop⟩
    rcases or_eq_some.mp read with newline | ⟨_, read⟩
    · obtain ⟨rfl, rfl | rfl | ⟨rfl, alone⟩⟩ := scanNewline_eq_some.mp newline
      · exact ⟨['\n'], rfl, .lineFeed⟩
      · exact ⟨['\r', '\n'], rfl, .returnFeed⟩
      · exact ⟨['\r'], rfl, .loneReturn alone⟩
    rcases or_eq_some.mp read with comment | ⟨noComment, read⟩
    · rcases or_eq_some.mp comment with block | ⟨_, line⟩
      · obtain ⟨content, rfl, closed, rfl⟩ := scanBlockComment_eq_some.mp block
        exact ⟨'/' :: '*' :: (content ++ ['*', '/']), by simp, .blockComment closed⟩
      · obtain ⟨content, rfl, inLine, ends, rfl⟩ := scanLineComment_eq_some.mp line
        exact ⟨'/' :: '/' :: content, rfl, .lineComment inLine ends⟩
    rcases or_eq_some.mp read with string | ⟨_, plain⟩
    · obtain ⟨quote, content, piece, rfl, mark, spelled, rfl⟩ := scanString_eq_some.mp string
      exact ⟨quote :: piece, rfl, .string mark spelled⟩
    · obtain ⟨piece, rfl, _⟩ := scanPlain_local.takes plain
      exact ⟨piece, rfl, .plain noComment plain⟩
  · rintro ⟨piece, rfl, spelled⟩
    cases spelled with
    | blanks nonempty spaces stop =>
      rw [scan_eq]
      exact or_eq_some.mpr (.inl (scanWhitespace_eq_some.mpr ⟨piece, rfl, nonempty, spaces, stop, rfl⟩))
    | lineFeed => rfl
    | returnFeed => rfl
    | loneReturn alone =>
      rw [scan_eq]
      refine or_eq_some.mpr (.inr ⟨rfl, or_eq_some.mpr (.inl ?_)⟩)
      exact scanNewline_eq_some.mpr ⟨rfl, .inr (.inr ⟨rfl, alone⟩)⟩
    | @lineComment inner _ inLine ends =>
      rw [List.cons_append, scan_of_head (by decide)]
      refine or_eq_some.mpr (.inl (or_eq_some.mpr (.inr ⟨rfl, ?_⟩)))
      exact scanLineComment_eq_some.mpr ⟨inner, rfl, inLine, ends, rfl⟩
    | @blockComment inner _ closed =>
      rw [List.cons_append, scan_of_head (by decide)]
      refine or_eq_some.mpr (.inl (or_eq_some.mpr (.inl ?_)))
      exact scanBlockComment_eq_some.mpr ⟨inner, by simp, closed, rfl⟩
    | @string quote inner piece _ mark spelled =>
      have layout : isLayout quote = false := by
        rcases isQuote_iff.mp mark with rfl | rfl <;> rfl
      have noComment : scanComment (quote :: (piece ++ rest)) = none := by
        rcases isQuote_iff.mp mark with rfl | rfl <;> rfl
      rw [List.cons_append, scan_of_head layout]
      refine or_eq_some.mpr (.inr ⟨noComment, or_eq_some.mpr (.inl ?_)⟩)
      exact scanString_eq_some.mpr ⟨quote, inner, piece, rfl, mark, spelled, rfl⟩
    | plain noComment taken =>
      obtain ⟨c, more, rfl, plain⟩ := plain_head taken
      rw [List.cons_append, scan_of_head (isLayout_of_isPlain plain)]
      refine or_eq_some.mpr (.inr ⟨noComment, or_eq_some.mpr (.inr ⟨?_, taken⟩)⟩)
      refine Option.eq_none_iff_forall_ne_some.mpr fun (_, rest) read => ?_
      obtain ⟨quote, _, _, spelled, mark, _⟩ := scanString_eq_some.mp read
      obtain ⟨rfl, _⟩ := List.cons.inj spelled
      rw [isPlain, mark, Bool.not_true, Bool.and_false] at plain
      exact absurd plain Bool.false_ne_true

theorem scan_loneReturn (alone : text.head? ≠ some '\n') : scan ('\r' :: text) = some (.newline, text) :=
  scan_eq_some_iff.mpr ⟨['\r'], rfl, .loneReturn alone⟩

theorem scan_lineComment (inLine : ∀ c ∈ content, (!isLineEnd c) = true) (ends : EndsLine rest) :
    ∃ comment, scan ('/' :: '/' :: (content ++ rest)) = some (.lineComment comment, rest) :=
  ⟨_, scan_eq_some_iff.mpr ⟨'/' :: '/' :: content, rfl, .lineComment inLine ends⟩⟩

variable {piece near far stop : List Char}

/-- A token other than layout, comments and strings is read in front of any text where such tokens stop,
unless a comment begins with it there. -/
theorem scan_keeps (stops : Stops stop) (taken : scanPlain (piece ++ (near ++ far)) = some (token, near ++ far))
    (noComment : ∀ c more, near = c :: more → c = '/' ∨ c = '*' → token = .operator .divide → piece = ['/'] →
      scanComment ('/' :: c :: (more ++ stop)) = none) :
    scan (piece ++ (near ++ stop)) = some (token, near ++ stop) := by
  have kept := scanPlain_local.keeps stops taken
  refine scan_eq_some_iff.mpr ⟨piece, rfl, .plain ?_ kept⟩
  by_cases comment : ∃ c rest, (c = '/' ∨ c = '*') ∧ piece ++ (near ++ stop) = '/' :: c :: rest
  · obtain ⟨c, rest, mark, whole⟩ := comment
    have divided : scanPlain ('/' :: c :: rest) = some (.operator .divide, c :: rest) := by
      rcases mark with rfl | rfl <;> rfl
    rw [whole, divided] at kept
    obtain ⟨rfl, behind⟩ := Prod.mk.inj (Option.some.inj kept)
    have alone : piece = ['/'] := List.append_cancel_right (whole.trans (congrArg ('/' :: ·) behind))
    cases near with
    | nil =>
      have layout := stops c (congrArg List.head? behind).symm
      rcases mark with rfl | rfl <;> exact nomatch layout
    | cons d more =>
      obtain ⟨rfl, rfl⟩ := List.cons.inj behind
      rw [alone]
      exact noComment c more rfl mark rfl alone
  · refine scanComment_eq_none (fun rest whole => comment ?_) fun rest whole => comment ?_
    · exact ⟨'/', rest, .inl rfl, whole⟩
    · exact ⟨'*', rest, .inr rfl, whole⟩

end Reckoner.Token
