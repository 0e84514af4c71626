import Reckoner.Proofs.Compilation
import Reckoner.Proofs.RadixDigits
import Reckoner.Proofs.Relaying

namespace Reckoner

namespace Number

/-- No line end stands among hexadecimal digits. -/
theorem readNatural?_inLine {text : List Char} {n : Nat} (read : readNatural? 16 text = some n) :
    ∀ c ∈ text, Token.isLineEnd c = false := by
  have absent : (smallFigures ++ capitalFigures).any Token.isLineEnd = false := by decide
  have figures (c) (figure : c ∈ smallFigures ++ capitalFigures) : Token.isLineEnd c = false :=
    Bool.eq_false_of_not_eq_true (List.any_eq_false.mp absent c figure)
  rcases (readNatural?_eq_some (by decide)).mp read with natural | ⟨rest, rfl, natural⟩
  · exact fun c member => figures c (natural.mem_figures c member)
  · exact List.forall_mem_cons.mpr ⟨rfl, fun c member => figures c (natural.mem_figures c member)⟩

end Number

namespace Token

open Text Text.Reader

variable {ending text t u v rest content piece : List Char} {quote c : Char}

/-- A line end that begins with a carriage return. -/
def IsReturn (ending : List Char) : Prop := ending = ['\r'] ∨ ending = ['\r', '\n']

theorem IsReturn.endings (returns : IsReturn ending) : Endings (· = ending) (· = []) := by
  refine ⟨fun same => ?_, fun same => ?_, fun same => ?_⟩
  · subst same
    rcases returns with rfl | rfl
    · exact ⟨_, _, rfl, rfl⟩
    · exact ⟨_, _, rfl, rfl⟩
  · subst same
    rcases returns with rfl | rfl <;> exact List.all_eq_true.mp rfl
  · subst same
    exact nofun

/-- A text with another line end in the place of each line feed. -/
def replaced (ending text : List Char) : List Char := text.flatMap fun c => if c = '\n' then ending else [c]

theorem relaid_replaced (ending text : List Char) : Relaid (· = ending) (· = []) text (replaced ending text) := by
  induction text with
  | nil => exact .last rfl
  | cons c text ih =>
    rw [replaced, List.flatMap_cons]
    by_cases feed : c = '\n'
    · subst feed
      rw [if_pos rfl]
      exact .feed rfl ih
    · rw [if_neg feed]
      exact .keep feed ih

/-- What has no line end in it was there before. -/
theorem Relaid.kept (returns : IsReturn ending) (piece : List Char)
    (relaid : Relaid (· = ending) (· = []) t (piece ++ u))
    (inLine : ∀ c ∈ piece, isLineEnd c = false) : ∃ v, t = piece ++ v ∧ Relaid (· = ending) (· = []) v u := by
  induction piece generalizing t with
  | nil => exact ⟨t, rfl, relaid⟩
  | cons c piece ih =>
    obtain ⟨here, later⟩ := List.forall_mem_cons.mp inLine
    obtain ⟨first, more, rfl, mark⟩ := returns.endings.begins rfl
    generalize same : c :: piece ++ u = text at relaid
    cases relaid with
    | last nothing =>
      subst nothing
      exact nomatch same
    | keep _ behind =>
      cases same
      obtain ⟨v, rfl, kept⟩ := ih behind later
      exact ⟨v, rfl, kept⟩
    | feed ending _ | returnFeed ending _ =>
      subst ending
      rw [(List.cons.inj same).1, mark] at here
      exact nomatch here

/-- A carriage return that no line feed follows stands for a line feed. -/
theorem Relaid.of_return (returns : IsReturn ending) (relaid : Relaid (· = ending) (· = []) t ('\r' :: u))
    (noReturn : '\r' ∉ t) (alone : u.head? ≠ some '\n') : ∃ v, t = '\n' :: v ∧ Relaid (· = ending) (· = []) v u := by
  generalize same : '\r' :: u = text at relaid
  cases relaid with
  | last nothing =>
    subst nothing
    exact nomatch same
  | keep _ _ =>
    cases same
    exact absurd (List.mem_cons_self ..) noReturn
  | returnFeed _ _ => exact absurd (List.mem_cons_self ..) noReturn
  | feed here kept =>
    subst here
    rcases returns with rfl | rfl
    · cases same
      exact ⟨_, rfl, kept⟩
    · cases same
      exact absurd rfl alone

theorem Relaid.head_ne_feed (returns : IsReturn ending) (relaid : Relaid (· = ending) (· = []) t u) :
    u.head? ≠ some '\n' := by
  cases relaid with
  | last nothing =>
    subst nothing
    exact nofun
  | keep noFeed _ => exact fun same => noFeed (Option.some.inj same)
  | feed here _ | returnFeed here _ =>
    subst here
    rcases returns with rfl | rfl <;> exact nofun

theorem StringSpelled.head_inLine (mark : isQuote quote = true) (spelled : StringSpelled quote content piece)
    (rest : List Char) : (piece ++ rest).head? ≠ some '\n' := by
  cases spelled with
  | close => rcases isQuote_iff.mp mark with rfl | rfl <;> exact nofun
  | char _ _ inLine _ =>
    rintro ⟨⟩
    exact nomatch inLine
  | _ => exact nofun

/-- Where a string is spelled in the text with other line ends, there was one before. A carriage return that is escaped
now was the line feed of a continuation, and a line feed stands behind no other character than a carriage return. -/
theorem StringSpelled.exists_before (returns : IsReturn ending) (mark : isQuote quote = true)
    (spelled : StringSpelled quote content piece) (noReturn : '\r' ∉ t)
    (relaid : Relaid (· = ending) (· = []) t (piece ++ rest)) :
    ∃ content' piece' rest', t = piece' ++ rest' ∧ StringSpelled quote content' piece' := by
  induction spelled generalizing t with
  | close =>
    obtain ⟨v, rfl, _⟩ := relaid.kept returns [quote]
      (List.forall_mem_singleton.mpr (by rcases isQuote_iff.mp mark with rfl | rfl <;> rfl))
    exact ⟨[], [quote], v, rfl, .close⟩
  | @codePoint a b c d _ _ _ value _ ih =>
    obtain ⟨n, number, _⟩ := Option.bind_eq_some_iff.mp value
    have inLine : ∀ e ∈ ['\\', 'u', a, b, c, d], isLineEnd e = false :=
      List.forall_mem_cons.mpr ⟨rfl, List.forall_mem_cons.mpr ⟨rfl, Number.readNatural?_inLine number⟩⟩
    obtain ⟨v, rfl, kept⟩ := relaid.kept returns ['\\', 'u', a, b, c, d] inLine
    obtain ⟨_, _, rest', rfl, before⟩ := ih (fun member => noReturn (List.mem_append_right _ member)) kept
    exact ⟨_, _, rest', rfl, .codePoint value before⟩
  | continued _ _ =>
    obtain ⟨v, rfl, kept⟩ := relaid.kept returns ['\\'] (List.forall_mem_singleton.mpr rfl)
    exact absurd rfl (kept.head_ne_feed returns)
  | @escaped c _ piece noCode noFeed spelled ih =>
    cases ending : isLineEnd c with
    | false =>
      obtain ⟨v, rfl, kept⟩ := relaid.kept returns ['\\', c] (by simp [ending]; rfl)
      obtain ⟨_, _, rest', rfl, before⟩ := ih (fun member => noReturn (List.mem_append_right _ member)) kept
      exact ⟨_, _, rest', rfl, .escaped noCode noFeed before⟩
    | true =>
      obtain rfl : c = '\r' := by
        rcases (Bool.or_eq_true ..).mp ending with same | same
        · exact eq_of_beq same
        · exact absurd (eq_of_beq same) noFeed
      obtain ⟨v, rfl, kept⟩ := relaid.kept returns ['\\'] (List.forall_mem_singleton.mpr rfl)
      obtain ⟨w, rfl, behind⟩ := kept.of_return returns (fun member => noReturn (List.mem_append_right _ member))
        (spelled.head_inLine mark rest)
      have noReturn : '\r' ∉ w := fun member => noReturn (List.mem_cons_of_mem _ (List.mem_cons_of_mem _ member))
      obtain ⟨_, _, rest', rfl, before⟩ := ih noReturn behind
      exact ⟨_, _, rest', rfl, .continued before⟩
  | @char c _ _ noQuote noSlash inLine _ ih =>
    obtain ⟨v, rfl, kept⟩ := relaid.kept returns [c] (by simpa using inLine)
    obtain ⟨_, _, rest', rfl, before⟩ := ih (fun member => noReturn (List.mem_cons_of_mem _ member)) kept
    exact ⟨_, _, rest', rfl, .char noQuote noSlash inLine before⟩

theorem scanPlain_slash (text : List Char) : scanPlain ('/' :: text) ≠ none := by
  intro stuck
  obtain ⟨operator, _⟩ := or_eq_none.mp (or_eq_none.mp (or_eq_none.mp stuck).2).2
  have divide := List.findSome?_eq_none_iff.mp operator .divide (by decide)
  exact nomatch divide

theorem scan_ne_none_of_layout (layout : isLayout c = true) (text : List Char) : scan (c :: text) ≠ none := by
  rcases (Bool.or_eq_true ..).mp layout with space | ending
  · rw [scan_space space]
    exact nofun
  rcases (Bool.or_eq_true ..).mp ending with same | same <;> cases eq_of_beq same
  · by_cases feed : text.head? = some '\n'
    · obtain ⟨more, rfl⟩ := List.head?_eq_some_iff.mp feed
      exact nofun
    · rw [scan_loneReturn feed]
      exact nofun
  · exact nofun

/-- Where no token is read, none is read with other line ends. -/
theorem Relaid.scan_eq_none (returns : IsReturn ending) (noReturn : '\r' ∉ t) (nonempty : t ≠ [])
    (ended : scan t = none) (relaid : Relaid (· = ending) (· = []) t u) : scan u = none := by
  cases t with
  | nil => exact absurd rfl nonempty
  | cons c t =>
    cases layout : isLayout c with
    | true => exact absurd ended (scan_ne_none_of_layout layout t)
    | false =>
      obtain ⟨near, far, stop, whole, whole', stops⟩ := relaid.agree returns.endings
      obtain ⟨v, rfl, kept⟩ :=
        relaid.cons_inv (by rintro rfl; exact nomatch layout) (by rintro rfl; exact nomatch layout)
      rw [scan_of_head layout] at ended ⊢
      obtain ⟨_, ended⟩ := or_eq_none.mp ended
      obtain ⟨noString, noPlain⟩ := or_eq_none.mp ended
      have noSlash : c ≠ '/' := by
        rintro rfl
        exact scanPlain_slash t noPlain
      refine or_eq_none.mpr ⟨?_, or_eq_none.mpr ⟨?_, ?_⟩⟩
      · exact scanComment_eq_none (fun _ same => noSlash (List.cons.inj same).1)
          fun _ same => noSlash (List.cons.inj same).1
      · refine Option.eq_none_iff_forall_ne_some.mpr fun (_, rest) read => ?_
        obtain ⟨quote, content, piece, same, mark, spelled, _⟩ := scanString_eq_some.mp read
        cases same
        obtain ⟨content', piece', rest', rfl, before⟩ :=
          spelled.exists_before returns mark (fun member => noReturn (List.mem_cons_of_mem _ member)) kept
        exact nomatch noString.symm.trans (scanString_eq_some.mpr ⟨c, content', piece', rfl, mark, before, rfl⟩)
      · rw [whole] at noPlain
        rw [whole']
        exact scanPlain_local.refuses stops noPlain

variable {last : List Char} {pieces : List (Token × List Char)}

theorem ReturnsAlone.mem (alone : ReturnsAlone text) : '\r' ∈ text := by
  obtain ⟨content, rest, rfl, _⟩ := alone
  exact List.mem_append_right _ (List.mem_cons_self ..)

/-- Where strings have no line feed in them and line comments end as well, other line ends do not show. -/
theorem meaning?_replaced (returns : IsReturn ending) (noReturn : '\r' ∉ text) (cuts : Cuts last text pieces)
    (ended : scan last = none) (strings : ∀ content piece, (.string content, piece) ∈ pieces → '\n' ∉ piece)
    (comments : ending = ['\r', '\n'] ∨
      ∀ front content piece back, pieces = front ++ (.lineComment content, piece) :: back →
      (spelling back ++ last).head? ≠ some '\n') : meaning? (replaced ending text) = meaning? text := by
  have spelled := cuts.text_eq
  refine Relaid.meaning? returns.endings cuts ended (fun front token piece back split => ?_) (fun nonempty v => ?_)
    (relaid_replaced ending text)
  · have noReturn : '\r' ∉ spelling back ++ last := by
      rw [spelled, split, spelling_append, spelling_cons] at noReturn
      exact fun member => noReturn (by simp at member ⊢; simp [member])
    refine ⟨fun content same => ?_, fun content same ends u relaid => ?_, fun _ more u same alone => ?_⟩
    · exact strings content piece (by rw [split, same]; simp)
    · subst same
      rcases ends with nothing | ⟨rest, feed⟩ | ⟨rest, both⟩
      · rw [nothing] at relaid
        cases relaid with
        | last same => exact .inl same
      · rcases comments with rfl | comments
        · rw [feed] at relaid
          cases relaid with
          | keep other _ => exact absurd rfl other
          | feed here _ =>
            subst here
            exact .inr (.inr ⟨_, rfl⟩)
        · exact absurd (by rw [feed]; rfl) (comments front content piece back split)
      · rw [both] at noReturn
        exact absurd (List.mem_cons_self ..) noReturn
    · rw [same] at noReturn
      exact absurd (List.mem_cons_of_mem _ alone.mem) noReturn
  · refine Relaid.scan_eq_none returns (fun member => noReturn ?_) nonempty ended
    rw [spelled]
    exact List.mem_append_right _ member

end Token

/-- A source with another line end in the place of each line feed. -/
def withLineEnds (ending source : String) : String := String.ofList (Token.replaced ending.toList source.toList)

/-- A source without carriage returns is accepted with the same body if its lines end in a carriage return
and a line feed, as long as no string goes over a line end; if no line comment is followed by a line, they
may end in a carriage return alone as well. -/
theorem compileBody_withLineEnds {source : String} {last : List Char} {pieces : List (Token × List Char)}
    (noReturn : '\r' ∉ source.toList) (cuts : Token.Cuts last source.toList pieces) (ended : Token.scan last = none)
    (strings : ∀ content piece, (.string content, piece) ∈ pieces → '\n' ∉ piece) :
    (∀ name body, compileBody name (withLineEnds "\r\n" source) = .ok body ↔ compileBody name source = .ok body) ∧
    ((∀ front content piece back, pieces = front ++ (.lineComment content, piece) :: back →
        (Token.spelling back ++ last).head? ≠ some '\n') →
      ∀ name body, compileBody name (withLineEnds "\r" source) = .ok body ↔ compileBody name source = .ok body) ∧
    (∀ content rest, (∀ c ∈ content, (!Token.isLineEnd c) = true) → Token.EndsLine rest →
      ∃ comment, Token.scan ('/' :: '/' :: (content ++ rest)) = some (.lineComment comment, rest)) ∧
    ∀ quote rest, Token.stringContent? quote ('\\' :: '\n' :: rest) = Token.stringContent? quote rest := by
  have same {ending : String} (returns : Token.IsReturn ending.toList)
      (comments : ending.toList = ['\r', '\n'] ∨ ∀ front content piece back,
        pieces = front ++ (.lineComment content, piece) :: back → (Token.spelling back ++ last).head? ≠ some '\n')
      (name : String) (body : Body) :
      compileBody name (withLineEnds ending source) = .ok body ↔ compileBody name source = .ok body := by
    rw [compileBody_eq_ok_iff, compileBody_eq_ok_iff, withLineEnds, String.toList_ofList,
      Token.meaning?_replaced returns noReturn cuts ended strings comments]
  exact ⟨same (.inr rfl) (.inl rfl), fun comments => same (.inl rfl) (.inr comments),
    fun _ _ => Token.scan_lineComment, fun _ _ => rfl⟩

theorem compileBody_withLineEnds_string : ∃ body, compileBody "x" "'b'\n// c" = .ok body ∧
    compileBody "x" (withLineEnds "\r\n" "'b'\n// c") = .ok body ∧
    compileBody "x" (withLineEnds "\r" "'b'\n// c") = .ok body := by
  refine exists_ok_and (by decide +kernel) fun body accepted => ?_
  have cuts : Token.Cuts [] "'b'\n// c".toList
      [(.string "b", "'b'".toList), (.newline, "\n".toList), (.lineComment "c", "// c".toList)] :=
    @Token.Cuts.token _ _ "'b'".toList "\n// c".toList _ rfl <|
    @Token.Cuts.token _ _ "\n".toList "// c".toList _ rfl <|
    @Token.Cuts.token _ _ "// c".toList [] _ rfl .done
  obtain ⟨both, alone, _⟩ := compileBody_withLineEnds (by decide) cuts rfl (by simp)
  refine ⟨(both "x" body).mpr accepted, (alone ?_ "x" body).mpr accepted⟩
  intro front content piece back split
  rcases front with _ | ⟨_, _ | ⟨_, _ | ⟨_, front⟩⟩⟩
  all_goals simp at split
  obtain ⟨_, _, _, _, rfl⟩ := split
  exact nofun

/-- A line comment does not end in a carriage return alone. -/
theorem compileBody_withLineEnds_comment : '\r' ∉ "// c\nreturn 1;".toList ∧
    (compileBody "x" "// c\nreturn 1;").isOk = true ∧
    (compileBody "x" (withLineEnds "\r" "// c\nreturn 1;")).isOk = false := by
  refine ⟨by decide, ?_, ?_⟩ <;> decide +kernel

end Reckoner
