import Reckoner.Proofs.Meaning

namespace Reckoner.Token

open Text Text.Reader

/-- A text with other line ends: each line feed, with the carriage return before it or without that,
has become an ending, and the end of the text the last one. -/
inductive Relaid (Ending Last : List Char → Prop) : List Char → List Char → Prop
  | last {ending : List Char} : Last ending → Relaid Ending Last [] ending
  | keep {c : Char} {t u : List Char} : c ≠ '\n' → Relaid Ending Last t u → Relaid Ending Last (c :: t) (c :: u)
  | feed {ending t u : List Char} : Ending ending → Relaid Ending Last t u →
      Relaid Ending Last ('\n' :: t) (ending ++ u)
  | returnFeed {ending t u : List Char} : Ending ending → Relaid Ending Last t u →
      Relaid Ending Last ('\r' :: '\n' :: t) (ending ++ u)

/-- Endings begin with a line end, and there is nothing but layout in them. -/
structure Endings (Ending Last : List Char → Prop) : Prop where
  begins {ending : List Char} : Ending ending → ∃ c more, ending = c :: more ∧ isLineEnd c = true
  layout {ending : List Char} : Ending ending → ∀ c ∈ ending, isLayout c = true
  last {ending : List Char} : Last ending → ∀ c ∈ ending, isLayout c = true

variable {Ending Last : List Char → Prop} {text rest t u piece : List Char} {c : Char}

namespace Relaid

theorem append (relaid : Relaid Ending Last rest u) (noFeed : '\n' ∉ piece) :
    Relaid Ending Last (piece ++ rest) (piece ++ u) := by
  induction piece with
  | nil => exact relaid
  | cons c piece ih =>
    rw [List.mem_cons, not_or] at noFeed
    exact .keep (Ne.symm noFeed.1) (ih noFeed.2)

/-- What is no line feed, nor a carriage return before one, stays. -/
theorem cons_inv (relaid : Relaid Ending Last (c :: t) u) (noFeed : c ≠ '\n') (other : c = '\r' → t.head? ≠ some '\n') :
    ∃ v, u = c :: v ∧ Relaid Ending Last t v := by
  cases relaid with
  | keep _ relaid => exact ⟨_, rfl, relaid⟩
  | feed => exact absurd rfl noFeed
  | returnFeed => exact absurd rfl (other rfl)

theorem append_inv (relaid : Relaid Ending Last (piece ++ rest) u) (noFeed : '\n' ∉ piece)
    (other : piece.getLast? = some '\r' → rest.head? ≠ some '\n') :
    ∃ v, u = piece ++ v ∧ Relaid Ending Last rest v := by
  induction piece generalizing u with
  | nil => exact ⟨u, rfl, relaid⟩
  | cons c piece ih =>
    rw [List.mem_cons, not_or] at noFeed
    obtain ⟨v, rfl, behind⟩ := cons_inv relaid (Ne.symm noFeed.1) fun same => by
      subst same
      cases piece with
      | nil => exact other rfl
      | cons d piece =>
        rintro ⟨⟩
        exact noFeed.2 (List.mem_cons_self ..)
    obtain ⟨w, rfl, kept⟩ := ih behind noFeed.2 fun last => other (by
      cases piece with
      | nil => exact nomatch last
      | cons d piece => exact last)
    exact ⟨w, rfl, kept⟩

theorem line_inv (relaid : Relaid Ending Last (piece ++ rest) u) (inLine : ∀ c ∈ piece, isLineEnd c = false) :
    ∃ v, u = piece ++ v ∧ Relaid Ending Last rest v :=
  relaid.append_inv (fun feed => nomatch inLine _ feed) fun last => nomatch inLine _ (List.mem_of_getLast? last)

variable (endings : Endings Ending Last)
include endings

/-- The texts are the same up to the first line end that has changed. -/
theorem agree (relaid : Relaid Ending Last t u) : ∃ near far stop, t = near ++ far ∧ u = near ++ stop ∧ Stops stop := by
  have stops {ending : List Char} (here : Ending ending) (u : List Char) : Stops (ending ++ u) := by
    obtain ⟨c, more, rfl, mark⟩ := endings.begins here
    intro d first
    cases first
    rw [isLayout, mark, Bool.or_true]
  induction relaid with
  | @last ending here =>
    exact ⟨[], [], ending, rfl, rfl, fun c first => endings.last here c (List.mem_of_mem_head? first)⟩
  | @keep c t u _ _ ih =>
    obtain ⟨near, far, stop, rfl, rfl, stops⟩ := ih
    exact ⟨c :: near, far, stop, rfl, rfl, stops⟩
  | feed here _ => exact ⟨[], _, _, rfl, rfl, stops here _⟩
  | returnFeed here _ => exact ⟨[], _, _, rfl, rfl, stops here _⟩

theorem head_inv (relaid : Relaid Ending Last t u) (layout : isLayout c = false) (first : u.head? = some c) :
    t.head? = some c := by
  obtain ⟨near, far, stop, rfl, rfl, stops⟩ := relaid.agree endings
  cases near with
  | nil =>
    rw [stops c first] at layout
    exact nomatch layout
  | cons d near => exact first

theorem eq_nil (relaid : Relaid Ending Last t u) (nothing : u = []) : t = [] := by
  cases relaid with
  | last => rfl
  | keep => exact nomatch nothing
  | feed here _ =>
    obtain ⟨c, more, rfl, _⟩ := endings.begins here
    exact nomatch nothing
  | returnFeed here _ =>
    obtain ⟨c, more, rfl, _⟩ := endings.begins here
    exact nomatch nothing

end Relaid

theorem blockContent?_cons (other : ¬ (c = '*' ∧ text.head? = some '/')) :
    blockContent? (c :: text) = (blockContent? text).map fun (content, rest) => ([c] ++ content, rest) := by
  rw [blockContent?]
  · rfl
  · rintro rest rfl rfl
    exact other ⟨rfl, rfl⟩

theorem blockContent?_layout {layout : List Char} (all : ∀ c ∈ layout, isLayout c = true) (text : List Char) :
    blockContent? (layout ++ text) = (blockContent? text).map fun (content, rest) => (layout ++ content, rest) := by
  induction layout with
  | nil => exact Option.map_id'.symm
  | cons c layout ih =>
    obtain ⟨here, later⟩ := List.forall_mem_cons.mp all
    rw [List.cons_append, blockContent?_cons, ih later, Option.map_map]
    · rfl
    · rintro ⟨rfl, _⟩
      exact nomatch here

/-- A block comment ends in both texts or in none, and what follows it is the same but for line ends. -/
def CommentsAlike (Ending Last : List Char → Prop) (t u : List Char) : Prop :=
  (blockContent? t = none ∧ blockContent? u = none) ∨ ∃ content rest content' rest',
    blockContent? t = some (content, rest) ∧ blockContent? u = some (content', rest') ∧ Relaid Ending Last rest rest'

theorem CommentsAlike.extend (alike : CommentsAlike Ending Last t u) (front front' : List Char)
    (before : blockContent? (front ++ t) = (blockContent? t).map fun (content, rest) => (front ++ content, rest))
    (before' : blockContent? (front' ++ u) = (blockContent? u).map fun (content, rest) => (front' ++ content, rest)) :
    CommentsAlike Ending Last (front ++ t) (front' ++ u) := by
  rcases alike with ⟨missing, missing'⟩ | ⟨content, rest, content', rest', found, found', relaid⟩
  · rw [missing] at before
    rw [missing'] at before'
    exact .inl ⟨before, before'⟩
  · rw [found] at before
    rw [found'] at before'
    exact .inr ⟨_, _, _, _, before, before', relaid⟩

theorem Relaid.commentsAlike (endings : Endings Ending Last) (relaid : Relaid Ending Last t u) :
    CommentsAlike Ending Last t u := by
  induction relaid with
  | @last ending here =>
    have nothing := blockContent?_layout (endings.last here) []
    rw [List.append_nil] at nothing
    exact .inl ⟨rfl, nothing⟩
  | @keep c t u _ relaid ih =>
    by_cases closes : c = '*' ∧ t.head? = some '/'
    · obtain ⟨rfl, slash⟩ := closes
      obtain ⟨rest, rfl⟩ := List.head?_eq_some_iff.mp slash
      obtain ⟨rest', rfl, behind⟩ := relaid.cons_inv (by decide) nofun
      exact .inr ⟨[], rest, [], rest', rfl, rfl, behind⟩
    · refine ih.extend [c] [c] (blockContent?_cons closes) (blockContent?_cons fun closes' => closes ?_)
      obtain ⟨rfl, slash⟩ := closes'
      exact ⟨rfl, relaid.head_inv endings rfl slash⟩
  | @feed ending _ _ here _ ih =>
    exact ih.extend ['\n'] ending (blockContent?_layout (List.all_eq_true.mp rfl) _)
      (blockContent?_layout (endings.layout here) _)
  | @returnFeed ending _ _ here _ ih =>
    exact ih.extend ['\r', '\n'] ending (blockContent?_layout (List.all_eq_true.mp rfl) _)
      (blockContent?_layout (endings.layout here) _)

/-- What a token has to be like for a change of line ends not to show: a string does not go over a line
feed, a line comment does not go on, and no comment begins with a sign of division. -/
structure Steady (Ending Last : List Char → Prop) (token : Token) (piece rest : List Char) : Prop where
  string (content : String) : token = .string content → '\n' ∉ piece
  comment (content : String) : token = .lineComment content → EndsLine rest →
    ∀ u, Relaid Ending Last rest u → EndsLine u
  division : token = .operator .divide → ∀ more u, rest = '/' :: more → ReturnsAlone more →
    Relaid Ending Last more u → ReturnsAlone u

theorem StringSpelled.ends {quote : Char} {content : List Char} (spelled : StringSpelled quote content piece) :
    ∃ front, piece = front ++ [quote] := by
  induction spelled with
  | close => exact ⟨[], rfl⟩
  | codePoint _ _ ih =>
    obtain ⟨front, rfl⟩ := ih
    exact ⟨_ :: _ :: _ :: _ :: _ :: _ :: front, rfl⟩
  | continued _ ih =>
    obtain ⟨front, rfl⟩ := ih
    exact ⟨_ :: _ :: front, rfl⟩
  | escaped _ _ _ ih =>
    obtain ⟨front, rfl⟩ := ih
    exact ⟨_ :: _ :: front, rfl⟩
  | char _ _ _ _ ih =>
    obtain ⟨front, rfl⟩ := ih
    exact ⟨_ :: front, rfl⟩

variable {token : Token}

/-- No comment begins with a sign of division where none began with it before. -/
theorem Relaid.division (endings : Endings Ending Last) {more far stop : List Char}
    (relaid : Relaid Ending Last (c :: (more ++ far)) (c :: (more ++ stop))) (mark : c = '/' ∨ c = '*')
    (noComment : scanComment ('/' :: c :: (more ++ far)) = none)
    (steady : Steady Ending Last (.operator .divide) piece (c :: (more ++ far))) :
    scanComment ('/' :: c :: (more ++ stop)) = none := by
  obtain ⟨noBlock, noLine⟩ := or_eq_none.mp noComment
  rcases mark with rfl | rfl
  · obtain ⟨_, same, behind⟩ := relaid.cons_inv (by decide) nofun
    cases same
    have alone := steady.division rfl _ _ rfl (scanLineComment_eq_none.mp noLine) behind
    exact or_eq_none.mpr ⟨rfl, scanLineComment_eq_none.mpr alone⟩
  · obtain ⟨_, same, behind⟩ := relaid.cons_inv (by decide) nofun
    cases same
    have unclosed : blockContent? (more ++ far) = none := Option.map_eq_none_iff.mp noBlock
    rcases behind.commentsAlike endings with ⟨_, missing⟩ | ⟨_, _, _, _, found, _⟩
    · exact or_eq_none.mpr ⟨Option.map_eq_none_iff.mpr missing, rfl⟩
    · rw [unclosed] at found
      exact nomatch found

/-- One token means the same with other line ends. -/
theorem Relaid.meaning?_token (endings : Endings Ending Last) (read : scan (piece ++ rest) = some (token, rest))
    (steady : Steady Ending Last token piece rest) (relaid : Relaid Ending Last (piece ++ rest) u) :
    ∃ v, Relaid Ending Last rest v ∧ meaning? u = (meaning? v).map ([token].filter isSignificant ++ ·) := by
  have same {v : List Char} (kept : Relaid Ending Last rest v) (read : scan (piece ++ v) = some (token, v)) :
      ∃ w, Relaid Ending Last rest w ∧ meaning? (piece ++ v) = (meaning? w).map ([token].filter isSignificant ++ ·) :=
    ⟨v, kept, meaning?_of_scan read⟩
  have skip {u v : List Char} (kept : Relaid Ending Last rest v) (empty : token.isSignificant = false)
      (means : meaning? u = meaning? v) :
      ∃ w, Relaid Ending Last rest w ∧ meaning? u = (meaning? w).map ([token].filter isSignificant ++ ·) :=
    ⟨v, kept, means.trans (map_meaning?_empty empty v).symm⟩
  obtain ⟨_, whole, spelled⟩ := scan_eq_some_iff.mp read
  cases List.append_cancel_right whole
  cases spelled with
  | blanks _ spaces =>
    obtain ⟨v, rfl, kept⟩ := relaid.line_inv fun c member => by
      rcases (Bool.or_eq_true ..).mp (spaces c member) with same | same <;> cases eq_of_beq same <;> rfl
    exact skip kept rfl (meaning?_layout (fun c member => isLayout_of_isSpace (spaces c member)) v)
  | lineFeed =>
    cases relaid with
    | keep other => exact absurd rfl other
    | feed here kept => exact skip kept rfl (meaning?_layout (endings.layout here) _)
  | returnFeed =>
    cases relaid with
    | returnFeed here kept => exact skip kept rfl (meaning?_layout (endings.layout here) _)
    | keep _ relaid =>
      cases relaid with
      | keep other => exact absurd rfl other
      | feed here kept =>
        exact skip kept rfl ((meaning?_layoutChar rfl _).trans (meaning?_layout (endings.layout here) _))
  | loneReturn alone =>
    obtain ⟨v, rfl, kept⟩ := relaid.cons_inv (by decide) fun _ => alone
    exact skip kept rfl (meaning?_layoutChar rfl v)
  | @lineComment inner _ inLine ends =>
    have inLine' : ∀ c ∈ '/' :: '/' :: inner, isLineEnd c = false :=
      List.forall_mem_cons.mpr ⟨rfl, List.forall_mem_cons.mpr ⟨rfl, fun c member => by simpa using inLine c member⟩⟩
    obtain ⟨v, rfl, kept⟩ := relaid.line_inv inLine'
    exact same kept (scan_eq_some_iff.mpr ⟨_, rfl, .lineComment inLine (steady.comment _ rfl ends v kept)⟩)
  | @blockComment inner _ closed =>
    have text : '/' :: '*' :: (inner ++ ['*', '/']) ++ rest = ['/', '*'] ++ (inner ++ '*' :: '/' :: rest) := by simp
    rw [text] at relaid
    obtain ⟨v, rfl, inside⟩ := relaid.line_inv (List.forall_mem_cons.mpr ⟨rfl, List.forall_mem_singleton.mpr rfl⟩)
    rcases inside.commentsAlike endings with ⟨missing, _⟩ | ⟨_, _, content', rest', found, found', kept⟩
    · rw [closed] at missing
      cases missing
    · cases (closed rest).symm.trans found
      obtain ⟨rfl, closed'⟩ := blockContent?_spelled found'
      have read : scan ('/' :: '*' :: (content' ++ '*' :: '/' :: rest')) =
          some (.blockComment (String.ofList content'), rest') :=
        scan_eq_some_iff.mpr ⟨_, by simp, .blockComment closed'⟩
      exact skip kept rfl (meaning?_skip read rfl)
  | @string quote inner piece _ mark spelled =>
    obtain ⟨v, rfl, kept⟩ := relaid.append_inv (steady.string _ rfl) fun last => by
      obtain ⟨front, rfl⟩ := spelled.ends
      rw [← List.cons_append, List.getLast?_concat] at last
      cases last
      exact absurd mark (by decide)
    exact same kept (scan_eq_some_iff.mpr ⟨_, rfl, .string mark spelled⟩)
  | plain noComment taken =>
    obtain ⟨_, whole, plain⟩ := scanPlain_local.takes taken
    cases List.append_cancel_right whole
    obtain ⟨v, rfl, kept⟩ := relaid.line_inv fun c member =>
      (Bool.or_eq_false_iff.mp (isLayout_of_isPlain (plain c member))).2
    obtain ⟨near, far, stop, rfl, rfl, stops⟩ := kept.agree endings
    refine same kept (scan_keeps stops taken fun c more split mark division alone => ?_)
    subst split division alone
    exact kept.division endings mark noComment steady

variable {last : List Char} {pieces : List (Token × List Char)}

/-- A text means the same with other line ends if each of its tokens does, and if it cannot be cut to its
end, the other text cannot either. -/
theorem Relaid.meaning? (endings : Endings Ending Last) (cuts : Cuts last text pieces) (ended : scan last = none)
    (steady : ∀ front token piece back, pieces = front ++ (token, piece) :: back →
      Steady Ending Last token piece (spelling back ++ last))
    (stuck : last ≠ [] → ∀ v, Relaid Ending Last last v → scan v = none) (relaid : Relaid Ending Last text u) :
    meaning? u = meaning? text := by
  induction cuts generalizing u with
  | done =>
    by_cases whole : last = []
    · subst whole
      cases relaid with
      | last here =>
        have nothing := meaning?_layout (endings.last here) []
        rw [List.append_nil] at nothing
        exact nothing
    · have nonempty : u ≠ [] := fun nothing => whole (relaid.eq_nil endings nothing)
      rw [meaning?_of_ended ended whole, meaning?_of_ended (stuck whole u relaid) nonempty]
  | @token t piece behind pieces read cuts ih =>
    obtain ⟨v, kept, means⟩ := relaid.meaning?_token endings read (cuts.text_eq ▸ steady [] t piece pieces rfl)
    rw [means, meaning?_of_scan read, ih (fun front t piece back split => ?_) kept]
    exact steady (_ :: front) t piece back (by rw [split]; rfl)

end Reckoner.Token
