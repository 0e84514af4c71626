import Reckoner.Proofs.RadixDigits
import Reckoner.Proofs.Repetition
import Reckoner.Proofs.Spelling

namespace Reckoner.Token

open Number

/-- One item between the quotation marks of a string literal, behind the characters that it denotes. -/
inductive Item (quote : Char) : List Char → List Char → Prop
  | char {c : Char} : c ≠ quote → c ≠ '\\' → c ≠ '\n' → c ≠ '\r' → Item quote [c] [c]
  | codePoint {digits : List Char} {n : ℕ} : digits.length = 4 → IsNatural 16 digits n → n.isValidChar →
      Item quote [Char.ofNat n] ('\\' :: 'u' :: digits)
  | continued : Item quote [] ['\\', '\n']
  | escaped {c : Char} : c ≠ 'u' → c ≠ '\n' → Item quote [unescape c] ['\\', c]

/-- A text begins with a string literal, of whose items a content is put together, and goes on with a rest. -/
def StringLiteral (text content rest : List Char) : Prop :=
  ∃ quote parts piece, (quote = '\x22' ∨ quote = '\x27') ∧ text = quote :: (piece ++ quote :: rest) ∧
    Repeated (Item quote) parts piece ∧ content = parts.flatten

/-- Behind a quotation mark and items the text goes on with a code point that has a plus sign in place of its first
digit. -/
def SignedEscape (text : List Char) : Prop :=
  ∃ quote parts piece digits n rest, (quote = '\x22' ∨ quote = '\x27') ∧
    text = quote :: (piece ++ '\\' :: 'u' :: '+' :: (digits ++ rest)) ∧ Repeated (Item quote) parts piece ∧
    digits.length = 3 ∧ IsNatural 16 digits n

variable {quote : Char} {text content rest piece part : List Char} {parts : List (List Char)}

theorem isLineEnd_eq_false_iff {c : Char} : isLineEnd c = false ↔ c ≠ '\n' ∧ c ≠ '\r' := by
  rw [isLineEnd, Bool.or_eq_false_iff, beq_eq_false_iff_ne, beq_eq_false_iff_ne, and_comm]

theorem ofCodePoint?_eq_some {n : ℕ} {c : Char} : ofCodePoint? n = some c ↔ n.isValidChar ∧ Char.ofNat n = c := by
  rw [ofCodePoint?, Option.ite_none_right_eq_some, Option.some_inj]

/-- An item in front of a spelled content. -/
theorem Item.spelled {inner : List Char} (item : Item quote part piece) (spelled : StringSpelled quote inner text) :
    StringSpelled quote (part ++ inner) (piece ++ text) := by
  cases item with
  | char noQuote noSlash noFeed noReturn =>
    exact .char noQuote noSlash (isLineEnd_eq_false_iff.mpr ⟨noFeed, noReturn⟩) spelled
  | @codePoint digits n four natural valid =>
    have read : readNatural? 16 digits = some n := (readNatural?_eq_some (by decide)).mpr (.inl natural)
    obtain ⟨a, b, c, d, rfl⟩ := List.length_eq_four.mp four
    exact .codePoint (Option.bind_eq_some_iff.mpr ⟨n, read, ofCodePoint?_eq_some.mpr ⟨valid, rfl⟩⟩) spelled
  | continued => exact .continued spelled
  | escaped noCode noFeed => exact .escaped noCode noFeed spelled

theorem spelled_of_items (items : Repeated (Item quote) parts piece) :
    StringSpelled quote parts.flatten (piece ++ [quote]) := by
  induction items with
  | nil => exact .close
  | cons item _ ih =>
    rw [List.flatten_cons, List.append_assoc]
    exact item.spelled ih

/-- What spells a content is items and the closing quotation mark, or has a signed code point behind items. -/
inductive Ends (quote : Char) : List Char → List Char → Prop
  | close {parts : List (List Char)} {piece : List Char} : Repeated (Item quote) parts piece →
      Ends quote parts.flatten (piece ++ [quote])
  | signed {parts : List (List Char)} {piece digits content rest : List Char} {n : ℕ} :
      Repeated (Item quote) parts piece → digits.length = 3 → IsNatural 16 digits n →
      Ends quote content (piece ++ '\\' :: 'u' :: '+' :: (digits ++ rest))

theorem Ends.cons (item : Item quote part piece) (ends : Ends quote content text) :
    Ends quote (part ++ content) (piece ++ text) := by
  cases ends with
  | close items =>
    rw [← List.append_assoc, ← List.flatten_cons]
    exact .close (.cons item items)
  | signed items three natural =>
    rw [← List.append_assoc]
    exact .signed (.cons item items) three natural

theorem ends_of_spelled (spelled : StringSpelled quote content piece) : Ends quote content piece := by
  induction spelled with
  | close => exact .close .nil
  | @codePoint a b c d denoted inner piece value _ ih =>
    obtain ⟨n, read, made⟩ := Option.bind_eq_some_iff.mp value
    obtain ⟨valid, rfl⟩ := ofCodePoint?_eq_some.mp made
    rcases (readNatural?_eq_some (by decide)).mp read with natural | ⟨digits, same, natural⟩
    · exact ih.cons (.codePoint rfl natural valid)
    · cases same
      exact .signed .nil rfl natural
  | continued _ ih => exact ih.cons .continued
  | escaped noCode noFeed _ ih => exact ih.cons (.escaped noCode noFeed)
  | char noQuote noSlash noEnd _ ih =>
    obtain ⟨noFeed, noReturn⟩ := isLineEnd_eq_false_iff.mp noEnd
    exact ih.cons (.char noQuote noSlash noFeed noReturn)

theorem StringLiteral.scanString (literal : StringLiteral text content rest) :
    scanString text = some (.string (String.ofList content), rest) := by
  obtain ⟨quote, parts, piece, mark, rfl, items, rfl⟩ := literal
  refine scanString_eq_some.mpr ⟨quote, _, _, ?_, isQuote_iff.mpr mark, spelled_of_items items, rfl⟩
  rw [List.append_assoc]
  rfl

/-- Every character is denoted by an item. -/
theorem exists_item (mark : quote = '\x22' ∨ quote = '\x27') (c : Char) : ∃ piece, Item quote [c] piece := by
  by_cases feed : c = '\n'
  · subst feed
    exact ⟨_, .escaped (c := 'n') (by decide) (by decide)⟩
  by_cases back : c = '\r'
  · subst back
    exact ⟨_, .escaped (c := 'r') (by decide) (by decide)⟩
  by_cases slash : c = '\\'
  · subst slash
    exact ⟨_, .escaped (c := '\\') (by decide) (by decide)⟩
  by_cases closing : c = quote
  · subst closing
    rcases mark with rfl | rfl
    · exact ⟨_, .escaped (c := '\x22') (by decide) (by decide)⟩
    · exact ⟨_, .escaped (c := '\x27') (by decide) (by decide)⟩
  · exact ⟨[c], .char closing slash feed back⟩

/-- A string is read where its grammar says so, apart from texts with a signed code point; and both quotation marks
serve to write every string. -/
theorem scanString_iff_stringLiteral {text : List Char} :
    (¬SignedEscape text → ∀ token rest, scanString text = some (token, rest) ↔
      ∃ content, StringLiteral text content rest ∧ token = .string (String.ofList content)) ∧
    ∀ quote, quote = '\x22' ∨ quote = '\x27' → ∀ content : String, ∃ piece, ∀ rest,
      scanString (quote :: (piece ++ quote :: rest)) = some (.string content, rest) := by
  refine ⟨fun unsigned token rest => ⟨fun read => ?_, ?_⟩, fun quote mark content => ?_⟩
  · obtain ⟨quote, content, piece, rfl, mark, spelled, rfl⟩ := scanString_eq_some.mp read
    cases ends_of_spelled spelled with
    | @close parts piece items =>
      refine ⟨_, ⟨quote, parts, piece, isQuote_iff.mp mark, ?_, items, rfl⟩, rfl⟩
      rw [List.append_assoc]
      rfl
    | @signed _ _ _ _ behind _ items three natural =>
      refine absurd ⟨quote, _, _, _, _, behind ++ rest, isQuote_iff.mp mark, ?_, items, three, natural⟩ unsigned
      simp only [List.append_assoc, List.cons_append]
  · rintro ⟨content, literal, rfl⟩
    exact literal.scanString
  · have each : ∀ part ∈ content.toList.map ([·]), ∃ piece, Item quote part piece := by
      intro part member
      obtain ⟨c, -, rfl⟩ := List.mem_map.mp member
      exact exists_item mark c
    obtain ⟨piece, items⟩ := exists_repeated each
    refine ⟨piece, fun rest => ?_⟩
    have literal : StringLiteral (quote :: (piece ++ quote :: rest)) content.toList rest :=
      ⟨quote, _, piece, mark, rfl, items, (List.flatMap_singleton' _).symm⟩
    rw [literal.scanString, String.ofList_toList]

/-- A code point, an escaped quotation mark and a continued line. -/
theorem scanString_iff_stringLiteral_escapes :
    ¬SignedEscape "'\\u00e9\\'\\\n!'?".toList ∧
      ∃ content, StringLiteral "'\\u00e9\\'\\\n!'?".toList content "?".toList ∧
        Token.string "é'!" = .string (String.ofList content) := by
  have unsigned : ¬SignedEscape "'\\u00e9\\'\\\n!'?".toList := by
    rintro ⟨quote, parts, piece, digits, n, rest, -, same, -⟩
    have member : '+' ∈ "'\\u00e9\\'\\\n!'?".toList := same ▸ by simp
    exact absurd member (by decide)
  exact ⟨unsigned, (scanString_iff_stringLiteral.1 unsigned _ _).mp (by decide)⟩

/-- Three digits behind a plus sign are read as a code point, which the grammar does not allow. -/
theorem scanString_signed : ¬∀ text token rest, scanString text = some (token, rest) ↔
    ∃ content, StringLiteral text content rest ∧ token = .string (String.ofList content) := by
  intro every
  obtain ⟨content, ⟨quote, parts, piece, -, same, items, -⟩, -⟩ :=
    (every ['\x27', '\\', 'u', '+', '0', '4', '1', '\x27'] (.string "A") []).mp (by decide)
  cases items with
  | nil => cases same
  | cons item _ =>
    cases item with
    | char _ noSlash _ _ => exact noSlash (List.cons.inj (List.cons.inj same).2).1.symm
    | codePoint four natural _ =>
      obtain ⟨a, b, c, d, rfl⟩ := List.length_eq_four.mp four
      simp only [List.cons_append, List.cons.injEq] at same
      exact not_isNatural_plus (same.2.2.2.1 ▸ natural)
    | continued => exact absurd (List.cons.inj (List.cons.inj (List.cons.inj same).2).2).1 (by decide)
    | escaped noCode _ => exact noCode (List.cons.inj (List.cons.inj (List.cons.inj same).2).2).1.symm

end Reckoner.Token
