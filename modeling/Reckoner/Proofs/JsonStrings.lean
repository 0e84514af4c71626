import Reckoner.Json.Compact
import Reckoner.Json.Reading
import Reckoner.Proofs.Readers

namespace Reckoner.Json

open Text Text.Reader

variable {c : Char} {rest : List Char}

/-- A backslash and a letter other than `u` are read as the character for which they stand. -/
theorem escape_cons {letter : Char} (other : letter ≠ 'u') (denoted : simpleEscape? letter = some c) :
    escape (letter :: rest) = some (c, rest) := by
  unfold escape
  rw [bind_apply (satisfy_cons rfl rest), if_neg other, denoted]
  rfl

/-- The digits of a control character. -/
def controlDigits (n : Nat) : List Char := List.replicate (4 - (hexDigits n).length) '0' ++ hexDigits n

theorem controlDigits_read : ∀ n < 0x20, (controlDigits n).length = 4 ∧
    ((controlDigits n).mapM (Number.digitValue? 16)).any
      (fun values => values.length = 4 && Number.ofDigits 16 values == n) = true := by
  decide +kernel

theorem codeUnit_controlDigits {n : Nat} (control : n < 0x20) :
    codeUnit (controlDigits n ++ rest) = some (n, rest) := by
  obtain ⟨four, read⟩ := controlDigits_read n control
  obtain ⟨values, digits, holds⟩ := (Option.any_eq_true _ _).mp read
  rw [Bool.and_eq_true, decide_eq_true_eq, beq_iff_eq] at holds
  unfold codeUnit
  rw [List.take_left' four, digits, List.drop_left' four]
  simp only [holds.1, holds.2, if_true]

/-- The code of a control character is read as this character. -/
theorem escape_controlDigits (control : c.toNat < 0x20) :
    escape ('u' :: (controlDigits c.toNat ++ rest)) = some (c, rest) := by
  have low : ¬ (0xd800 ≤ c.toNat ∧ c.toNat ≤ 0xdbff) := by omega
  have free : (!(decide (0xdc00 ≤ c.toNat) && decide (c.toNat ≤ 0xdfff))) = true := by
    rw [decide_eq_false (by omega), Bool.false_and, Bool.not_false]
  unfold escape
  rw [bind_apply (satisfy_cons rfl _), if_pos rfl]
  unfold unicodeEscape
  rw [bind_apply (codeUnit_controlDigits control), if_neg low, free]
  change some (Char.ofNat c.toNat, rest) = _
  rw [Char.ofNat_toNat]

/-- The characters that are written as a backslash and a letter. -/
def lettered : List (Char × Char) :=
  [('\x22', '\x22'), ('\\', '\\'), ('\x08', 'b'), ('\x0c', 'f'), ('\n', 'n'), ('\r', 'r'), ('\t', 't')]

theorem escapeChar_of_mem : ∀ entry ∈ lettered,
    escapeChar entry.1 = ['\\', entry.2] ∧ entry.2 ≠ 'u' ∧ simpleEscape? entry.2 = some entry.1 := by
  decide +kernel

theorem escapeChar_of_not_mem (other : c ∉ lettered.map (·.1)) :
    escapeChar c = if c.toNat < 0x20 then '\\' :: 'u' :: controlDigits c.toNat else [c] := by
  simp only [lettered, List.map_cons, List.map_nil, List.mem_cons, List.not_mem_nil, or_false, not_or] at other
  obtain ⟨quote, slash, back, form, feed, home, tab⟩ := other
  rw [escapeChar, if_neg quote, if_neg slash, if_neg back, if_neg form, if_neg feed, if_neg home, if_neg tab]
  rfl

/-- What a character is written as is read as the next one of a string. -/
theorem stringBody_escapeChar {limit : Nat} {text behind : List Char} {cs : List Char}
    (read : stringBody limit text = some (cs, behind)) (c : Char) :
    stringBody (limit + 1) (escapeChar c ++ text) = some (c :: cs, behind) := by
  have escaped : ∀ {more : List Char}, escape more = some (c, text) →
      stringBody (limit + 1) ('\\' :: more) = some (c :: cs, behind) := by
    intro more denoted
    unfold stringBody
    rw [bind_apply (satisfy_cons (by decide) more), if_neg (by decide), if_pos rfl, bind_apply denoted, bind_apply read]
    rfl
  by_cases short : c ∈ lettered.map (·.1)
  · obtain ⟨⟨_, letter⟩, member, rfl⟩ := List.mem_map.mp short
    obtain ⟨written, other, denoted⟩ := escapeChar_of_mem _ member
    rw [written]
    exact escaped (escape_cons other denoted)
  rw [escapeChar_of_not_mem short]
  split
  · rename_i control
    exact escaped (escape_controlDigits control)
  · rename_i high
    have plain : decide (0x20 ≤ c.toNat) = true := decide_eq_true (Nat.le_of_not_lt high)
    have noQuote : c ≠ '\x22' := fun same => short (same ▸ by decide)
    have noSlash : c ≠ '\\' := fun same => short (same ▸ by decide)
    unfold stringBody
    rw [List.singleton_append, bind_apply (satisfy_cons plain text), if_neg noQuote, if_neg noSlash, bind_apply read]
    rfl

/-- The characters of a string are read up to its closing quotation mark. -/
theorem stringBody_flatMap {limit : Nat} (cs : List Char) (enough : cs.length < limit) :
    stringBody limit (cs.flatMap escapeChar ++ '\x22' :: rest) = some (cs, rest) := by
  induction cs generalizing limit with
  | nil =>
    obtain ⟨fewer, rfl⟩ := Nat.exists_eq_add_one.mpr enough
    unfold stringBody
    rw [List.flatMap_nil, List.nil_append, bind_apply (satisfy_cons (by decide) rest), if_pos rfl]
    rfl
  | cons c cs ih =>
    obtain ⟨fewer, rfl⟩ := Nat.exists_eq_add_one.mpr (Nat.zero_lt_of_lt enough)
    rw [List.flatMap_cons, List.append_assoc]
    exact stringBody_escapeChar (ih (Nat.lt_of_succ_lt_succ enough)) c

theorem escapeChar_ne_nil (c : Char) : escapeChar c ≠ [] := by
  unfold escapeChar
  repeat' split
  all_goals exact List.cons_ne_nil _ _

theorem length_le_flatMap_escapeChar (cs : List Char) : cs.length ≤ (cs.flatMap escapeChar).length := by
  induction cs with
  | nil => exact Nat.le_refl _
  | cons c cs ih =>
    have positive := List.length_pos_iff.mpr (escapeChar_ne_nil c)
    rw [List.flatMap_cons, List.length_append, List.length_cons]
    omega

/-- A string is read as it was written, whatever stands behind it. -/
theorem stringLiteral_stringText (s : String) : stringLiteral (stringText s ++ rest) = some (s, rest) := by
  have enough : s.toList.length < (s.toList.flatMap escapeChar ++ '\x22' :: rest).length + 1 := by
    have least := length_le_flatMap_escapeChar s.toList
    rw [List.length_append]
    omega
  unfold stringLiteral stringText
  rw [List.cons_append, List.cons_append, List.append_assoc, List.singleton_append, bind_apply (char_cons _ _),
    bind_apply (stringBody_flatMap s.toList enough), String.ofList_toList]
  rfl

end Reckoner.Json
