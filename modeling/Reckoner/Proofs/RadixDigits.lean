import Mathlib.Data.List.Forall2
import Reckoner.Proofs.DecimalDigits

namespace Reckoner.Number

/-- The digits of the radices up to thirty-six, with small letters from ten on. -/
def smallFigures : List Char := "0123456789abcdefghijklmnopqrstuvwxyz".toList

/-- The same digits with capital letters. -/
def capitalFigures : List Char := "0123456789ABCDEFGHIJKLMNOPQRSTUVWXYZ".toList

/-- A character is the digit of a radix with a value. -/
def IsFigure (radix : ℕ) (c : Char) (value : ℕ) : Prop :=
  value < radix ∧ (smallFigures[value]? = some c ∨ capitalFigures[value]? = some c)

/-- A text is one or more digits of a radix and denotes a number, with the highest digit in front. -/
def IsNatural (radix : ℕ) (text : List Char) (n : ℕ) : Prop :=
  text ≠ [] ∧ ∃ values, List.Forall₂ (IsFigure radix) text values ∧ Nat.ofDigits radix values.reverse = n

variable {radix n value : ℕ} {c : Char} {text : List Char}

/-- A digit of one radix has the same value in every other radix that has the digit at all. So it is enough to look at
radix thirty-six. -/
theorem digitValue?_radix (known : radix ≤ 36) :
    digitValue? radix c = some value ↔ value < radix ∧ digitValue? 36 c = some value := by
  unfold digitValue?
  simp only [Option.ite_none_right_eq_some, Option.some.injEq]
  constructor
  · rintro ⟨below, rfl⟩
    exact ⟨below, below.trans_le known, rfl⟩
  · rintro ⟨below, -, rfl⟩
    exact ⟨below, rfl⟩

/-- The reader tells digits by three ranges of characters, and the tables list them by value. All thirty-six values are
checked. -/
theorem digitValue?_figures : ∀ value < 36, smallFigures[value]?.bind (digitValue? 36) = some value ∧
    capitalFigures[value]?.bind (digitValue? 36) = some value := by
  decide

theorem decimal_figures : ∀ value < 10, smallFigures[value]? = some (Char.ofNat (48 + value)) := by decide

theorem small_figures : ∀ place < 26, smallFigures[place + 10]? = some (Char.ofNat (97 + place)) := by decide

theorem capital_figures : ∀ place < 26, capitalFigures[place + 10]? = some (Char.ofNat (65 + place)) := by decide

theorem toNat_of_isLower (lower : c.isLower = true) : 97 ≤ c.toNat ∧ c.toNat ≤ 122 := by
  obtain ⟨low, high⟩ := Bool.and_eq_true_iff.mp lower
  exact ⟨UInt32.le_iff_toNat_le.mp (of_decide_eq_true low), UInt32.le_iff_toNat_le.mp (of_decide_eq_true high)⟩

theorem toNat_of_isUpper (upper : c.isUpper = true) : 65 ≤ c.toNat ∧ c.toNat ≤ 90 := by
  obtain ⟨low, high⟩ := of_decide_eq_true upper
  exact ⟨UInt32.le_iff_toNat_le.mp low, UInt32.le_iff_toNat_le.mp high⟩

/-- No character but those of the two tables is read as a digit. -/
theorem figure_of_digitValue? (read : digitValue? 36 c = some value) :
    smallFigures[value]? = some c ∨ capitalFigures[value]? = some c := by
  have rebuilt {first place : ℕ} (apart : first + place = c.toNat) : Char.ofNat (first + place) = c := by
    rw [apart, Char.ofNat_toNat]
  obtain ⟨below, counted⟩ := Option.ite_none_right_eq_some.mp read
  have same := Option.some.inj counted
  subst same
  split at below <;> rename_i digit
  · obtain ⟨low, high⟩ := toNat_of_isDigit digit
    rw [if_pos digit, show '0'.toNat = 48 from rfl, decimal_figures _ (by omega), rebuilt (by omega)]
    exact .inl rfl
  split at below <;> rename_i lower
  · obtain ⟨low, high⟩ := toNat_of_isLower lower
    rw [if_neg digit, if_pos lower, show 'a'.toNat = 97 from rfl, small_figures _ (by omega), rebuilt (by omega)]
    exact .inl rfl
  split at below <;> rename_i upper
  · obtain ⟨low, high⟩ := toNat_of_isUpper upper
    rw [if_neg digit, if_neg lower, if_pos upper, show 'A'.toNat = 65 from rfl, capital_figures _ (by omega),
      rebuilt (by omega)]
    exact .inr rfl
  · exact absurd below (Nat.lt_irrefl 36)

/-- The characters that are read as digits are exactly the figures of the radix, each with its place in a table as its
value. -/
theorem digitValue?_eq_some (known : radix ≤ 36) : digitValue? radix c = some value ↔ IsFigure radix c value := by
  rw [digitValue?_radix known]
  refine and_congr_right fun below => ⟨figure_of_digitValue?, ?_⟩
  obtain ⟨small, capital⟩ := digitValue?_figures value (below.trans_le known)
  rintro (shown | shown)
  · rwa [shown] at small
  · rwa [shown] at capital

/-- A whole text of digits is read one by one, and nothing is left out. -/
theorem mapM_digitValue?_eq_some (known : radix ≤ 36) {values : List ℕ} :
    text.mapM (digitValue? radix) = some values ↔ List.Forall₂ (IsFigure radix) text values := by
  induction text generalizing values with
  | nil => simp [eq_comm]
  | cons c text ih => 
    rw [List.mapM_cons]
    constructor
    · intro read
      obtain ⟨value, here, read⟩ := Option.bind_eq_some_iff.mp read
      obtain ⟨later, behind, same⟩ := Option.bind_eq_some_iff.mp read
      cases same
      exact .cons ((digitValue?_eq_some known).mp here) (ih.mp behind)
    · intro figures
      cases figures with
      | cons here behind =>
        rw [(digitValue?_eq_some known).mpr here, ih.mpr behind]
        rfl

theorem not_isFigure_plus : ¬IsFigure radix '+' value := by
  rintro ⟨-, shown⟩
  rcases shown with shown | shown <;> exact absurd (List.mem_of_getElem? shown) (by decide)

/-- A text with a sign in front is no number by itself, so the two ways to read one exclude each other. -/
theorem not_isNatural_plus {rest : List Char} : ¬IsNatural radix ('+' :: rest) n := by
  rintro ⟨-, values, figures, -⟩
  cases figures with
  | cons here _ => exact not_isFigure_plus here

theorem IsNatural.mem_figures (natural : IsNatural radix text n) : ∀ c ∈ text, c ∈ smallFigures ++ capitalFigures := by
  obtain ⟨-, values, figures, -⟩ := natural
  induction figures with
  | nil => exact nofun
  | cons here _ ih =>
    have member := here.2.imp List.mem_of_getElem? List.mem_of_getElem?
    exact List.forall_mem_cons.mpr ⟨List.mem_append.mpr member, ih⟩

/-- An empty text would denote zero, if it were not refused. -/
theorem ofDigits_mapM_eq_some (known : radix ≤ 36) :
    (if text.isEmpty then none else (text.mapM (digitValue? radix)).map (ofDigits radix)) = some n ↔
      IsNatural radix text n := by
  simp only [Option.ite_none_left_eq_some, List.isEmpty_iff, Option.map_eq_some_iff, mapM_digitValue?_eq_some known,
    ofDigits_eq, IsNatural, ne_eq]

/-- A plus sign may precede the digits. -/
theorem readNatural?_eq_some (known : radix ≤ 36) : readNatural? radix text = some n ↔
    IsNatural radix text n ∨ ∃ rest, text = '+' :: rest ∧ IsNatural radix rest n := by
  unfold readNatural?
  split
  · rename_i rest
    refine (ofDigits_mapM_eq_some known).trans ⟨fun natural => .inr ⟨rest, rfl, natural⟩, ?_⟩
    rintro (natural | ⟨_, same, natural⟩)
    · exact absurd natural not_isNatural_plus
    · cases same
      exact natural
  · rename_i unsigned
    refine (ofDigits_mapM_eq_some known).trans ⟨.inl, ?_⟩
    rintro (natural | ⟨rest, same, -⟩)
    · exact natural
    · exact absurd same (unsigned rest)

end Reckoner.Number
