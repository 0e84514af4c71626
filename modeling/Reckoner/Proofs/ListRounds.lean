import Reckoner.Proofs.BuiltParsers

namespace Reckoner.Parser

variable {τ α : Type} {p : Parser τ α} {separator : Parser τ Unit} {input : Array τ}

/-- A round of a list: a separator and an item behind it. -/
def SeparatedRound (p : Parser τ α) (separator : Parser τ Unit) (input : Array τ) (pos next : Nat) (a : α) : Prop :=
  ∃ middle, separator input pos = .ok (middle, ()) ∧ p input middle = .ok (next, a)

theorem Forward.separatedRound (forward : Forward p) (parts : Forward separator) {pos next : Nat} {a : α}
    (inside : pos ≤ input.size) (step : SeparatedRound p separator input pos next a) :
    pos ≤ next ∧ next ≤ input.size := by
  obtain ⟨middle, parted, given⟩ := step
  obtain ⟨toItem, before⟩ := parts inside parted
  obtain ⟨onward, ends⟩ := forward before given
  exact ⟨Nat.le_trans toItem onward, ends⟩

/-- The rounds of a list come to a place where both the separator and the item take nothing. -/
def Standstill (p : Parser τ α) (separator : Parser τ Unit) (input : Array τ) (start : Nat) : Prop :=
  ∃ place seen a, Rounds (SeparatedRound p separator input) start place seen ∧
    SeparatedRound p separator input place place a

theorem Standstill.next {pos next : Nat} {a : α} (step : SeparatedRound p separator input pos next a)
    (standstill : Standstill p separator input next) : Standstill p separator input pos := by
  obtain ⟨place, seen, b, reached, again⟩ := standstill
  exact ⟨place, a :: seen, b, .next step reached, again⟩

/-- Where there is no standstill, every round takes an item. -/
theorem exists_separatedLoop (forward : Forward p) (parts : Forward separator) {pos rounds : Nat}
    (inside : pos ≤ input.size) (enough : input.size - pos ≤ rounds) (moving : ¬ Standstill p separator input pos) :
    ∃ last ended items, separatedLoop p separator input rounds pos = some (last, items) ∧
      Rounds (SeparatedRound p separator input) pos ended items ∧
      (∀ next a, ¬ SeparatedRound p separator input ended next a) ∧
      (last = ended ∨ separator input ended = .ok (last, ())) := by
  fun_induction separatedLoop p separator input rounds pos with
  | case1 rounds pos e failed =>
    refine ⟨pos, pos, [], rfl, .start, fun next a step => ?_, .inl rfl⟩
    obtain ⟨middle, parted, -⟩ := step
    cases failed.symm.trans parted
  | case2 rounds pos middle _ parted e failed =>
    refine ⟨middle, pos, [], rfl, .start, fun next a step => ?_, .inr parted⟩
    obtain ⟨_, again, given⟩ := step
    cases parted.symm.trans again
    cases failed.symm.trans given
  | case3 pos middle _ parted next a given =>
    have bounds := forward.separatedRound parts inside ⟨middle, parted, given⟩
    obtain rfl : next = pos := by omega
    exact absurd ⟨next, [], a, .start, middle, parted, given⟩ moving
  | case4 pos middle _ parted next a given rounds ih =>
    have step : SeparatedRound p separator input pos next a := ⟨middle, parted, given⟩
    obtain ⟨onward, before⟩ := forward.separatedRound parts inside step
    have moved : next ≠ pos := by
      rintro rfl
      exact moving ⟨next, [], a, .start, step⟩
    obtain ⟨last, ended, items, looped, behind, halts, trailing⟩ :=
      ih before (by omega) fun standstill => moving (standstill.next step)
    exact ⟨last, ended, a :: items, by rw [looped]; rfl, .next step behind, halts, trailing⟩

theorem SeparatedRound.separatedLoop_zero {pos next : Nat} {a : α}
    (step : SeparatedRound p separator input pos next a) : separatedLoop p separator input 0 pos = none := by
  obtain ⟨middle, parted, given⟩ := step
  rw [separatedLoop]
  simp only [parted, given]

theorem SeparatedRound.separatedLoop_succ {pos next : Nat} {a : α}
    (step : SeparatedRound p separator input pos next a) (rounds : Nat) :
    separatedLoop p separator input (rounds + 1) pos =
      (separatedLoop p separator input rounds next).map fun (last, rest) => (last, a :: rest) := by
  obtain ⟨middle, parted, given⟩ := step
  rw [separatedLoop]
  simp only [parted, given]

/-- On the way to a standstill, and at it, every round leads to a further one. -/
theorem Standstill.exists_round {start : Nat} (standstill : Standstill p separator input start) :
    ∃ next a, SeparatedRound p separator input start next a ∧ Standstill p separator input next := by
  obtain ⟨place, seen, a, reached, again⟩ := id standstill
  cases reached with
  | start => exact ⟨start, a, again, standstill⟩
  | next step behind => exact ⟨_, _, step, place, _, a, behind, again⟩

/-- Where there is a standstill, no number of rounds is enough. -/
theorem Standstill.separatedLoop_eq_none {start : Nat} (standstill : Standstill p separator input start)
    (rounds : Nat) : separatedLoop p separator input rounds start = none := by
  obtain ⟨next, a, step, behind⟩ := standstill.exists_round
  induction rounds generalizing start next a with
  | zero => exact step.separatedLoop_zero
  | succ rounds ih =>
    obtain ⟨further, b, onward, beyond⟩ := behind.exists_round
    rw [step.separatedLoop_succ, ih behind further b onward beyond, Option.map_none]

theorem Standstill.separated_eq {pos start : Nat} {first : α} (given : p input pos = .ok (start, first))
    (standstill : Standstill p separator input start) :
    separated p separator input pos = .error ⟨.endless, pos, none⟩ := by
  rw [separated, given]
  simp only [standstill.separatedLoop_eq_none]

/-- A list whose separator takes something always gets further. -/
theorem Forward.not_standstill (forward : Forward p) (parts : Forward separator) (takes : Consumes separator)
    {start : Nat} (inside : start ≤ input.size) : ¬ Standstill p separator input start := by
  have moves : ∀ {place next seen a}, Rounds (SeparatedRound p separator input) start place seen →
      place ≤ input.size → SeparatedRound p separator input place next a → place < next ∧ next ≤ input.size := by
    intro place next seen a _ before step
    obtain ⟨middle, parted, given⟩ := step
    obtain ⟨onward, ends⟩ := forward (parts before parted).2 given
    exact ⟨Nat.lt_of_lt_of_le (takes parted) onward, ends⟩
  rintro ⟨place, seen, a, reached, again⟩
  exact Nat.lt_irrefl _ (moves reached (reached.bounds inside moves).2 again).1

/-- Repetitions of parsers that may take nothing. A repetition ends after at most as many rounds as there are items
left and one, and every round before the last moves forward. So does a list, unless it comes to a place where neither
the separator nor the item takes anything: then no number of rounds is enough. -/
theorem repetition_rounds (item : Forward p) (parts : Forward separator) {pos : Nat} (inside : pos ≤ input.size) :
    (∃ last items, many p input pos = .ok (last, items) ∧
      Stops (ManyRound p input) input.size pos last items) ∧
    (∀ fault, p input pos = .error fault → separated p separator input pos = .ok (pos, [])) ∧
    ∀ start first, p input pos = .ok (start, first) → pos ≤ start ∧
      (¬ Standstill p separator input start →
        ∃ last ended items, separated p separator input pos = .ok (last, first :: items) ∧
          Stops (SeparatedRound p separator input) input.size start ended items ∧
          (last = ended ∨ separator input ended = .ok (last, ()))) ∧
      (Standstill p separator input start →
        (∀ rounds, separatedLoop p separator input rounds start = none) ∧
          separated p separator input pos = .error ⟨.endless, pos, none⟩) := by
  refine ⟨item.exists_many inside, fun fault failed => ?_, fun start first given => ?_⟩
  · rw [separated, failed]
  · obtain ⟨onward, before⟩ := item inside given
    refine ⟨onward, fun moving => ?_, fun standstill => ⟨standstill.separatedLoop_eq_none,
      standstill.separated_eq given⟩⟩
    obtain ⟨last, ended, items, looped, rounds, halts, trailing⟩ :=
      exists_separatedLoop item parts before (Nat.sub_le_sub_left onward input.size) moving
    refine ⟨last, ended, items, by rw [separated, given]; simp only [looped], ?_, trailing⟩
    refine rounds.stops halts before fun reached within step => ?_
    obtain ⟨forward, ends⟩ := item.separatedRound parts within step
    refine ⟨Nat.lt_of_le_of_ne forward ?_, ends⟩
    rintro rfl
    exact moving ⟨_, _, _, reached, step⟩

/-- Items that may be missing, with commas between them. -/
theorem repetition_rounds_commas :
    ∃ last ended items, separated (optional (equal 'a')) (unit (equal ',')) #['a', ',', ',', 'a'] 0 =
        .ok (last, some 'a' :: items) ∧
      Stops (SeparatedRound (optional (equal 'a')) (unit (equal ',')) #['a', ',', ',', 'a']) 4 1 ended items ∧
      (last = ended ∨ unit (equal ',') #['a', ',', ',', 'a'] ended = .ok (last, ())) := by
  have item : Forward (optional (equal 'a')) := (equal_bounded 'a').optional.forward
  have parts : Forward (unit (equal ',')) := (equal_bounded ',').unit.forward
  have spells : Spells (unit (equal ',')) fun _ t => t = [','] := (equal_spells ',').map id
  have first : optional (equal 'a') #['a', ',', ',', 'a'] 0 = .ok (1, some 'a') := rfl
  have inside : 0 ≤ #['a', ',', ',', 'a'].size := Nat.zero_le _
  obtain ⟨-, -, list⟩ := repetition_rounds item parts inside
  obtain ⟨-, ends, -⟩ := list 1 (some 'a') first
  exact ends (item.not_standstill parts spells.consumes_one (by decide))

/-- A parser in place of which nothing may stand takes nothing where it fails. -/
theorem unit_optional_of_ne_ok {pos : Nat} (fails : ∀ result, p input pos ≠ .ok result) :
    unit (optional p) input pos = .ok (pos, ()) := by
  unfold unit Parser.map Parser.optional
  cases given : p input pos with
  | ok result => exact absurd given (fails result)
  | error _ => rfl

/-- In a text of one letter neither words that end with another one nor commas are found. -/
theorem missing_of_letters (input : Array Char) (letters : ∀ c ∈ input.toList, c = 'a') (pos : Nat) :
    unit (optional (pair (many (equal 'a')) (equal 'b'))) input pos = .ok (pos, ()) ∧
      unit (optional (equal ',')) input pos = .ok (pos, ()) := by
  constructor
  · refine unit_optional_of_ne_ok fun ⟨next, word⟩ given => ?_
    obtain ⟨_, taken, ⟨_, rfl⟩⟩ := ((equal_spells 'a').many.pair (equal_spells 'b')) given
    have member : 'b' ∈ input.toList.drop pos := by
      rw [taken]
      exact List.mem_append_left _ (List.mem_append_right _ (List.mem_singleton_self 'b'))
    exact absurd (letters 'b' (List.mem_of_mem_drop member)) (by decide)
  · refine unit_optional_of_ne_ok fun ⟨next, mark⟩ given => ?_
    obtain ⟨_, taken, rfl⟩ := equal_spells ',' given
    have member : ',' ∈ input.toList.drop pos := by
      rw [taken]
      exact List.mem_append_left _ (List.mem_singleton_self ',')
    exact absurd (letters ',' (List.mem_of_mem_drop member)) (by decide)

/-- An item that is missing for want of its last letter, and a comma that may be missing, are found again and again
where they stand. -/
theorem separated_endless :
    ∃ (p separator : Parser Char Unit) (input : Array Char),
      p = unit (optional (pair (many (equal 'a')) (equal 'b'))) ∧ separator = unit (optional (equal ',')) ∧
      input = ⟨List.replicate 5000 'a'⟩ ∧ Forward p ∧ Forward separator ∧ p input 0 = .ok (0, ()) ∧
      SeparatedRound p separator input 0 0 () ∧ (∀ rounds, separatedLoop p separator input rounds 0 = none) ∧
      ∀ result, separated p separator input 0 ≠ .ok result := by
  have item : Forward (unit (optional (pair (many (equal 'a')) (equal 'b')))) :=
    ((equal_bounded 'a').many.pair (equal_bounded 'b')).optional.unit.forward
  have parts : Forward (unit (optional (equal ','))) := (equal_bounded ',').optional.unit.forward
  obtain ⟨found, parted⟩ := missing_of_letters ⟨List.replicate 5000 'a'⟩
    (fun _ member => List.eq_of_mem_replicate member) 0
  have step : SeparatedRound _ _ _ 0 0 () := ⟨0, parted, found⟩
  have standstill : Standstill _ _ _ 0 := ⟨0, [], (), .start, step⟩
  exact ⟨_, _, _, rfl, rfl, rfl, item, parts, found, step, standstill.separatedLoop_eq_none,
    fun _ given => nomatch (standstill.separated_eq found).symm.trans given⟩

end Reckoner.Parser
