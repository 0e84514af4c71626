import Reckoner.Proofs.ParserSpelling

namespace Reckoner

namespace Parser

variable {τ α β γ δ : Type}

/-- Where a parser ends: behind what it takes, or where it fails. -/
def ending : Except ParseError (Nat × α) → Nat
  | .ok (next, _) => next
  | .error e => e.position

/-- A parser ends between the position where it starts and the end of the input, whether it succeeds or not. -/
def Bounded (p : Parser τ α) : Prop :=
  ∀ ⦃input : Array τ⦄ ⦃pos : Nat⦄, pos ≤ input.size → pos ≤ ending (p input pos) ∧ ending (p input pos) ≤ input.size

variable {p : Parser τ α} {q : Parser τ β} {r : Parser τ γ} {s : Parser τ δ}

theorem Bounded.ok (bounded : Bounded p) {input : Array τ} {pos next : Nat} {a : α} (inside : pos ≤ input.size)
    (given : p input pos = .ok (next, a)) : pos ≤ next ∧ next ≤ input.size := by
  have ends := bounded inside
  rwa [given] at ends

theorem Bounded.error (bounded : Bounded p) {input : Array τ} {pos : Nat} {e : ParseError} (inside : pos ≤ input.size)
    (failed : p input pos = .error e) : pos ≤ e.position ∧ e.position ≤ input.size := by
  have ends := bounded inside
  rwa [failed] at ends

theorem Bounded.forward (bounded : Bounded p) : Forward p := fun _ _ _ _ inside given => bounded.ok inside given

/-- A parser of single tokens fails where it starts, also behind the last token. -/
theorem equal_bounded [DecidableEq τ] [ToString τ] (wanted : τ) : Bounded (equal wanted) := by
  intro input pos inside
  unfold equal
  split
  · rename_i found head
    obtain ⟨before, -⟩ := Array.getElem?_eq_some_iff.mp head
    split
    · exact ⟨Nat.le_succ pos, before⟩
    · exact ⟨Nat.le_refl pos, inside⟩
  · exact ⟨Nat.le_refl pos, inside⟩

theorem satisfy_bounded [ToString τ] (f : τ → Option α) : Bounded (satisfy f) := by
  intro input pos inside
  unfold satisfy
  split
  · rename_i found head
    obtain ⟨before, -⟩ := Array.getElem?_eq_some_iff.mp head
    split
    · exact ⟨Nat.le_succ pos, before⟩
    · exact ⟨Nat.le_refl pos, inside⟩
  · exact ⟨Nat.le_refl pos, inside⟩

theorem fail_bounded (fault : ParseFault) : Bounded (fail fault : Parser τ α) :=
  fun _ pos inside => ⟨Nat.le_refl pos, inside⟩

theorem Bounded.map (bounded : Bounded p) (f : α → β) : Bounded (p.map f) := by
  intro input pos inside
  have ends := bounded inside
  unfold Parser.map
  split <;> rename_i given <;> rwa [given] at ends

theorem Bounded.unit (bounded : Bounded p) : Bounded (unit p) := bounded.map _

/-- A name given to an error moves it nowhere. -/
theorem Bounded.context (bounded : Bounded p) (name : String) : Bounded (p.context name) := by
  intro input pos inside
  have ends := bounded inside
  unfold Parser.context
  cases given : p input pos <;> rwa [given] at ends

/-- A failure of the second parser lies behind the start of the first one as well. -/
theorem Bounded.pair (first : Bounded p) (second : Bounded q) : Bounded (pair p q) := by
  intro input pos inside
  unfold Parser.pair
  split
  · rename_i middle a given
    obtain ⟨forward, before⟩ := first.ok inside given
    obtain ⟨onward, last⟩ := second.map (a, ·) before
    exact ⟨Nat.le_trans forward onward, last⟩
  · rename_i e failed
    exact first.error inside failed

theorem Bounded.optional (bounded : Bounded p) : Bounded (optional p) := by
  intro input pos inside
  unfold Parser.optional
  split
  · rename_i next a given
    exact bounded.ok inside given
  · exact ⟨Nat.le_refl pos, inside⟩

theorem Bounded.delayed {made : Unit → Parser τ α} (bounded : Bounded (made ())) : Bounded (delayed made) := bounded

/-- The error that is kept is one of the two. -/
theorem further_eq (first : Option ParseError) (second : ParseError) :
    further first second = second ∨ first = some (further first second) := by
  unfold further
  split
  · split
    · exact .inl rfl
    · exact .inr rfl
  · exact .inl rfl

/-- The alternatives of a choice start at the same position, and the error that is carried along lies inside of the
input. With none left, an error that is not behind the start is not reported. -/
theorem choiceFrom_bounded {alternatives : List (Parser τ α)} (each : ∀ p ∈ alternatives, Bounded p) {input : Array τ}
    {pos : Nat} (inside : pos ≤ input.size) {furthest : Option ParseError}
    (kept : ∀ e ∈ furthest, e.position ≤ input.size) :
    pos ≤ ending (choiceFrom input pos furthest alternatives) ∧
      ending (choiceFrom input pos furthest alternatives) ≤ input.size := by
  induction alternatives generalizing furthest with
  | nil =>
    unfold choiceFrom
    split
    · split
      · exact ⟨Nat.le_of_lt ‹_›, kept _ rfl⟩
      · exact ⟨Nat.le_refl pos, inside⟩
    · exact ⟨Nat.le_refl pos, inside⟩
  | cons p others ih =>
    obtain ⟨here, later⟩ := List.forall_mem_cons.mp each
    unfold choiceFrom
    split
    · rename_i result given
      have ends := here inside
      rwa [given] at ends
    · rename_i e failed
      refine ih later fun worse same => ?_
      cases same
      rcases further_eq furthest e with new | old
      · rw [new]
        exact (here.error inside failed).2
      · exact kept _ old

theorem choice_bounded {alternatives : List (Parser τ α)} (each : ∀ p ∈ alternatives, Bounded p) :
    Bounded (choice alternatives) :=
  fun _ _ inside => choiceFrom_bounded each inside nofun

/-- A repetition never fails, and it stops where its last round has, if the parser does not fall behind. -/
theorem Bounded.many (bounded : Bounded p) : Bounded (many p) := by
  intro input pos inside
  obtain ⟨last, items, given, stops⟩ := bounded.forward.exists_many inside
  rw [given]
  exact stops.inside

/-- The rounds of a separated list, by induction on their number. Where a separator or an item fails, the list ends
behind what the last round has taken. -/
theorem Bounded.separatedLoop {separator : Parser τ Unit} (bounded : Bounded p) (parts : Bounded separator)
    {input : Array τ} {pos last rounds : Nat} {items : List α} (inside : pos ≤ input.size)
    (looped : separatedLoop p separator input rounds pos = some (last, items)) : pos ≤ last ∧ last ≤ input.size := by
  fun_induction Parser.separatedLoop p separator input rounds pos generalizing last items with
  | case1 =>
    cases looped
    exact ⟨Nat.le_refl _, inside⟩
  | case2 rounds pos middle _ parted =>
    cases looped
    exact parts.ok inside parted
  | case3 => cases looped
  | case4 pos middle _ parted next a given rounds ih =>
    obtain ⟨⟨last, others⟩, behind, same⟩ := Option.map_eq_some_iff.mp looped
    cases same
    obtain ⟨toItem, before⟩ := parts.ok inside parted
    obtain ⟨forward, before⟩ := bounded.ok before given
    obtain ⟨onward, ends⟩ := ih before behind
    exact ⟨Nat.le_trans toItem (Nat.le_trans forward onward), ends⟩

theorem Bounded.separated {separator : Parser τ Unit} (bounded : Bounded p) (parts : Bounded separator) :
    Bounded (separated p separator) := by
  intro input pos inside
  unfold Parser.separated
  split
  · exact ⟨Nat.le_refl pos, inside⟩
  · rename_i next a given
    obtain ⟨forward, before⟩ := bounded.ok inside given
    split
    · rename_i last items looped
      obtain ⟨onward, ends⟩ := bounded.separatedLoop parts before looped
      exact ⟨Nat.le_trans forward onward, ends⟩
    · exact ⟨Nat.le_refl pos, inside⟩

end Parser

end Reckoner
