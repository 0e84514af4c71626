import Reckoner.Proofs.ParserReading
import Reckoner.Proofs.Rounds

namespace Reckoner

/-- Writings of two things one after the other. -/
inductive Both {α β τ : Type} (W : α → List τ → Prop) (V : β → List τ → Prop) : α × β → List τ → Prop
  | intro {a b t u} : W a t → V b u → Both W V (a, b) (t ++ u)

/-- A writing, or nothing. -/
inductive Maybe {α τ : Type} (W : α → List τ → Prop) : Option α → List τ → Prop
  | none : Maybe W none []
  | some {a t} : W a t → Maybe W (some a) t

/-- A writing between two tokens. -/
inductive Between {α τ : Type} (left right : τ) (W : α → List τ → Prop) : α → List τ → Prop
  | intro {a t} : W a t → Between left right W a (left :: (t ++ [right]))

namespace Parser

variable {τ α β γ : Type} {p : Parser τ α} {q : Parser τ β} {W : α → List τ → Prop} {V : β → List τ → Prop}

/-- Whatever the parser gives, the items that it takes are a writing of it. -/
def Spells (p : Parser τ α) (W : α → List τ → Prop) : Prop :=
  ∀ ⦃input : Array τ⦄ ⦃pos next : Nat⦄ ⦃a : α⦄, p input pos = .ok (next, a) →
    ∃ t, input.toList.drop pos = t ++ input.toList.drop next ∧ W a t

theorem drop_of_getElem? {input : Array τ} {pos : Nat} {item : τ} (found : input[pos]? = some item) :
    input.toList.drop pos = [item] ++ input.toList.drop (pos + 1) := by
  obtain ⟨inside, rfl⟩ := Array.getElem?_eq_some_iff.mp found
  exact List.drop_eq_getElem_cons inside

theorem Spells.mono {V : α → List τ → Prop} (spells : Spells p W) (weaken : ∀ {a t}, W a t → V a t) :
    Spells p V := by
  intro input pos next a given
  obtain ⟨t, taken, written⟩ := spells given
  exact ⟨t, taken, weaken written⟩

/-- A parser that gives only what items spell has taken these. -/
theorem Spells.consumes (spells : Spells p W)
    (nonempty : ∀ {a t}, W a t → t ≠ []) : Consumes p := by
  intro input pos next a given
  obtain ⟨t, taken, written⟩ := spells given
  have lengths := congrArg List.length taken
  rw [List.length_append, List.length_drop, List.length_drop] at lengths
  have positive := List.length_pos_iff.mpr (nonempty written)
  omega

theorem Spells.consumes_one {item : τ} (spells : Spells p fun _ t => t = [item]) : Consumes p :=
  spells.consumes fun same => same ▸ List.cons_ne_nil _ _

/-- A single item of which nothing but its presence is told. -/
theorem equal_spells [DecidableEq τ] [ToString τ] (wanted : τ) :
    Spells (equal wanted) fun _ t => t = [wanted] := by
  intro input pos next a given
  unfold equal at given
  split at given
  · rename_i found head
    split at given
    · rename_i same
      cases given
      exact ⟨[wanted], drop_of_getElem? (same ▸ head), rfl⟩
    · exact nomatch given
  · exact nomatch given

theorem satisfy_spells [ToString τ] {f : τ → Option α} (one : ∀ {item a}, f item = some a → W a [item]) :
    Spells (satisfy f) W := by
  intro input pos next a given
  unfold satisfy at given
  split at given
  · rename_i found head
    split at given
    · rename_i made
      cases given
      exact ⟨[found], drop_of_getElem? head, one made⟩
    · exact nomatch given
  · exact nomatch given

theorem Spells.map {U : γ → List τ → Prop} {f : α → γ} (spells : Spells p W) (made : ∀ {a t}, W a t → U (f a) t) :
    Spells (p.map f) U := by
  intro input pos next c given
  unfold Parser.map at given
  split at given
  · rename_i next a first
    cases given
    obtain ⟨t, taken, written⟩ := spells first
    exact ⟨t, taken, made written⟩
  · exact nomatch given

theorem Spells.context (spells : Spells p W) (name : String) : Spells (p.context name) W := by
  intro input pos next a given
  unfold Parser.context at given
  cases outcome : p input pos with
  | error e => rw [outcome] at given; exact nomatch given
  | ok result =>
    rw [outcome] at given
    cases given
    exact spells outcome

theorem Spells.pair (first : Spells p W) (second : Spells q V) : Spells (pair p q) (Both W V) := by
  intro input pos next c given
  unfold Parser.pair at given
  split at given
  · rename_i middle a one
    unfold Parser.map at given
    split at given
    · rename_i next b two
      cases given
      obtain ⟨t, taken, written⟩ := first one
      obtain ⟨u, taken', written'⟩ := second two
      exact ⟨t ++ u, by rw [taken, taken', List.append_assoc], .intro written written'⟩
    · exact nomatch given
  · exact nomatch given

theorem Spells.preceded {p : Parser τ Unit} {token : τ} (first : Spells p fun _ t => t = [token])
    (second : Spells q V) : Spells (preceded p q) (Behind token V) := by
  refine (first.pair second).map fun both => ?_
  obtain ⟨rfl, written⟩ := both
  exact .intro written

theorem Spells.delimited {p r : Parser τ Unit} {left right : τ} (first : Spells p fun _ t => t = [left])
    (second : Spells q V) (third : Spells r fun _ t => t = [right]) :
    Spells (delimited p q r) (Between left right V) := by
  refine (first.pair (second.pair third)).map fun both => ?_
  obtain ⟨rfl, written, rfl⟩ := both
  exact .intro written

theorem Spells.optional (spells : Spells p W) : Spells (optional p) (Maybe W) := by
  intro input pos next result given
  unfold Parser.optional at given
  split at given
  · rename_i next a one
    cases given
    obtain ⟨t, taken, written⟩ := spells one
    exact ⟨t, taken, .some written⟩
  · cases given
    exact ⟨[], rfl, .none⟩

theorem choice_nil_spells : Spells (choice ([] : List (Parser τ α))) W := by
  intro input pos next a given
  exact nomatch given

/-- An alternative that fails leaves nothing behind. -/
theorem Spells.choice {alternatives : List (Parser τ α)} (first : Spells p W)
    (others : Spells (choice alternatives) W) : Spells (Parser.choice (p :: alternatives)) W := by
  intro input pos next a given
  simp only [Parser.choice, choiceFrom] at given
  split at given
  · rename_i result one
    cases given
    exact first one
  · exact others (choiceFrom_ok given none)

/-- A repetition gives the items of its rounds, put together to a list. An item that takes nothing is dropped, and the
repetition ends there. -/
theorem Spells.many (spells : Spells p W) : Spells (many p) (Repeated W) := by
  have loop : ∀ {input : Array τ} {rounds pos next : Nat} {as : List α},
      manyLoop p input rounds pos = some (next, as) →
        ∃ t, input.toList.drop pos = t ++ input.toList.drop next ∧ Repeated W as t := by
    intro input rounds pos next as given
    fun_induction manyLoop p input rounds pos generalizing next as with
    | case1 => cases given; exact ⟨[], rfl, .nil⟩
    | case2 => cases given; exact ⟨[], rfl, .nil⟩
    | case3 => cases given
    | case4 pos middle a one moved rounds ih =>
      obtain ⟨⟨last, rest⟩, others, same⟩ := Option.map_eq_some_iff.mp given
      cases same
      obtain ⟨t, taken, written⟩ := spells one
      obtain ⟨u, takenBehind, items⟩ := ih others
      exact ⟨t ++ u, by rw [taken, takenBehind, List.append_assoc], .cons written items⟩
  intro input pos next as given
  unfold Parser.many at given
  split at given
  · rename_i result looped
    cases given
    exact loop looped
  · cases given

/-- A list gives its first item and the rounds behind it. A separator that no item follows counts as taken. -/
theorem Spells.separated {separator : Parser τ Unit} {comma : τ} (spells : Spells p W)
    (parts : Spells separator fun _ t => t = [comma]) : Spells (separated p separator) (Separated W comma) := by
  have loop : ∀ {input : Array τ} {rounds pos next : Nat} {as : List α},
      separatedLoop p separator input rounds pos = some (next, as) → ∀ {a t}, W a t →
        ∃ u, input.toList.drop pos = u ++ input.toList.drop next ∧ Separated W comma (a :: as) (t ++ u) := by
    intro input rounds pos next as given a t first
    fun_induction separatedLoop p separator input rounds pos generalizing next as a t with
    | case1 => cases given; exact ⟨[], rfl, by rw [List.append_nil]; exact .last first⟩
    | case2 rounds pos middle _ parted =>
      cases given
      obtain ⟨_, taken, rfl⟩ := parts parted
      exact ⟨[comma], taken, .cons first .nil⟩
    | case3 => exact nomatch given
    | case4 pos middle _ parted next b one rounds ih =>
      obtain ⟨⟨last, rest⟩, others, same⟩ := Option.map_eq_some_iff.mp given
      cases same
      obtain ⟨_, taken, rfl⟩ := parts parted
      obtain ⟨u, takenItem, written⟩ := spells one
      obtain ⟨v, takenBehind, items⟩ := ih others written
      exact ⟨comma :: (u ++ v), by rw [taken, takenItem, takenBehind, ← List.append_assoc u]; rfl,
        .cons first items⟩
  intro input pos next as given
  unfold Parser.separated at given
  split at given
  · cases given
    exact ⟨[], rfl, .nil⟩
  · rename_i middle a one
    split at given
    · rename_i last rest looped
      cases given
      obtain ⟨t, taken, written⟩ := spells one
      obtain ⟨u, takenBehind, items⟩ := loop looped written
      exact ⟨t ++ u, by rw [taken, takenBehind, List.append_assoc], items⟩
    · exact nomatch given

end Parser

end Reckoner
