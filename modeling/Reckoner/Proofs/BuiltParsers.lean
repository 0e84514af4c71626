import Mathlib.Data.List.Forall2
import Reckoner.Proofs.FailurePosition

namespace Reckoner.Parser

variable {τ α β γ δ : Type}

/-- Parsers that are put together from the combinators. What a repetition repeats, and a separator, meet a demand. A
parser that contains itself is built when each of its runs is that of a parser which is built, where the recursion is
unfolded as deep as the run goes. -/
inductive Built (demand : (α : Type) → Parser τ α → Prop) : ∀ {α : Type}, Parser τ α → Prop
  | equal [DecidableEq τ] [ToString τ] (wanted : τ) : Built demand (equal wanted)
  | satisfy {α : Type} [ToString τ] (f : τ → Option α) : Built demand (satisfy f)
  | fail {α : Type} (fault : ParseFault) : Built demand (fail fault : Parser τ α)
  | choice {α : Type} {alternatives : List (Parser τ α)} (each : ∀ p ∈ alternatives, Built demand p) :
      Built demand (choice alternatives)
  | map {α β : Type} {p : Parser τ α} (built : Built demand p) (f : α → β) : Built demand (p.map f)
  | pair {α β : Type} {p : Parser τ α} {q : Parser τ β} (first : Built demand p) (second : Built demand q) :
      Built demand (pair p q)
  | many {α : Type} {p : Parser τ α} (built : Built demand p) (met : demand α p) : Built demand (many p)
  | separated {α : Type} {p : Parser τ α} {separator : Parser τ Unit} (built : Built demand p) (met : demand α p)
      (parts : Built demand separator) (apart : demand Unit separator) : Built demand (separated p separator)
  | optional {α : Type} {p : Parser τ α} (built : Built demand p) : Built demand (optional p)
  | context {α : Type} {p : Parser τ α} (built : Built demand p) (name : String) : Built demand (p.context name)
  | delayed {α : Type} {made : Unit → Parser τ α} (built : Built demand (made ())) : Built demand (delayed made)
  | unfolded {α : Type} {p : Parser τ α} (unfold : Nat → Parser τ α) (each : ∀ depth, Built demand (unfold depth))
      (same : ∀ input pos, ∃ depth, p input pos = unfold depth input pos) : Built demand p

section Built

variable {demand : (α : Type) → Parser τ α → Prop} {p : Parser τ α} {q : Parser τ β} {r : Parser τ γ}
  {s : Parser τ δ}

theorem Built.unit (built : Built demand p) : Built demand (unit p) := built.map _

theorem Built.triple (first : Built demand p) (second : Built demand q) (third : Built demand r) :
    Built demand (triple p q r) :=
  first.pair (second.pair third)

theorem Built.quadruple (first : Built demand p) (second : Built demand q) (third : Built demand r)
    (fourth : Built demand s) : Built demand (quadruple p q r s) :=
  first.pair (second.triple third fourth)

theorem Built.preceded {p : Parser τ Unit} (first : Built demand p) (second : Built demand q) :
    Built demand (preceded p q) :=
  (first.pair second).map _

theorem Built.delimited {left right : Parser τ Unit} (first : Built demand left) (second : Built demand q)
    (third : Built demand right) : Built demand (delimited left q right) :=
  (first.triple second third).map _

/-- The positions of a parser, of its results and of its errors, stay in the input. -/
theorem Built.bounded (built : Built demand p) : Bounded p := by
  induction built with
  | equal wanted => exact equal_bounded wanted
  | satisfy f => exact satisfy_bounded f
  | fail fault => exact fail_bounded fault
  | choice _ ih => exact choice_bounded ih
  | map _ f ih => exact ih.map f
  | pair _ _ first second => exact first.pair second
  | many _ _ ih => exact ih.many
  | separated _ _ _ _ item parts => exact item.separated parts
  | optional _ ih => exact ih.optional
  | context _ name ih => exact ih.context name
  | delayed _ ih => exact ih.delayed
  | unfolded unfold _ same ih =>
    intro input pos inside
    obtain ⟨depth, here⟩ := same input pos
    rw [here]
    exact ih depth inside

end Built

/-- What a choice reports when its alternatives fail: the first of the errors that lie furthest, if these lie beyond
the start, and otherwise that no alternative matched. -/
inductive Reported (start : Nat) : List ParseError → ParseError → Prop
  | furthest {before after : List ParseError} {e : ParseError} (first : ∀ other ∈ before, other.position < e.position)
      (rest : ∀ other ∈ after, other.position ≤ e.position) (beyond : start < e.position) :
      Reported start (before ++ e :: after) e
  | unmatched {errors : List ParseError} (near : ∀ e ∈ errors, e.position ≤ start) :
      Reported start errors ⟨.noAlternative, start, none⟩

/-- The error that is kept is the first furthest one of those that are seen. -/
def Kept (seen : List ParseError) (kept : Option ParseError) : Prop :=
  match kept with
  | none => seen = []
  | some e => ∃ before after, seen = before ++ e :: after ∧ (∀ other ∈ before, other.position < e.position) ∧
      ∀ other ∈ after, other.position ≤ e.position

theorem Kept.further {seen : List ParseError} {kept : Option ParseError} (isKept : Kept seen kept) (e : ParseError) :
    Kept (seen ++ [e]) (some (further kept e)) := by
  cases kept with
  | none =>
    subst isKept
    exact ⟨[], [], rfl, nofun, nofun⟩
  | some old =>
    obtain ⟨before, after, rfl, first, rest⟩ := isKept
    simp only [Parser.further]
    split
    · rename_i later
      refine ⟨before ++ old :: after, [], rfl, fun other member => ?_, nofun⟩
      rcases List.mem_append.mp member with earlier | behind
      · exact Nat.lt_trans (first other earlier) later
      · rcases List.mem_cons.mp behind with rfl | behind
        · exact later
        · exact Nat.lt_of_le_of_lt (rest other behind) later
    · rename_i nearer
      refine ⟨before, after ++ [e], by rw [List.append_assoc, List.cons_append], first, fun other member => ?_⟩
      rcases List.mem_append.mp member with behind | last
      · exact rest other behind
      · exact List.mem_singleton.mp last ▸ Nat.le_of_not_lt nearer

theorem Kept.le {seen : List ParseError} {e : ParseError} (isKept : Kept seen (some e)) :
    ∀ other ∈ seen, other.position ≤ e.position := by
  obtain ⟨before, after, rfl, first, rest⟩ := isKept
  intro other member
  rcases List.mem_append.mp member with earlier | behind
  · exact Nat.le_of_lt (first other earlier)
  · rcases List.mem_cons.mp behind with rfl | behind
    · exact Nat.le_refl _
    · exact rest other behind

theorem choiceFrom_reported {alternatives : List (Parser τ α)} {input : Array τ} {pos : Nat}
    {kept : Option ParseError} {e : ParseError} {seen : List ParseError} (isKept : Kept seen kept)
    (failed : choiceFrom input pos kept alternatives = .error e) :
    ∃ errors, List.Forall₂ (fun p fault => p input pos = .error fault) alternatives errors ∧
      Reported pos (seen ++ errors) e := by
  induction alternatives generalizing kept seen with
  | nil =>
    refine ⟨[], .nil, ?_⟩
    rw [List.append_nil]
    unfold choiceFrom at failed
    split at failed
    · rename_i furthest
      split at failed
      · rename_i beyond
        cases failed
        obtain ⟨before, after, rfl, first, rest⟩ := isKept
        exact .furthest first rest beyond
      · rename_i near
        cases failed
        exact .unmatched fun other member => Nat.le_trans (isKept.le other member) (Nat.le_of_not_lt near)
    · cases failed
      subst isKept
      exact .unmatched fun _ listed => absurd listed List.not_mem_nil
  | cons p others ih =>
    unfold choiceFrom at failed
    split at failed
    · cases failed
    · rename_i fault here
      obtain ⟨errors, fail, reported⟩ := ih (isKept.further fault) failed
      exact ⟨fault :: errors, .cons here fail, by rwa [List.append_assoc] at reported⟩

/-- A choice fails only when all its alternatives do. -/
theorem choice_reported {alternatives : List (Parser τ α)} {input : Array τ} {pos : Nat} {e : ParseError}
    (failed : choice alternatives input pos = .error e) :
    ∃ errors, List.Forall₂ (fun p fault => p input pos = .error fault) alternatives errors ∧
      Reported pos errors e :=
  choiceFrom_reported (show Kept [] none from rfl) failed

/-- A name changes neither results nor the fault and the place of an error. It is attached where none is present. -/
theorem context_eq_error_iff {p : Parser τ α} {name : String} {input : Array τ} {pos : Nat} {e : ParseError} :
    p.context name input pos = .error e ↔ ∃ bare, p input pos = .error bare ∧ e.fault = bare.fault ∧
      e.position = bare.position ∧ (bare.context = none → e.context = some name) ∧
      (bare.context ≠ none → e.context = bare.context) := by
  unfold Parser.context
  cases p input pos with
  | ok result => exact ⟨nofun, fun ⟨_, same, _⟩ => nomatch same⟩
  | error bare =>
    constructor
    · intro same
      cases same
      obtain ⟨fault, position, inner⟩ := bare
      cases inner with
      | none => exact ⟨_, rfl, rfl, rfl, fun _ => rfl, fun placed => absurd rfl placed⟩
      | some inner => exact ⟨_, rfl, rfl, rfl, nofun, fun _ => rfl⟩
    · rintro ⟨_, same, sameFault, samePosition, named, kept⟩
      cases same
      obtain ⟨fault, position, inner⟩ := bare
      obtain ⟨_, _, outer⟩ := e
      cases sameFault
      cases samePosition
      cases inner with
      | none => cases named rfl; rfl
      | some inner => cases kept nofun; rfl

theorem context_eq_ok_iff {p : Parser τ α} {name : String} {input : Array τ} {pos : Nat} {result : Nat × α} :
    p.context name input pos = .ok result ↔ p input pos = .ok result := by
  unfold Parser.context
  cases p input pos with
  | ok _ => exact Iff.rfl
  | error _ => exact ⟨nofun, nofun⟩

end Reckoner.Parser
