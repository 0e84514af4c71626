import Reckoner.Parser
import Reckoner.Proofs.Repetition

namespace Reckoner.Parser

variable {τ α β γ : Type} {p : Parser τ α} {q : Parser τ β} {t u rest : List τ} {a : α} {b : β}

/-- In front of `rest` the parser takes exactly the items `t` and gives `a`. -/
def Reads (p : Parser τ α) (t rest : List τ) (a : α) : Prop :=
  ∀ ⦃input : Array τ⦄ ⦃pos : Nat⦄, input.toList.drop pos = t ++ rest → p input pos = .ok (pos + t.length, a)

/-- In front of `rest` the parser fails. -/
def Refuses (p : Parser τ α) (rest : List τ) : Prop :=
  ∀ ⦃input : Array τ⦄ ⦃pos : Nat⦄, input.toList.drop pos = rest → ∃ e, p input pos = .error e

theorem drop_behind {input : Array τ} {pos : Nat} (here : input.toList.drop pos = t ++ rest) :
    input.toList.drop (pos + t.length) = rest := by
  rw [← List.drop_drop, here, List.drop_left]

/-- What a parser sees at its position is the head of what is left of the input. -/
theorem getElem?_of_drop {input : Array τ} {pos : Nat} (here : input.toList.drop pos = rest) :
    input[pos]? = rest.head? := by
  rw [← here, List.head?_drop, Array.getElem?_toList]

theorem length_of_drop {input : Array τ} {pos : Nat} (here : input.toList.drop pos = t ++ rest) :
    t.length ≤ input.size - pos := by
  have total := congrArg List.length here
  rw [List.length_drop, List.length_append, Array.length_toList] at total
  omega

/-- The basic parsers look at one item. They take it if it is the wanted one, and fail otherwise. -/
theorem equal_reads [DecidableEq τ] [ToString τ] (wanted : τ) (rest : List τ) :
    Reads (equal wanted) [wanted] rest wanted := by
  intro input pos here
  have found : input[pos]? = some wanted := getElem?_of_drop here
  simp only [equal, found, if_true, List.length_singleton]

theorem equal_refuses [DecidableEq τ] [ToString τ] {wanted : τ} (other : rest.head? ≠ some wanted) :
    Refuses (equal wanted) rest := by
  intro input pos here
  have found := getElem?_of_drop here
  unfold equal
  cases head : rest.head? with
  | none => rw [found, head]; exact ⟨_, rfl⟩
  | some item =>
    have different : item ≠ wanted := fun same => other (head.trans (congrArg some same))
    rw [found, head]
    exact ⟨_, if_neg different⟩

theorem satisfy_reads [ToString τ] {f : τ → Option α} {item : τ} (made : f item = some a) (rest : List τ) :
    Reads (satisfy f) [item] rest a := by
  intro input pos here
  have found : input[pos]? = some item := getElem?_of_drop here
  simp only [satisfy, found, made, List.length_singleton]

theorem satisfy_refuses [ToString τ] {f : τ → Option α} (unmade : ∀ item ∈ rest.head?, f item = none) :
    Refuses (satisfy f) rest := by
  intro input pos here
  have found := getElem?_of_drop here
  unfold satisfy
  cases head : rest.head? with
  | none => rw [found, head]; exact ⟨_, rfl⟩
  | some item =>
    rw [found, head]
    simp only [unmade item head]
    exact ⟨_, rfl⟩

theorem Reads.map (read : Reads p t rest a) (f : α → γ) : Reads (p.map f) t rest (f a) := by
  intro input pos here
  simp only [Parser.map, read here]

theorem Refuses.map (refused : Refuses p rest) (f : α → γ) : Refuses (p.map f) rest := by
  intro input pos here
  obtain ⟨e, failed⟩ := refused here
  exact ⟨e, by simp only [Parser.map, failed]⟩

theorem Reads.unit (read : Reads p t rest a) : Reads (unit p) t rest () := read.map _

theorem Refuses.unit (refused : Refuses p rest) : Refuses (unit p) rest := refused.map _

/-- A name for errors has no influence on successes. -/
theorem Reads.context (read : Reads p t rest a) (name : String) : Reads (p.context name) t rest a := by
  intro input pos here
  simp only [Parser.context, read here]
  rfl

theorem Refuses.context (refused : Refuses p rest) (name : String) : Refuses (p.context name) rest := by
  intro input pos here
  obtain ⟨e, failed⟩ := refused here
  exact ⟨e.within name, by simp only [Parser.context, failed]; rfl⟩

/-- Two parsers one after the other. What the second one takes stands behind the first one's items, and both have to
cope with it. -/
theorem Reads.pair (first : Reads p t (u ++ rest) a) (second : Reads q u rest b) :
    Reads (pair p q) (t ++ u) rest (a, b) := by
  intro input pos here
  rw [List.append_assoc] at here
  have read := second.map (a, ·) (drop_behind here)
  simp only [Parser.pair, first here]
  rw [read, List.length_append, Nat.add_assoc]

theorem Refuses.pair (refused : Refuses p rest) : Refuses (pair p q) rest := by
  intro input pos here
  obtain ⟨e, failed⟩ := refused here
  exact ⟨e, by simp only [Parser.pair, failed]⟩

theorem Reads.pair_refuses (first : Reads p t rest a) (refused : Refuses q rest) :
    Refuses (Parser.pair p q) (t ++ rest) := by
  intro input pos here
  obtain ⟨e, failed⟩ := refused.map (a, ·) (drop_behind here)
  exact ⟨e, by simp only [Parser.pair, first here, failed]⟩

theorem Reads.preceded {p : Parser τ Unit} (first : Reads p t (u ++ rest) ()) (second : Reads q u rest b) :
    Reads (preceded p q) (t ++ u) rest b := (first.pair second).map _

theorem Refuses.preceded {p : Parser τ Unit} (refused : Refuses p rest) : Refuses (preceded p q) rest :=
  refused.pair.map _

theorem Reads.delimited {left right : Parser τ Unit} {v : List τ} (first : Reads left t (u ++ v ++ rest) ())
    (second : Reads q u (v ++ rest) b) (third : Reads right v rest ()) :
    Reads (delimited left q right) (t ++ (u ++ v)) rest b :=
  (first.pair (second.pair third)).map _

theorem Refuses.delimited {left right : Parser τ Unit} (refused : Refuses left rest) :
    Refuses (delimited left q right) rest := refused.pair.map _

theorem Reads.optional (read : Reads p t rest a) : Reads (optional p) t rest (some a) := by
  intro input pos here
  simp only [Parser.optional, read here]

/-- What may be missing takes nothing where its parser fails. -/
theorem Refuses.optional (refused : Refuses p rest) : Reads (optional p) [] rest none := by
  intro input pos here
  obtain ⟨e, failed⟩ := refused here
  simp only [Parser.optional, failed, List.length_nil, Nat.add_zero]

/-- What an alternative gives does not depend on the errors of those before it. -/
theorem choiceFrom_ok {input : Array τ} {pos : Nat} {alternatives : List (Parser τ α)} {result : Nat × α}
    {first : Option ParseError} (read : choiceFrom input pos first alternatives = .ok result)
    (second : Option ParseError) : choiceFrom input pos second alternatives = .ok result := by
  induction alternatives generalizing first second with
  | nil =>
    unfold choiceFrom at read
    repeat' split at read
    all_goals exact nomatch read
  | cons p alternatives ih =>
    unfold choiceFrom at read ⊢
    split at read
    · exact read
    · exact ih read _

theorem Reads.choice_head (read : Reads p t rest a) (alternatives : List (Parser τ α)) :
    Reads (choice (p :: alternatives)) t rest a := by
  intro input pos here
  simp only [Parser.choice, choiceFrom, read here]

theorem Reads.choice_tail {alternatives : List (Parser τ α)} (read : Reads (choice alternatives) t rest a)
    (refused : Refuses p (t ++ rest)) : Reads (choice (p :: alternatives)) t rest a := by
  intro input pos here
  obtain ⟨e, failed⟩ := refused here
  simp only [Parser.choice, choiceFrom, failed]
  exact choiceFrom_ok (read here) _

theorem choice_nil_refuses (rest : List τ) : Refuses (choice ([] : List (Parser τ α))) rest := by
  intro input pos _
  exact ⟨_, rfl⟩

theorem Refuses.choice {alternatives : List (Parser τ α)} (first : Refuses p rest)
    (others : Refuses (choice alternatives) rest) : Refuses (Parser.choice (p :: alternatives)) rest := by
  intro input pos here
  obtain ⟨e, failed⟩ := first here
  obtain ⟨_, othersFailed⟩ := others here
  simp only [Parser.choice, choiceFrom, failed]
  cases outcome : choiceFrom input pos (some (further none e)) alternatives with
  | error e => exact ⟨e, rfl⟩
  | ok result => exact nomatch othersFailed.symm.trans (choiceFrom_ok outcome none)

/-- The parser takes all writings of at most `n` items, in front of items that do not continue them. -/
def ReadsAll (n : Nat) (p : Parser τ α) (W : α → List τ → Prop) (Stops : List τ → Prop) : Prop :=
  ∀ ⦃a : α⦄ ⦃t rest : List τ⦄, W a t → t.length ≤ n → Stops rest → Reads p t rest a

section Repetitions

variable {n : Nat} {W : α → List τ → Prop} {Stops : List τ → Prop} {as : List α}

theorem ReadsAll.manyLoop_eq (reads : ReadsAll n p W Stops) (nonempty : ∀ {a t}, W a t → t ≠ [])
    (stops : ∀ {a t rest}, W a t → Stops (t ++ rest)) (items : Repeated W as t) (bound : t.length ≤ n)
    (last : Stops rest) (refused : Refuses p rest) {input : Array τ} {pos rounds : Nat}
    (here : input.toList.drop pos = t ++ rest) (enough : t.length ≤ rounds) :
    manyLoop p input rounds pos = some (pos + t.length, as) := by
  induction items generalizing pos rounds with
  | nil =>
    obtain ⟨e, failed⟩ := refused here
    unfold manyLoop
    simp only [failed, List.length_nil, Nat.add_zero]
  | @cons a as t u item items ih =>
    rw [List.length_append] at bound enough
    rw [List.append_assoc] at here
    have positive := List.length_pos_iff.mpr (nonempty item)
    have read := reads item (by omega) (items.follow stops last) here
    obtain ⟨rounds, rfl⟩ : ∃ fewer, rounds = fewer + 1 := ⟨rounds - 1, by omega⟩
    have looped := ih (by omega) (drop_behind here) (show u.length ≤ rounds by omega)
    have moved : pos + t.length ≠ pos := by omega
    unfold manyLoop
    simp only [read, if_neg moved, looped, Option.map_some, List.length_append, Nat.add_assoc]

theorem ReadsAll.many (reads : ReadsAll n p W Stops) (nonempty : ∀ {a t}, W a t → t ≠ [])
    (stops : ∀ {a t rest}, W a t → Stops (t ++ rest)) (items : Repeated W as t) (bound : t.length ≤ n)
    (last : Stops rest) (refused : Refuses p rest) : Reads (many p) t rest as := by
  intro input pos here
  have looped := reads.manyLoop_eq nonempty stops items bound last refused here (length_of_drop here)
  simp only [Parser.many, looped]

variable {comma : τ} {separator : Parser τ Unit}

theorem Refuses.separatedLoop_eq (apart : Refuses separator rest) {input : Array τ} {pos : Nat}
    (here : input.toList.drop pos = rest) (rounds : Nat) :
    separatedLoop p separator input rounds pos = some (pos, []) := by
  obtain ⟨e, failed⟩ := apart here
  unfold separatedLoop
  simp only [failed]

/-- The rounds behind an item, which begin with a separator. -/
theorem ReadsAll.separatedLoop_eq (reads : ReadsAll n p W Stops) (parts : ∀ rest, Reads separator [comma] rest ())
    (stops : ∀ rest, Stops (comma :: rest)) (items : Separated W comma as t) (bound : t.length ≤ n)
    (last : Stops rest) (refused : Refuses p rest) (apart : Refuses separator rest) {input : Array τ}
    {pos rounds : Nat} (here : input.toList.drop pos = comma :: (t ++ rest)) (enough : t.length < rounds) :
    separatedLoop p separator input rounds pos = some (pos + (t.length + 1), as) := by
  induction items generalizing pos rounds with
  | nil =>
    obtain ⟨e, failed⟩ := refused (drop_behind (t := [comma]) here)
    have parted := parts _ here
    rw [List.length_singleton] at failed parted
    unfold separatedLoop
    simp only [parted, failed, List.length_nil]
  | @last a t item =>
    have parted := parts _ here
    have behind := drop_behind (t := [comma]) here
    have read := reads item bound last behind
    have ended := apart.separatedLoop_eq (p := p) (drop_behind behind) (rounds - 1)
    obtain ⟨rounds, rfl⟩ : ∃ fewer, rounds = fewer + 1 := ⟨rounds - 1, by omega⟩
    rw [List.length_singleton] at parted read ended
    rw [Nat.add_sub_cancel] at ended
    unfold separatedLoop
    simp only [parted, read, ended, Option.map_some]
    rw [Nat.add_right_comm, Nat.add_assoc]
  | @cons a as t u item items ih =>
    rw [List.length_append, List.length_cons] at bound enough
    rw [List.append_assoc] at here
    have parted := parts _ here
    have behind := drop_behind (t := [comma]) here
    have read := reads item (by omega) (stops _) behind
    obtain ⟨rounds, rfl⟩ : ∃ fewer, rounds = fewer + 1 := ⟨rounds - 1, by omega⟩
    have looped := ih (by omega) (drop_behind behind) (show u.length < rounds by omega)
    have total : pos + 1 + t.length + (u.length + 1) = pos + (t.length + (u.length + 1) + 1) := by omega
    rw [List.length_singleton] at parted read looped
    unfold separatedLoop
    simp only [parted, read, looped, Option.map_some, List.length_append, List.length_cons, total]

theorem ReadsAll.separated (reads : ReadsAll n p W Stops) (parts : ∀ rest, Reads separator [comma] rest ())
    (stops : ∀ rest, Stops (comma :: rest)) (items : Separated W comma as t) (bound : t.length ≤ n)
    (last : Stops rest) (refused : Refuses p rest) (apart : Refuses separator rest) :
    Reads (separated p separator) t rest as := by
  intro input pos here
  have room := length_of_drop here
  unfold Parser.separated
  cases items with
  | nil =>
    obtain ⟨e, failed⟩ := refused here
    simp only [failed, List.length_nil, Nat.add_zero]
  | last item =>
    simp only [reads item bound last here]
    rw [apart.separatedLoop_eq (drop_behind here)]
  | @cons a as t u item items =>
    rw [List.length_append, List.length_cons] at bound room
    rw [List.append_assoc] at here
    have looped := reads.separatedLoop_eq parts stops items (by omega) last refused apart (drop_behind here)
      (show u.length < input.size - pos by omega)
    simp only [reads item (by omega) (stops _) here, looped]
    rw [List.length_append, Nat.add_assoc]
    rfl

end Repetitions

end Reckoner.Parser
