import Reckoner.Token.Placed

namespace Reckoner

namespace Text.Reader

variable {α β : Type} {a b : Reader α} {text rest : List Char}

theorem or_apply (a b : Reader α) (text : List Char) : (a <|> b) text = (a text <|> b text) := rfl

theorem map_apply (f : α → β) (a : Reader α) (text : List Char) :
    (f <$> a) text = (a text).map fun r => (f r.1, r.2) := by
  change (a text).bind (fun r => some (f r.1, r.2)) = _
  rw [Option.map_eq_bind]
  rfl

/-- Behind what one reader reads the next one goes on. -/
theorem bind_apply {next : α → Reader β} {u : α} {middle : List Char} (read : a text = some (u, middle)) :
    (a >>= next) text = next u middle := by
  change (a text).bind (fun r => next r.1 r.2) = _
  rw [read]
  rfl

theorem or_eq_some {result : α × List Char} :
    (a <|> b) text = some result ↔ a text = some result ∨ a text = none ∧ b text = some result := by
  rw [or_apply]
  cases a text <;> simp

theorem or_eq_none : (a <|> b) text = none ↔ a text = none ∧ b text = none := by
  rw [or_apply]
  cases a text <;> simp

theorem map_eq_some {f : α → β} {v : β} :
    (f <$> a) text = some (v, rest) ↔ ∃ u, a text = some (u, rest) ∧ f u = v := by
  rw [map_apply, Option.map_eq_some_iff]
  constructor
  · rintro ⟨⟨u, _⟩, read, same⟩
    cases same
    exact ⟨u, read, rfl⟩
  · rintro ⟨u, read, rfl⟩
    exact ⟨(u, rest), read, rfl⟩

theorem map_eq_none {f : α → β} : (f <$> a) text = none ↔ a text = none := by
  rw [map_apply, Option.map_eq_none_iff]

theorem bind_eq_some {next : α → Reader β} {v : β} :
    (a >>= next) text = some (v, rest) ↔ ∃ u middle, a text = some (u, middle) ∧ next u middle = some (v, rest) := by
  refine (Option.bind_eq_some_iff (x := a text)).trans ⟨?_, ?_⟩
  · rintro ⟨⟨u, middle⟩, start, behind⟩
    exact ⟨u, middle, start, behind⟩
  · rintro ⟨u, middle, start, behind⟩
    exact ⟨(u, middle), start, behind⟩

theorem readAll?_eq_some {u : α} : a.readAll? text = some u ↔ a text = some (u, []) := by
  unfold readAll?
  cases read : a text with
  | none => simp
  | some result =>
    obtain ⟨v, rest⟩ := result
    cases rest <;> simp

theorem satisfy_cons {p : Char → Bool} {c : Char} (holds : p c = true) (rest : List Char) :
    satisfy p (c :: rest) = some (c, rest) :=
  if_pos holds

theorem discard_eq_some {u : α} (read : a text = some (u, rest)) : discard a text = some ((), rest) :=
  Option.bind_eq_some_iff.2 ⟨(u, rest), read, rfl⟩

theorem char_cons (c : Char) (rest : List Char) : char c (c :: rest) = some ((), rest) :=
  discard_eq_some (satisfy_cons (beq_self_eq_true c) rest)

/-- A run is the longest one: all of its characters are of the class, and the next one is not. -/
theorem takeWhile_eq_some {p : Char → Bool} {run : List Char} :
    takeWhile p text = some (run, rest) ↔
      text = run ++ rest ∧ (∀ c ∈ run, p c = true) ∧ ∀ c ∈ rest.head?, p c = false := by
  constructor
  · intro taken
    cases taken
    refine ⟨List.takeWhile_append_dropWhile.symm, List.all_eq_true.mp List.all_takeWhile, fun c head => ?_⟩
    have stopped := List.head?_dropWhile_not p text
    rw [head] at stopped
    exact stopped
  · rintro ⟨rfl, all, stop⟩
    have nothing : rest.takeWhile p = [] ∧ rest.dropWhile p = rest := by
      cases rest with
      | nil => exact ⟨rfl, rfl⟩
      | cons c rest => simp [stop c rfl]
    unfold takeWhile
    rw [List.takeWhile_append_of_pos all, List.dropWhile_append_of_pos all, nothing.1, nothing.2, List.append_nil]

/-- What is in front of the first character outside of a class, and what begins with it. -/
theorem takeWhile_dropWhile_append {p : Char → Bool} {run rest : List Char} (all : ∀ c ∈ run, p c = true)
    (stop : ∀ c ∈ rest.head?, p c = false) : (run ++ rest).takeWhile p = run ∧ (run ++ rest).dropWhile p = rest :=
  Prod.mk.inj (Option.some.inj (takeWhile_eq_some.mpr ⟨rfl, all, stop⟩))

theorem takeWhile1_eq_some {p : Char → Bool} {run : List Char} :
    takeWhile1 p text = some (run, rest) ↔
      text = run ++ rest ∧ run ≠ [] ∧ (∀ c ∈ run, p c = true) ∧ ∀ c ∈ rest.head?, p c = false := by
  have whole : takeWhile1 p text = some (run, rest) ↔ takeWhile p text = some (run, rest) ∧ run ≠ [] := by
    unfold takeWhile1 takeWhile
    cases taken : text.takeWhile p with
    | nil => simp +contextual [eq_comm]
    | cons c more =>
      refine ⟨fun read => ⟨read, fun nothing => ?_⟩, fun read => read.1⟩
      cases nothing
      cases read
  rw [whole, takeWhile_eq_some]
  exact ⟨fun ⟨⟨spelled, all, stop⟩, nonempty⟩ => ⟨spelled, nonempty, all, stop⟩,
    fun ⟨spelled, nonempty, all, stop⟩ => ⟨⟨spelled, all, stop⟩, nonempty⟩⟩

theorem takeWhile1_eq_none {p : Char → Bool} : takeWhile1 p text = none ↔ ∀ c ∈ text.head?, p c = false := by
  unfold takeWhile1
  cases text with
  | nil => simp
  | cons c text => cases holds : p c <;> simp [holds]

/-- A character of a class, and what is read behind it. -/
def behind (p : Char → Bool) (next : Char → Reader α) : Reader α
  | c :: rest => if p c then next c rest else none
  | [] => none

/-- What one reader reads, and what another one reads behind that if it reads something. -/
def optionally (first : Reader α) (second : Reader β) : Reader (α × Option β) := fun text =>
  match first text with
  | none => none
  | some (a, middle) =>
    match second middle with
    | some (b, rest) => some ((a, some b), rest)
    | none => some ((a, none), middle)

theorem chars_cons (c : Char) (wanted : List Char) : chars (c :: wanted) = behind (· == c) fun _ => chars wanted := by
  funext text
  rcases text with _ | ⟨d, rest⟩
  · rfl
  · by_cases same : (d == c) = true <;>
      simp [chars, char, satisfy, behind, bind, StateT.bind, discard, Functor.discard, Functor.mapConst,
        StateT.map, same]

theorem chars_eq_some {wanted : List Char} {u : Unit} :
    chars wanted text = some (u, rest) ↔ text = wanted ++ rest := by
  induction wanted generalizing text with
  | nil =>
    change some ((), text) = some (u, rest) ↔ _
    simp
  | cons c wanted ih =>
    rw [chars_cons]
    rcases text with _ | ⟨d, tail⟩
    · simp [behind]
    · by_cases same : d = c
      · subst same
        simp [behind, ih]
      · simp [behind, same]

end Text.Reader

namespace Token

open Text Text.Reader

/-- Spaces and tabs. -/
def isSpace (c : Char) : Bool := c == ' ' || c == '\t'

/-- Spaces, tabs and line ends. -/
def isLayout (c : Char) : Bool := isSpace c || isLineEnd c

/-- Quotation marks and apostrophes. -/
def isQuote (c : Char) : Bool := c == '\x22' || c == '\x27'

/-- The characters of all tokens but layout, comments and strings. -/
def isPlain (c : Char) : Bool := !isLayout c && !isQuote c

/-- No token but a comment or a string goes on into such a text. -/
def Stops (text : List Char) : Prop := ∀ c ∈ text.head?, isLayout c = true

/-- What a reader takes, and whether it takes something, does not depend on what stands behind a
blank or a line end. -/
structure Local {α : Type} (reader : Reader α) : Prop where
  takes {text rest : List Char} {a : α} : reader text = some (a, rest) →
    ∃ piece, text = piece ++ rest ∧ ∀ c ∈ piece, isPlain c = true
  refuses {near far stop : List Char} : Stops stop → reader (near ++ far) = none → reader (near ++ stop) = none
  keeps {piece near far stop : List Char} {a : α} : Stops stop →
    reader (piece ++ (near ++ far)) = some (a, near ++ far) → reader (piece ++ (near ++ stop)) = some (a, near ++ stop)

theorem isLayout_of_isSpace {c : Char} (space : isSpace c = true) : isLayout c = true := by
  rw [isLayout, space, Bool.true_or]

theorem isLayout_of_isPlain {c : Char} (plain : isPlain c = true) : isLayout c = false := by
  simp only [isPlain, Bool.and_eq_true, Bool.not_eq_true'] at plain
  exact plain.1

/-- A class of plain characters does not go on into a text where tokens stop. -/
theorem Stops.head_append {p : Char → Bool} {near far stop : List Char} (stops : Stops stop)
    (plain : ∀ c, p c = true → isPlain c = true) (head : ∀ c ∈ (near ++ far).head?, p c = false) :
    ∀ c ∈ (near ++ stop).head?, p c = false := by
  cases near with
  | cons d near => exact head
  | nil =>
    intro c first
    cases holds : p c with
    | false => rfl
    | true => exact absurd (stops c first) (by rw [isLayout_of_isPlain (plain c holds)]; exact Bool.false_ne_true)

namespace Local

variable {α β : Type} {p : Char → Bool}

theorem map {reader : Reader α} (here : Local reader) (f : α → β) : Local (f <$> reader) where
  takes taken := by
    obtain ⟨a, read, _⟩ := map_eq_some.mp taken
    exact here.takes read
  refuses stops nothing := map_eq_none.mpr (here.refuses stops (map_eq_none.mp nothing))
  keeps stops taken := by
    obtain ⟨a, read, same⟩ := map_eq_some.mp taken
    exact map_eq_some.mpr ⟨a, here.keeps stops read, same⟩

theorem or {a b : Reader α} (first : Local a) (second : Local b) : Local (a <|> b) where
  takes taken := by
    rcases or_eq_some.mp taken with read | ⟨_, read⟩
    · exact first.takes read
    · exact second.takes read
  refuses stops refused := by
    obtain ⟨noFirst, noSecond⟩ := or_eq_none.mp refused
    exact or_eq_none.mpr ⟨first.refuses stops noFirst, second.refuses stops noSecond⟩
  keeps stops taken := by
    rcases or_eq_some.mp taken with read | ⟨refused, read⟩
    · exact or_eq_some.mpr (.inl (first.keeps stops read))
    · rw [← List.append_assoc] at refused
      have refused := first.refuses stops refused
      rw [List.append_assoc] at refused
      exact or_eq_some.mpr (.inr ⟨refused, second.keeps stops read⟩)

/-- A reader that takes nothing. -/
theorem constant (a? : Option α) : Local fun text => a?.map (·, text) where
  takes taken := by
    obtain ⟨_, _, same⟩ := Option.map_eq_some_iff.mp taken
    cases same
    exact ⟨[], rfl, nofun⟩
  refuses _ nothing := by
    rw [Option.map_eq_none_iff] at nothing ⊢
    exact nothing
  keeps _ taken := by
    obtain ⟨_, rfl, same⟩ := Option.map_eq_some_iff.mp taken
    obtain ⟨made, whole⟩ := Prod.mk.inj same
    cases List.append_left_eq_self.mp whole
    cases made
    rfl

theorem takeWhile (plain : ∀ c, p c = true → isPlain c = true) : Local (takeWhile p) where
  takes taken := by
    obtain ⟨spelled, all, _⟩ := takeWhile_eq_some.mp taken
    exact ⟨_, spelled, fun c member => plain c (all c member)⟩
  refuses _ nothing := nomatch nothing
  keeps stops taken := by
    obtain ⟨spelled, all, stop⟩ := takeWhile_eq_some.mp taken
    cases List.append_cancel_right spelled
    exact takeWhile_eq_some.mpr ⟨rfl, all, stops.head_append plain stop⟩

theorem takeWhile1 (plain : ∀ c, p c = true → isPlain c = true) : Local (takeWhile1 p) where
  takes taken := by
    obtain ⟨spelled, _, all, _⟩ := takeWhile1_eq_some.mp taken
    exact ⟨_, spelled, fun c member => plain c (all c member)⟩
  refuses stops nothing := takeWhile1_eq_none.mpr (stops.head_append plain (takeWhile1_eq_none.mp nothing))
  keeps stops taken := by
    obtain ⟨spelled, nonempty, all, stop⟩ := takeWhile1_eq_some.mp taken
    cases List.append_cancel_right spelled
    exact takeWhile1_eq_some.mpr ⟨rfl, nonempty, all, stops.head_append plain stop⟩

/-- A reader behind one character of a class is local if all readers behind these characters are. Something is taken in
any case, namely this character. -/
theorem behind {next : Char → Reader α} (plain : ∀ c, p c = true → isPlain c = true)
    (each : ∀ c, p c = true → Local (next c)) : Local (behind p next) where
  takes {text rest a} taken := by
    cases text with
    | nil => exact nomatch taken
    | cons c text =>
      rw [Reader.behind] at taken
      split at taken
      · rename_i holds
        obtain ⟨piece, rfl, all⟩ := (each c holds).takes taken
        exact ⟨c :: piece, rfl, List.forall_mem_cons.mpr ⟨plain c holds, all⟩⟩
      · exact nomatch taken
  refuses {near far stop} stops nothing := by
    cases near with
    | nil =>
      have head := @Stops.head_append p [] [] stop stops plain nofun
      cases stop with
      | nil => rfl
      | cons c stop => rw [List.nil_append, Reader.behind, head c rfl, if_neg Bool.false_ne_true]
    | cons c near =>
      rw [List.cons_append, Reader.behind] at nothing ⊢
      split
      · rename_i holds
        rw [if_pos holds] at nothing
        exact (each c holds).refuses stops nothing
      · rfl
  keeps {piece near far stop a} stops taken := by
    cases piece with
    | nil =>
      cases text : near ++ far with
      | nil => rw [List.nil_append, text] at taken; exact nomatch taken
      | cons c tail =>
        rw [List.nil_append, text, Reader.behind] at taken
        split at taken
        · rename_i holds
          obtain ⟨piece, spelled, _⟩ := (each c holds).takes taken
          have length := congrArg List.length spelled
          simp only [List.length_append, List.length_cons] at length
          omega
        · exact nomatch taken
    | cons c piece =>
      rw [List.cons_append, Reader.behind] at taken ⊢
      split at taken
      · rename_i holds
        rw [if_pos holds]
        exact (each c holds).keeps stops taken
      · exact nomatch taken

theorem optionally {first : Reader α} {second : Reader β} (one : Local first) (two : Local second) :
    Local (optionally first second) where
  takes taken := by
    unfold Reader.optionally at taken
    split at taken
    · exact nomatch taken
    · rename_i read
      obtain ⟨front, rfl, plainFront⟩ := one.takes read
      split at taken
      · rename_i more
        cases taken
        obtain ⟨piece, rfl, plain⟩ := two.takes more
        exact ⟨front ++ piece, (List.append_assoc ..).symm, List.forall_mem_append.mpr ⟨plainFront, plain⟩⟩
      · cases taken
        exact ⟨front, rfl, plainFront⟩
  refuses stops nothing := by
    unfold Reader.optionally at nothing ⊢
    split at nothing
    · rename_i refused
      rw [one.refuses stops refused]
    · split at nothing <;> exact nomatch nothing
  keeps {piece near far stop} a stops taken := by
    unfold Reader.optionally at taken ⊢
    split at taken
    · exact nomatch taken
    · rename_i v middle read
      obtain ⟨front, spelled, _⟩ := one.takes read
      split at taken
      · rename_i more
        cases taken
        obtain ⟨tail, rfl, _⟩ := two.takes more
        have whole : piece = front ++ tail :=
          List.append_cancel_right (spelled.trans (List.append_assoc front tail _).symm)
        have read : first (front ++ ((tail ++ near) ++ far)) = some (v, (tail ++ near) ++ far) := by
          rw [List.append_assoc tail, ← List.append_assoc front, ← whole]
          exact read
        have kept := one.keeps stops read
        rw [List.append_assoc tail, ← List.append_assoc front, ← whole] at kept
        rw [kept]
        dsimp only
        rw [two.keeps stops more]
      · rename_i refused
        cases taken
        cases List.append_cancel_right spelled
        rw [one.keeps stops read]
        dsimp only
        rw [two.refuses stops refused]
  
theorem chars {wanted : List Char} (plain : ∀ c ∈ wanted, isPlain c = true) : Local (chars wanted) := by
  induction wanted with
  | nil => exact constant (some ())
  | cons c wanted ih =>
    obtain ⟨first, rest⟩ := List.forall_mem_cons.mp plain
    rw [chars_cons]
    refine behind (fun d same => ?_) fun _ _ => ih rest
    rw [eq_of_beq same]
    exact first

/-- The first of several readers that takes something. -/
theorem findSome? {γ : Type} {readers : γ → Reader α} (cs : List γ) (each : ∀ c ∈ cs, Local (readers c)) :
    Local fun text => cs.findSome? (readers · text) := by
  induction cs with
  | nil => exact constant none
  | cons c cs ih =>
    obtain ⟨first, rest⟩ := List.forall_mem_cons.mp each
    let later : Reader α := fun text => cs.findSome? (readers · text)
    have same : (fun text => (c :: cs).findSome? (readers · text)) = (readers c <|> later) := by
      funext text
      rw [or_apply, List.findSome?_cons]
      cases readers c text <;> rfl
    exact same ▸ first.or (ih rest)

end Local

theorem isPlain_of_ne {c : Char} (other : ∀ d ∈ [' ', '\t', '\r', '\n', '\x22', '\x27'], c ≠ d) : isPlain c = true := by
  simp only [List.forall_mem_cons, List.not_mem_nil] at other
  simp [isPlain, isLayout, isSpace, isLineEnd, isQuote, other]

/-- A class without blanks, line ends and quotation marks. -/
theorem isPlain_of_class (p : Char → Bool) (apart : [' ', '\t', '\r', '\n', '\x22', '\x27'].any p = false)
    (c : Char) (holds : p c = true) : isPlain c = true :=
  isPlain_of_ne fun d member same => List.any_eq_false.mp apart d member (same ▸ holds)

theorem isPlain_of_isDigit (c : Char) (digit : c.isDigit = true) : isPlain c = true :=
  isPlain_of_class Char.isDigit (by decide) c digit

theorem isPlain_of_isWordPart (c : Char) (part : isWordPart c = true) : isPlain c = true :=
  isPlain_of_class isWordPart (by decide +kernel) c part

theorem isPlain_of_isWordStart (c : Char) (start : isWordStart c = true) : isPlain c = true :=
  isPlain_of_class isWordStart (by decide +kernel) c start

end Token

end Reckoner
