import Reckoner.Configuration.Reading
import Reckoner.Proofs.JsonStrings

namespace Reckoner

namespace Json

open Text Text.Reader

variable {α β σ : Type} {rest : List Char}

theorem blanks_cons {c : Char} (solid : (c == ' ' || c == '\n' || c == '\r' || c == '\t') = false) :
    blanks (c :: rest) = some ((), c :: rest) := by
  have nothing : takeWhile _ (c :: rest) = some ([], c :: rest) :=
    takeWhile_eq_some.mpr ⟨rfl, nofun, fun d head => Option.some.inj head ▸ solid⟩
  exact discard_eq_some nothing

theorem peek?_cons (c : Char) : peek? (c :: rest) = some (some c, c :: rest) := rfl

theorem mark_cons {c : Char} (solid : (c == ' ' || c == '\n' || c == '\r' || c == '\t') = false) :
    mark c (c :: rest) = some ((), rest) := by
  unfold mark
  rw [bind_apply (blanks_cons solid), char_cons]

/-- The characters with which strings, truth values, records and lists begin. -/
def openings : List Char := ['\x22', '[', '\x7b', 'n', 't', 'f']

/-- A reader reads a document from its text without blanks, whatever stands behind it. -/
structure Reads (reader : Reader α) (document : Json) (a : α) : Prop where
  opens : ∃ c more, document.compactChars = c :: more ∧ c ∈ openings
  reads (rest : List Char) : reader (document.compactChars ++ rest) = some (a, rest)

theorem solid_of_mem {c : Char} (opening : c ∈ openings) :
    (c == ' ' || c == '\n' || c == '\r' || c == '\t') = false := by
  simp only [openings, List.mem_cons, List.not_mem_nil, or_false] at opening
  rcases opening with rfl | rfl | rfl | rfl | rfl | rfl <;> rfl

/-- No blank stands in front of a document, and no closing bracket. -/
theorem Reads.starts {reader : Reader α} {document : Json} {a : α} (reads : Reads reader document a) :
    ∃ c ∈ openings, ∀ rest, blanks (document.compactChars ++ rest) = some ((), document.compactChars ++ rest) ∧
      peek? (document.compactChars ++ rest) = some (some c, document.compactChars ++ rest) := by
  obtain ⟨c, more, opens, opening⟩ := reads.opens
  refine ⟨c, opening, fun rest => ?_⟩
  rw [opens]
  exact ⟨blanks_cons (solid_of_mem opening), rfl⟩

theorem string_reads (s : String) : Reads stringLiteral (.string s) s where
  opens := ⟨'\x22', _, rfl, by decide⟩
  reads _ := stringLiteral_stringText s

theorem bool_reads (b : Bool) : Reads boolean (.bool b) b := by
  cases b with
  | true => exact ⟨⟨'t', _, rfl, by decide⟩, fun _ => rfl⟩
  | false => exact ⟨⟨'f', _, rfl, by decide⟩, fun _ => rfl⟩

theorem optionalString_reads (s : String) : Reads optionalString (.string s) (some s) where
  opens := ⟨'\x22', _, rfl, by decide⟩
  reads rest := by
    exact map_eq_some.mpr ⟨s, stringLiteral_stringText s, rfl⟩

theorem null_reads : Reads optionalString .null none := ⟨⟨'n', _, rfl, by decide⟩, fun _ => rfl⟩

theorem Reads.map {reader : Reader α} {document : Json} {a : α} {f : α → β} {b : β} (reads : Reads reader document a)
    (made : f a = b) : Reads (f <$> reader) document b where
  opens := reads.opens
  reads rest := map_eq_some.mpr ⟨a, reads.reads rest, made⟩

theorem Reads.bind_pure {reader : Reader α} {document : Json} {a : α} {next : α → Reader β} {b : β}
    (reads : Reads reader document a) (made : next a = pure b) : Reads (reader >>= next) document b where
  opens := reads.opens
  reads rest := by
    rw [bind_apply (reads.reads rest), made]
    rfl

theorem once_reads {reader : Reader α} {document : Json} {a : α} (reads : Reads reader document a)
    (set : Option α → σ) : Reads (once reader none set) document (set (some a)) where
  opens := reads.opens
  reads rest := by
    unfold once
    rw [bind_apply (show check (none : Option α).isNone _ = some ((), _) from rfl), bind_apply (reads.reads rest)]
    rfl

theorem itemTexts_eq (items : List Json) : itemTexts items = items.map compactChars := by
  induction items with
  | nil => rfl
  | cons item items ih => rw [itemTexts, ih, List.map_cons]

/-- The text of a member. -/
def memberText (member : String × Json) : List Char := stringText member.1 ++ ':' :: member.2.compactChars

theorem memberTexts_eq (members : List (String × Json)) : memberTexts members = members.map memberText := by
  induction members with
  | nil => rfl
  | cons member members ih =>
    rw [memberTexts, ih, List.map_cons]
    rfl

theorem commas_cons_cons (text next : List Char) (texts : List (List Char)) :
    commas (text :: next :: texts) = text ++ ',' :: commas (next :: texts) := rfl

theorem commas_cons (text : List Char) (texts : List (List Char)) : ∃ more, commas (text :: texts) = text ++ more := by
  cases texts with
  | nil => exact ⟨[], (List.append_nil _).symm⟩
  | cons next texts => exact ⟨_, rfl⟩

/-- There is a comma for every text but one. -/
theorem length_le_commas (texts : List (List Char)) : texts.length ≤ (commas texts).length + 1 := by
  induction texts with
  | nil => exact Nat.zero_le _
  | cons text texts ih =>
    cases texts with
    | nil => exact Nat.le_add_left _ _
    | cons next texts =>
      rw [List.length_cons] at ih
      rw [commas_cons_cons, List.length_append, List.length_cons, List.length_cons, List.length_cons]
      omega

/-- A text of items has room for a round for each of them. -/
theorem lt_length_commas (text : List Char) (texts : List (List Char)) (tail : List Char) :
    texts.length < (commas (text :: texts) ++ tail).length + 1 := by
  have least := length_le_commas (text :: texts)
  rw [List.length_cons] at least
  rw [List.length_append]
  omega

section List

variable {item : Reader α} {write : α → Json}

theorem listItems_commas (each : ∀ a, Reads item (write a) a) (first : α) (others : List α) {limit : Nat}
    (enough : others.length < limit) :
    listItems item limit (commas ((first :: others).map fun a => (write a).compactChars) ++ ']' :: rest) =
      some (first :: others, rest) := by
  induction others generalizing first limit with
  | nil =>
    obtain ⟨fewer, rfl⟩ := Nat.exists_eq_add_one.mpr enough
    rw [List.map_cons, List.map_nil, commas, listItems, bind_apply ((each first).reads _), bind_apply (blanks_cons rfl),
      bind_apply (peek?_cons _)]
    rfl
  | cons second others ih =>
    obtain ⟨fewer, rfl⟩ := Nat.exists_eq_add_one.mpr (Nat.zero_lt_of_lt enough)
    simp only [List.map_cons] at ih ⊢
    rw [commas_cons_cons, List.append_assoc, List.cons_append, listItems, bind_apply ((each first).reads _),
      bind_apply (blanks_cons rfl), bind_apply (peek?_cons _)]
    change (char ',' >>= _) _ = _
    rw [bind_apply (char_cons _ _), bind_apply (ih second (Nat.lt_of_succ_lt_succ enough))]
    rfl

theorem list_reads (each : ∀ a, Reads item (write a) a) (as : List α) :
    Reads (list item) (.array (as.map write)) as where
  opens := ⟨'[', _, rfl, by decide⟩
  reads rest := by
    rw [compactChars, itemTexts_eq, List.map_map, List.cons_append, List.cons_append, List.append_assoc,
      List.singleton_append, list, bind_apply (mark_cons rfl)]
    cases as with
    | nil => rfl
    | cons first others =>
      obtain ⟨c, opening, starts⟩ := (each first).starts
      obtain ⟨more, behind⟩ := commas_cons (write first).compactChars (others.map fun a => (write a).compactChars)
      have enough := lt_length_commas (write first).compactChars (others.map fun a => (write a).compactChars)
        (']' :: rest)
      rw [List.length_map] at enough
      have items : listItems item _ (commas ((first :: others).map fun a => (write a).compactChars) ++ ']' :: rest) =
          some (first :: others, rest) := listItems_commas each first others enough
      change (blanks >>= _) (commas ((first :: others).map fun a => (write a).compactChars) ++ ']' :: rest) = _
      rw [List.map_cons, behind, List.append_assoc] at items ⊢
      rw [bind_apply (starts _).1, bind_apply (starts _).2]
      simp only [openings, List.mem_cons, List.not_mem_nil, or_false] at opening
      rcases opening with rfl | rfl | rfl | rfl | rfl | rfl <;> exact items

end List

section Record

variable {step : String → σ → Option (Reader σ)}

/-- Members of a record, each of which is read as the draft says for its name, and what becomes of the draft. -/
inductive Drafts (step : String → σ → Option (Reader σ)) : σ → List (String × Json) → σ → Prop
  | nil {draft : σ} : Drafts step draft [] draft
  | cons {draft next last : σ} {name : String} {document : Json} {members : List (String × Json)} {reader : Reader σ} :
      step name draft = some reader → Reads reader document next → Drafts step next members last →
      Drafts step draft ((name, document) :: members) last

/-- A name stands in front of a member, and no blank. -/
theorem memberText_starts (member : String × Json) (rest : List Char) :
    blanks (memberText member ++ rest) = some ((), memberText member ++ rest) ∧
      peek? (memberText member ++ rest) = some (some '\x22', memberText member ++ rest) :=
  ⟨blanks_cons (c := '\x22') rfl, rfl⟩

/-- A member is read, and what stands behind it tells whether another one follows. -/
theorem recordMembers_memberText {draft next : σ} {name : String} {document : Json} {reader : Reader σ}
    (found : step name draft = some reader) (reads : Reads reader document next) (limit : Nat) :
    recordMembers step (limit + 1) draft (memberText (name, document) ++ '\x7d' :: rest) = some (next, rest) ∧
      recordMembers step (limit + 1) draft (memberText (name, document) ++ ',' :: rest) =
        recordMembers step limit next rest := by
  obtain ⟨_, _, starts⟩ := reads.starts
  constructor
  all_goals
    rw [recordMembers, bind_apply (memberText_starts _ _).1, memberText, List.append_assoc, List.cons_append,
      bind_apply (stringLiteral_stringText name), bind_apply (mark_cons rfl), bind_apply (starts _).1, found]
    change (reader >>= _) _ = _
    rw [bind_apply (reads.reads _)]
    change (blanks >>= _) _ = _
    rw [bind_apply (blanks_cons rfl), bind_apply (peek?_cons _)]
  · rfl
  · change (char ',' >>= _) _ = _
    rw [bind_apply (char_cons _ _)]

theorem recordMembers_commas {draft last : σ} {first : String × Json} {others : List (String × Json)}
    (drafts : Drafts step draft (first :: others) last) {limit : Nat} (enough : others.length < limit) :
    recordMembers step limit draft (commas ((first :: others).map memberText) ++ '\x7d' :: rest) =
      some (last, rest) := by
  induction others generalizing draft first limit with
  | nil =>
    obtain ⟨fewer, rfl⟩ := Nat.exists_eq_add_one.mpr enough
    cases drafts with
    | cons found reads drafts =>
      cases drafts
      exact (recordMembers_memberText found reads fewer).1
  | cons second others ih =>
    obtain ⟨fewer, rfl⟩ := Nat.exists_eq_add_one.mpr (Nat.zero_lt_of_lt enough)
    cases drafts with
    | cons found reads drafts =>
      have behind := ih drafts (Nat.lt_of_succ_lt_succ enough)
      rw [List.map_cons] at behind
      rw [List.map_cons, List.map_cons, commas_cons_cons, List.append_assoc, List.cons_append,
        (recordMembers_memberText found reads fewer).2, behind]

theorem record_reads (names : List String) {start last : σ} {members : List (String × Json)}
    (drafts : Drafts step start members last) : Reads (record names step start) (.object members) last where
  opens := ⟨'\x7b', _, rfl, by decide⟩
  reads rest := by
    rw [compactChars, memberTexts_eq, List.cons_append, List.cons_append, List.append_assoc,
      List.singleton_append, record, bind_apply (blanks_cons rfl), bind_apply (peek?_cons _)]
    change (char '\x7b' >>= _) _ = _
    rw [bind_apply (char_cons _ _)]
    cases drafts with
    | nil => rfl
    | @cons _ _ _ name document members reader found reads drafts =>
      have enough := lt_length_commas (memberText (name, document)) (members.map memberText) ('\x7d' :: rest)
      rw [List.length_map] at enough
      have items : recordMembers step _ start
          (commas (((name, document) :: members).map memberText) ++ '\x7d' :: rest) = some (last, rest) :=
        recordMembers_commas (.cons found reads drafts) enough
      obtain ⟨more, behind⟩ := commas_cons (memberText (name, document)) (members.map memberText)
      change (blanks >>= _) (commas (((name, document) :: members).map memberText) ++ '\x7d' :: rest) = _
      rw [List.map_cons, behind, List.append_assoc] at items ⊢
      rw [bind_apply (memberText_starts _ _).1, bind_apply (memberText_starts _ _).2]
      exact items

end Record

/-- A document is read of its text alone. -/
theorem Reads.readDocument? {reader : Reader α} {document : Json} {a : α} (reads : Reads reader document a) :
    readDocument? reader document.compact = some a := by
  obtain ⟨_, _, starts⟩ := reads.starts
  unfold Json.readDocument? compact
  rw [String.toList_ofList, readAll?_eq_some, ← List.append_nil document.compactChars, bind_apply (starts []).1,
    bind_apply (reads.reads [])]
  rfl

end Json

end Reckoner
