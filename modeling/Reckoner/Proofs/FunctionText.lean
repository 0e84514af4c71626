import Reckoner.Proofs.Compilation
import Reckoner.Proofs.Relaying

namespace Reckoner

namespace Text

open Token

/-- Indented line ends, and what may stand at the end of the last line. -/
def IsIndented (ending : List Char) : Prop := ending = ['\n'] ∨ ending = ['\n', ' ', ' ', ' ', ' ']

def IsLineEndOrNothing (ending : List Char) : Prop := ending = [] ∨ ending = ['\n']

theorem indented_endings : Endings IsIndented IsLineEndOrNothing where
  begins here := by
    rcases here with rfl | rfl
    · exact ⟨_, _, rfl, rfl⟩
    · exact ⟨_, _, rfl, rfl⟩
  layout here := by rcases here with rfl | rfl <;> exact List.all_eq_true.mp rfl
  last here := by rcases here with rfl | rfl <;> exact List.all_eq_true.mp rfl

/-- The lines of a text, each behind four blanks and in front of a line feed. -/
def indent (lines : List (List Char)) : List Char := lines.flatMap fun line => [' ', ' ', ' ', ' '] ++ line ++ ['\n']

theorem dropReturn_cases (line : List Char) :
    (∃ front, line = front ++ ['\r'] ∧ dropReturn line = front) ∨ dropReturn line = line := by
  unfold dropReturn
  split
  · rename_i rest same
    refine .inl ⟨rest.reverse, ?_, rfl⟩
    rw [← List.reverse_cons, ← same, List.reverse_reverse]
  · exact .inr rfl

theorem relaid_line {line rest ending u : List Char} (noFeed : '\n' ∉ line) (here : IsIndented ending)
    (relaid : Relaid IsIndented IsLineEndOrNothing rest u) :
    Relaid IsIndented IsLineEndOrNothing (line ++ '\n' :: rest) (dropReturn line ++ (ending ++ u)) := by
  rcases dropReturn_cases line with ⟨front, rfl, dropped⟩ | dropped
  · rw [dropped, List.append_assoc]
    exact (Relaid.returnFeed here relaid).append fun member => noFeed (List.mem_append_left _ member)
  · rw [dropped]
    exact (Relaid.feed here relaid).append noFeed

theorem indent_cons (line : List Char) (lines : List (List Char)) :
    indent (line :: lines) = [' ', ' ', ' ', ' '] ++ (line ++ ('\n' :: indent lines)) := by
  simp [indent]

/-- The indented lines of a text, of which a part of the first line is read, are the text but for its
line ends. -/
theorem relaid_indent (current text : List Char) (noFeed : '\n' ∉ current) :
    (current.reverse ++ text = [] ∧ indent (linesFrom current text) = []) ∨
      ∃ u, indent (linesFrom current text) = [' ', ' ', ' ', ' '] ++ u ∧
        Relaid IsIndented IsLineEndOrNothing (current.reverse ++ text) u := by
  have inLine : '\n' ∉ current.reverse := fun member => noFeed (List.mem_reverse.mp member)
  induction text generalizing current with
  | nil =>
    cases current with
    | nil => exact .inl ⟨rfl, rfl⟩
    | cons c current => exact .inr ⟨_, indent_cons .., (Relaid.last (.inr rfl)).append inLine⟩
  | cons c text ih =>
    by_cases feed : c = '\n'
    · subst feed
      right
      rw [linesFrom, indent_cons]
      refine ⟨_, rfl, ?_⟩
      rcases ih [] List.not_mem_nil List.not_mem_nil with ⟨rfl, untouched⟩ | ⟨u, shifted, relaid⟩
      · rw [untouched]
        exact relaid_line inLine (.inl rfl) (.last (.inl rfl))
      · rw [shifted]
        exact relaid_line inLine (.inr rfl) relaid
    · have next : linesFrom current (c :: text) = linesFrom (c :: current) text := by
        rw [linesFrom]
        exact feed
      have noFeed : '\n' ∉ c :: current := by
        rw [List.mem_cons, not_or]
        exact ⟨Ne.symm feed, noFeed⟩
      have ih := ih (c :: current) noFeed fun member => noFeed (List.mem_reverse.mp member)
      rw [List.reverse_cons, List.append_assoc] at ih
      rw [next]
      exact ih

theorem endsLine_of_relaid {rest u : List Char} (ends : EndsLine rest)
    (relaid : Relaid IsIndented IsLineEndOrNothing rest u) : EndsLine u := by
  have indented {ending : List Char} (here : IsIndented ending) (u : List Char) : EndsLine (ending ++ u) := by
    rcases here with rfl | rfl <;> exact .inr (.inl ⟨_, rfl⟩)
  rcases ends with rfl | ⟨rest, rfl⟩ | ⟨rest, rfl⟩
  · cases relaid with
    | last here =>
      rcases here with rfl | rfl
      · exact .inl rfl
      · exact .inr (.inl ⟨_, rfl⟩)
  · cases relaid with
    | keep other _ => exact absurd rfl other
    | feed here _ => exact indented here _
  · cases relaid with
    | returnFeed here _ => exact indented here _
    | keep _ relaid =>
      cases relaid with
      | keep other _ => exact absurd rfl other
      | feed here _ => rcases here with rfl | rfl <;> exact .inr (.inr ⟨_, rfl⟩)

/-- A lone carriage return stays alone, unless it stands at the end or before a carriage return and a line
feed. -/
theorem returnsAlone_of_relaid {text u : List Char} (alone : ReturnsAlone text) (noLast : ¬ ['\r'] <:+ text)
    (noBoth : ¬ ['\r', '\r', '\n'] <:+: text) (relaid : Relaid IsIndented IsLineEndOrNothing text u) :
    ReturnsAlone u := by
  obtain ⟨content, rest, rfl, inLine, other⟩ := alone
  have inLine' : ∀ c ∈ content, isLineEnd c = false := fun c member => by simpa using inLine c member
  obtain ⟨v, rfl, kept⟩ := relaid.line_inv inLine'
  obtain ⟨w, rfl, behind⟩ := kept.cons_inv (by decide) fun _ => other
  refine ⟨content, w, rfl, inLine, ?_⟩
  cases rest with
  | nil => exact absurd (List.suffix_append content ['\r']) noLast
  | cons d rest =>
    obtain ⟨x, rfl, _⟩ := behind.cons_inv (fun same => other (by rw [same]; rfl)) fun same feed => by
      subst same
      obtain ⟨rest, rfl⟩ := List.head?_eq_some_iff.mp feed
      exact noBoth ⟨content, rest, by simp⟩
    exact other

end Text

namespace Script

open Token

/-- The source of a step as it stands in the function of the step. -/
def functionText (source : String) : String :=
  String.join ((Text.lines source).map fun line => "    " ++ line ++ "\n")

theorem toList_functionText (source : String) :
    (functionText source).toList = Text.indent (Text.linesFrom [] source.toList) := by
  rw [functionText, Text.lines, String.toList_join, List.flatMap_map, List.flatMap_map]
  simp only [String.toList_append, String.toList_ofList]
  rfl

/-- The lines of a source mean the same in a function, unless a string goes over a line end, or a carriage
return that ended no line ends one behind a sign of division and a slash. -/
theorem meaning?_functionText {source : String} {pieces : List (Token × List Char)}
    (cuts : Cuts [] source.toList pieces)
    (strings : ∀ content piece, (.string content, piece) ∈ pieces → '\n' ∉ piece)
    (divisions : (∀ front piece back, pieces = front ++ (.operator .divide, piece) :: back →
        (spelling back).head? ≠ some '/') ∨
      ¬ ['\r'] <:+ source.toList ∧ ¬ ['\r', '\r', '\n'] <:+: source.toList) :
    meaning? (functionText source).toList = meaning? source.toList := by
  rw [toList_functionText]
  rcases Text.relaid_indent [] source.toList List.not_mem_nil with ⟨nothing, untouched⟩ | ⟨u, shifted, relaid⟩
  · have nothing : source.toList = [] := nothing
    rw [untouched, nothing]
  · rw [shifted, meaning?_layout (List.all_eq_true.mp rfl)]
    refine Relaid.meaning? Text.indented_endings cuts rfl (fun front token piece back split => ?_)
      (fun nonempty => absurd rfl nonempty) relaid
    refine ⟨fun content same => ?_, fun _ _ ends u relaid => Text.endsLine_of_relaid ends relaid,
      fun same more u next alone relaid => ?_⟩
    · exact strings content piece (by rw [split, same]; simp)
    · subst same
      rw [List.append_nil] at next
      rcases divisions with apart | ⟨noLast, noBoth⟩
      · exact absurd (by rw [next]; rfl) (apart front piece back split)
      · have behind : more <:+ source.toList :=
          ⟨spelling front ++ (piece ++ ['/']), by rw [cuts.text_eq, split, spelling_append, spelling_cons, next]; simp⟩
        exact Text.returnsAlone_of_relaid alone (fun last => noLast (last.trans behind))
          (fun both => noBoth (both.trans behind.isInfix)) relaid

theorem exists_stepText (step : Step) : ∃ behind, stepText step =
    "  " ++ step.name ++ " = (function () \x7b\n" ++ functionText step.source ++ "  \x7d)();\n" ++ behind := by
  refine ⟨"  _global.calculations['" ++ (step.name ++ ("'] = coerce(" ++ (step.name ++
    (", '" ++ (step.type.name ++ "');\n"))))), ?_⟩
  delta stepText functionText
  simp only [String.append_assoc]

theorem exists_text (script : Script) :
    ∃ front back, script.text = front ++ String.join (script.steps.map stepText) ++ back := ⟨_, _, rfl⟩

/-- The text of a script has the functions of its steps in their order. -/
theorem exists_text_around {script : Script} {earlier later : List Step} {step : Step}
    (split : script.steps = earlier ++ step :: later) :
    ∃ before after, script.text = before ++ String.join (earlier.map stepText) ++
      ("  " ++ step.name ++ " = (function () \x7b\n" ++ functionText step.source ++ "  \x7d)();\n") ++ after := by
  obtain ⟨front, back, whole⟩ := exists_text script
  obtain ⟨behind, here⟩ := exists_stepText step
  have steps : String.join (script.steps.map stepText) =
      String.join (earlier.map stepText) ++ (stepText step ++ String.join (later.map stepText)) := by
    rw [split, ← String.toList_inj]
    simp [String.toList_join]
  refine ⟨front, behind ++ (String.join (later.map stepText) ++ back), ?_⟩
  rw [whole, steps, here]
  simp only [String.append_assoc]

/-- The text of a script has a function for each step, and this has the body of the step, unless a string
goes over a line end, or a carriage return that ended no line ends one behind a sign of division and a
slash. -/
theorem functionText_compiles {definitions : List Definition} {reject : Bool} {script : Script}
    {earlier later : List Step} {step : Step} {pieces : List (Token × List Char)}
    (compiled : compile definitions reject = .ok script)
    (split : script.steps = earlier ++ step :: later) (cuts : Cuts [] step.source.toList pieces)
    (strings : ∀ content piece, (.string content, piece) ∈ pieces → '\n' ∉ piece)
    (divisions : (∀ front piece back, pieces = front ++ (.operator .divide, piece) :: back →
        (spelling back).head? ≠ some '/') ∨
      ¬ ['\r'] <:+ step.source.toList ∧ ¬ ['\r', '\r', '\n'] <:+: step.source.toList) :
    (∃ before after, script.text = before ++ String.join (earlier.map stepText) ++
      ("  " ++ step.name ++ " = (function () \x7b\n" ++ functionText step.source ++ "  \x7d)();\n") ++ after) ∧
    compileBody step.name (functionText step.source) = .ok step.body := by
  refine ⟨exists_text_around split, ?_⟩
  have member : step ∈ script.steps := by rw [split]; simp
  obtain ⟨d, _, here⟩ := definition_of_implements (compile_implements compiled) member
  have accepted : compileBody step.name step.source = .ok step.body := by
    rw [here.name, here.source]
    exact here.body
  obtain ⟨tokens, means, parsed⟩ := compileBody_eq_ok_iff.mp accepted
  exact compileBody_eq_ok_iff.mpr ⟨tokens, (meaning?_functionText cuts strings divisions).trans means, parsed⟩

theorem compile_single {d : Definition} {body : Body} (valid : isValidName d.name = true)
    (accepted : compileBody d.name d.operation = .ok body) :
    compile [d] false = .ok ⟨[d.name], [⟨d.name, d.type, body, d.operation⟩]⟩ :=
  compile_eq_ok_iff.mpr ⟨.cons ⟨rfl, rfl, rfl, valid, accepted⟩ .nil, nofun, rfl⟩

theorem functionText_compiles_comment : ∃ script step,
    compile [⟨"x", "return a // b\r\n/ c;", .string⟩] false = .ok script ∧ script.steps = [step] ∧
      compileBody step.name (functionText step.source) = .ok step.body := by
  obtain ⟨body, accepted, _⟩ : ∃ body, compileBody "x" "return a // b\r\n/ c;" = .ok body ∧ True :=
    exists_ok_and (by decide +kernel) fun _ _ => trivial
  have cuts : Cuts [] "return a // b\r\n/ c;".toList
      [(.keyword .returnK, "return".toList), (.whitespace " ", " ".toList), (.identifier "a", "a".toList),
        (.whitespace " ", " ".toList), (.lineComment "b", "// b".toList), (.newline, "\r\n".toList),
        (.operator .divide, "/".toList), (.whitespace " ", " ".toList), (.identifier "c", "c".toList),
        (.delimiter .semicolon, ";".toList)] :=
    @Cuts.token _ _ "return".toList " a // b\r\n/ c;".toList _ rfl <|
    @Cuts.token _ _ " ".toList "a // b\r\n/ c;".toList _ rfl <|
    @Cuts.token _ _ "a".toList " // b\r\n/ c;".toList _ rfl <|
    @Cuts.token _ _ " ".toList "// b\r\n/ c;".toList _ rfl <|
    @Cuts.token _ _ "// b".toList "\r\n/ c;".toList _ rfl <|
    @Cuts.token _ _ "\r\n".toList "/ c;".toList _ rfl <|
    @Cuts.token _ _ "/".toList " c;".toList _ rfl <|
    @Cuts.token _ _ " ".toList "c;".toList _ rfl <|
    @Cuts.token _ _ "c".toList ";".toList _ rfl <|
    @Cuts.token _ _ ";".toList [] _ rfl .done
  have compiled := compile_single (d := ⟨"x", "return a // b\r\n/ c;", .string⟩) (by decide) accepted
  have noReturn : ¬ ['\r'] <:+ "return a // b\r\n/ c;".toList ∧
      ¬ ['\r', '\r', '\n'] <:+: "return a // b\r\n/ c;".toList := by
    decide +kernel
  obtain ⟨_, same⟩ := @functionText_compiles _ _ _ [] [] _ _ compiled rfl cuts (by simp) (.inr noReturn)
  exact ⟨_, _, compiled, rfl, same⟩

/-- The string that a calculation of one statement returns. -/
def returnedString? : Body → Option String
  | [.return (some (.literal (.string s)))] => some s
  | _ => none

theorem eq_of_returnedString? {body : Body} {s : String} (returned : returnedString? body = some s) :
    body = [.return (some (.literal (.string s)))] := by
  unfold returnedString? at returned
  split at returned
  · cases returned
    rfl
  · cases returned

/-- The blanks before a line stand in a string that goes on over the line end. -/
theorem functionText_changes : ∃ script step,
    compile [⟨"x", "return 'a\\\nb';", .string⟩] false = .ok script ∧ script.steps = [step] ∧
      step.body = [.return (some (.literal (.string "ab")))] ∧
      compileBody step.name (functionText step.source) = .ok [.return (some (.literal (.string "a    b")))] := by
  have returned (source content : String)
      (compiles : (compileBody "x" source).toOption.map returnedString? = some (some content)) :
      compileBody "x" source = .ok [.return (some (.literal (.string content)))] := by
    obtain ⟨body, accepted, same⟩ := exists_ok_of_map compiles
    rw [accepted, eq_of_returnedString? same]
  have accepted := returned "return 'a\\\nb';" "ab" (by decide +kernel)
  have changed := returned (functionText "return 'a\\\nb';") "a    b" (by decide +kernel)
  have compiled := compile_single (d := ⟨"x", "return 'a\\\nb';", .string⟩) (by decide) accepted
  exact ⟨_, _, compiled, rfl, rfl, changed⟩

end Script

end Reckoner
