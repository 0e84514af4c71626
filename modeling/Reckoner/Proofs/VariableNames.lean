import Reckoner.Proofs.Meaning
import Reckoner.Proofs.Outcome
import Reckoner.Proofs.RadixDigits
import Reckoner.Proofs.ScopeChanges
import Reckoner.Proofs.StatementReading

namespace Reckoner

section Characters

variable {c : Char}

/-- Letters and the underscore lie above the digits, the dollar sign below. -/
theorem toNat_of_isNameStart (start : isNameStart c = true) :
    c.toNat = 36 ∨ 65 ≤ c.toNat ∧ c.toNat ≤ 122 := by
  rcases (Bool.or_eq_true ..).mp start with word | dollar
  · rcases (Bool.or_eq_true ..).mp word with letter | underscore
    · rcases (Bool.or_eq_true ..).mp letter with upper | lower
      · have bounds := Number.toNat_of_isUpper upper
        omega
      · have bounds := Number.toNat_of_isLower lower
        omega
    · cases eq_of_beq underscore
      decide
  · cases eq_of_beq dollar
    decide

theorem isAscii_of_isNameStart (start : isNameStart c = true) : Text.isAscii c = true := by
  have bounds := toNat_of_isNameStart start
  rw [Text.isAscii, decide_eq_true_eq]
  omega

/-- Names begin with the ASCII characters with which words begin. -/
theorem isNameStart_iff : isNameStart c = true ↔ Text.isAscii c = true ∧ Token.isWordStart c = true := by
  have same (ascii : Text.isAscii c = true) : Token.isWordStart c = isNameStart c := by
    rw [Token.isWordStart, Text.isAlphabetic, if_pos ascii, isNameStart]
  refine ⟨fun start => ?_, fun ⟨ascii, start⟩ => same ascii ▸ start⟩
  have ascii := isAscii_of_isNameStart start
  exact ⟨ascii, (same ascii).trans start⟩

/-- Names go on with the ASCII characters with which words go on. -/
theorem isNamePart_iff :
    (isNameStart c || c.isDigit) = true ↔ Text.isAscii c = true ∧ Token.isWordPart c = true := by
  have same (ascii : Text.isAscii c = true) : Token.isWordPart c = (isNameStart c || c.isDigit) := by
    rw [Token.isWordPart, Text.isAlphabetic, Text.isNumeral, if_pos ascii, if_pos ascii, isNameStart]
    ac_rfl
  refine ⟨fun part => ?_, fun ⟨ascii, part⟩ => same ascii ▸ part⟩
  have ascii : Text.isAscii c = true := by
    rcases (Bool.or_eq_true ..).mp part with start | digit
    · exact isAscii_of_isNameStart start
    · exact Number.isAscii_of_isDigit digit
  exact ⟨ascii, (same ascii).trans part⟩

end Characters

namespace Token

open Text Text.Reader

variable {text rest : List Char} {token : Token} {name : String}

theorem isDigit_eq_false_of_isWordStart {c : Char} (start : isWordStart c = true) : c.isDigit = false := by
  refine Bool.eq_false_iff.mpr fun digit => ?_
  have named := isNameStart_iff.mpr ⟨Number.isAscii_of_isDigit digit, start⟩
  have figure := Number.toNat_of_isDigit digit
  have letter := toNat_of_isNameStart named
  omega

/-- A number begins with a digit or a point. -/
theorem scanNumber_eq_none {c : Char} (noDigit : c.isDigit = false) (noPoint : c ≠ '.') (text : List Char) :
    scanNumber (c :: text) = none := by
  have wordStart : Number.readLiteral? (c :: text) = none := by
    simp [Number.readLiteral?, noDigit, noPoint]
  rw [scanNumber, wordStart, Option.map_none]

theorem scanWord_eq_some : scanWord text = some (token, rest) ↔ ∃ c more, text = c :: (more ++ rest) ∧
    isWordStart c = true ∧ (∀ d ∈ more, isWordPart d = true) ∧ (∀ d ∈ rest.head?, isWordPart d = false) ∧
      token = ofWord (String.ofList (c :: more)) := by
  rw [scanWord_eq]
  cases text with
  | nil =>
    constructor
    · intro read
      cases read
    · rintro ⟨_, _, spelled, _⟩
      cases spelled
  | cons c text =>
    rw [behind]
    constructor
    · intro read
      split at read
      · rename_i start
        obtain ⟨more, taken, rfl⟩ := map_eq_some.mp read
        obtain ⟨rfl, parts, stop⟩ := takeWhile_eq_some.mp taken
        exact ⟨c, more, rfl, start, parts, stop, rfl⟩
      · cases read
    · rintro ⟨c, more, spelled, start, parts, stop, rfl⟩
      cases spelled
      rw [if_pos start]
      exact map_eq_some.mpr ⟨more, takeWhile_eq_some.mpr ⟨rfl, parts, stop⟩, rfl⟩

/-- A whole word is one token, whatever other tokens could begin like it. -/
theorem scan_word {c : Char} {more : List Char} (start : isWordStart c = true)
    (parts : ∀ d ∈ more, isWordPart d = true) (stop : ∀ d ∈ rest.head?, isWordPart d = false) :
    scan (c :: (more ++ rest)) = some (ofWord (String.ofList (c :: more)), rest) := by
  have noComment : scanComment (c :: (more ++ rest)) = none := by
    refine scanComment_eq_none ?_ ?_
    all_goals
      intro _ same
      obtain ⟨rfl, _⟩ := List.cons.inj same
      exact absurd start (by decide)
  have noNumber : scanNumber (c :: (more ++ rest)) = none := by
    refine scanNumber_eq_none (isDigit_eq_false_of_isWordStart start) ?_ _
    rintro rfl
    exact absurd start (by decide)
  have word := scanWord_eq_some.mpr ⟨c, more, rfl, start, parts, stop, rfl⟩
  refine scan_eq_some_iff.mpr ⟨c :: more, rfl, .plain noComment ?_⟩
  exact or_eq_some.mpr (.inr ⟨noNumber, or_eq_some.mpr (.inl word)⟩)

theorem ofWord_eq_identifier_iff {word : String} :
    ofWord word = .identifier name ↔ word = name ∧ Keyword.ofWord? name = none := by
  unfold ofWord
  cases reserved : Keyword.ofWord? word with
  | some keyword =>
    refine ⟨nofun, ?_⟩
    rintro ⟨rfl, free⟩
    exact nomatch reserved.symm.trans free
  | none =>
    constructor
    · rintro ⟨⟩
      exact ⟨rfl, reserved⟩
    · rintro ⟨rfl, _⟩
      rfl

/-- An identifier is read just where a word stands that is no keyword. -/
theorem scan_eq_identifier_iff : scan text = some (.identifier name, rest) ↔
    scanWord text = some (.identifier name, rest) := by
  constructor
  · intro read
    obtain ⟨piece, rfl, spelled⟩ := scan_eq_some_iff.mp read
    cases spelled with
    | plain _ taken =>
      rcases or_eq_some.mp taken with number | ⟨_, taken⟩
      · obtain ⟨_, _, same⟩ := Option.map_eq_some_iff.mp number
        cases same
      rcases or_eq_some.mp taken with word | ⟨_, taken⟩
      · exact word
      rcases or_eq_some.mp taken with operator | ⟨_, delimiter⟩
      · obtain ⟨_, _, found⟩ := List.exists_of_findSome?_eq_some operator
        obtain ⟨_, _, same⟩ := Option.map_eq_some_iff.mp found
        cases same
      · unfold scanDelimiter at delimiter
        split at delimiter
        · obtain ⟨_, _, same⟩ := Option.map_eq_some_iff.mp delimiter
          cases same
        · cases delimiter
  · intro read
    obtain ⟨c, more, rfl, start, parts, stop, same⟩ := scanWord_eq_some.mp read
    rw [scan_word start parts stop, same]

/-- A text is cut into one token just if a token is read that takes all of it. -/
theorem scanAll_eq_single_iff {cursor : Cursor} {source : String} :
    (∃ t, (scanAll cursor source).1 = .ok [t] ∧ t.token = token) ↔ scan source.toList = some (token, []) := by
  constructor
  · rintro ⟨t, cut, rfl⟩
    obtain ⟨pieces, rest, cuts, ended⟩ := exists_cuts source.toList
    rw [scanAll, cuts.scanFrom_eq ended (Nat.le_refl _)] at cut
    dsimp only at cut
    split at cut
    · rename_i whole
      subst whole
      have placed := Except.ok.inj cut
      generalize source.toList = text at cuts
      cases cuts with
      | done => cases placed
      | token read later =>
        cases later with
        | done =>
          cases placed
          exact read
        | token _ _ => cases placed
    · cases cut
  · intro read
    obtain ⟨piece, spelled, _⟩ := scan_eq_some_iff.mp read
    rw [spelled] at read
    have cuts : Cuts [] source.toList [(token, piece)] := spelled ▸ .token read .done
    exact ⟨_, congrArg Prod.fst (cuts.scanFrom_eq rfl (Nat.le_refl _) cursor), rfl⟩

end Token

/-- The names that are accepted are the ASCII texts that are one identifier. -/
theorem isValidName_iff_scan {name : String} : isValidName name = true ↔
    (∀ c ∈ name.toList, Text.isAscii c = true) ∧ Token.scan name.toList = some (.identifier name, []) := by
  rw [Token.scan_eq_identifier_iff, Token.scanWord_eq_some, isValidName]
  cases spelled : name.toList with
  | nil => simp
  | cons c more =>
    have whole : String.ofList (c :: more) = name := spelled ▸ String.ofList_toList
    simp only [Bool.and_eq_true, List.all_eq_true, isNameStart_iff, isNamePart_iff, Option.isNone_iff_eq_none]
    constructor
    · rintro ⟨⟨⟨ascii, start⟩, parts⟩, free⟩
      refine ⟨List.forall_mem_cons.mpr ⟨ascii, fun d member => (parts d member).1⟩, c, more, by simp, start,
        fun d member => (parts d member).2, nofun, ?_⟩
      rw [whole]
      exact (Token.ofWord_eq_identifier_iff.mpr ⟨rfl, free⟩).symm
    · rintro ⟨ascii, d, rest, same, start, parts, -, read⟩
      rw [List.append_nil] at same
      cases same
      rw [whole] at read
      obtain ⟨first, others⟩ := List.forall_mem_cons.mp ascii
      exact ⟨⟨⟨first, start⟩, fun d member => ⟨others d member, parts d member⟩⟩,
        (Token.ofWord_eq_identifier_iff.mp read.symm).2⟩

/-- A name that is returned is one token between two others. -/
theorem meaning?_return {name : String} (valid : isValidName name = true) :
    Token.meaning? ("return " ++ name ++ ";").toList =
      some [.keyword .returnK, .identifier name, .delimiter .semicolon] := by
  obtain ⟨c, more, spelled, start, parts, _, named⟩ :=
    Token.scanWord_eq_some.mp (Token.scan_eq_identifier_iff.mp (isValidName_iff_scan.mp valid).2)
  rw [List.append_nil] at spelled
  have source : ("return " ++ name ++ ";").toList =
      'r' :: (['e', 't', 'u', 'r', 'n'] ++ ' ' :: c :: (more ++ [';'])) := by
    simp [String.toList_append, spelled]
  have keyword : Token.scan ('r' :: (['e', 't', 'u', 'r', 'n'] ++ ' ' :: c :: (more ++ [';']))) =
      some (.keyword .returnK, ' ' :: c :: (more ++ [';'])) :=
    Token.scan_word (by decide) (List.all_eq_true.mp (by decide)) (by rintro _ ⟨⟩; decide)
  have word : Token.scan (c :: (more ++ [';'])) = some (Token.ofWord (String.ofList (c :: more)), [';']) :=
    Token.scan_word start parts (by rintro _ ⟨⟩; decide)
  rw [← named] at word
  have mark : Token.meaning? [';'] = some [.delimiter .semicolon] := rfl
  rw [source, Token.meaning?_of_scan keyword, Token.meaning?_space rfl, Token.meaning?_of_scan word, mark]
  rfl

/-- The statements that return what a name holds. -/
def Body.reading (name : String) : Body := [.return (some (.name name))]

theorem compileBody_reading {name : String} (valid : isValidName name = true) (caller : String) :
    compileBody caller ("return " ++ name ++ ";") = .ok (.reading name) := by
  have statement : StmtWritten true (.return (some (.name name)))
      (.keyword .returnK :: ([.identifier name] ++ [.delimiter .semicolon])) :=
    .returnValue (.bare (Nat.zero_le _) (.name name)) .semicolon
  have printable : ∀ s ∈ Body.reading name, s.Printable :=
    List.forall_mem_singleton.mpr (.return (by rintro _ ⟨⟩; exact .name name))
  exact compileBody_eq_ok_iff.mpr
    ⟨_, meaning?_return valid, Grammar.body_reads (.cons statement .nil) printable rfl⟩

namespace Environment

variable {env : Environment} {name : String} {v : Value}

/-- A calculation finds no scope in front of the siblings but its own, which is empty at first. -/
theorem lookup?_enter (held : env.siblings.find? name = some v) : env.enter.lookup? name = some v := by
  have same : env.enter.siblings.find? name = some v := held
  rw [lookup?, same]
  rfl

/-- A name with a sibling has a value, be it that of a declaration which hides the sibling. -/
theorem exists_lookup (held : env.siblings.contains name = true) : ∃ v, env.lookup? name = some v := by
  obtain ⟨v, found⟩ := Option.isSome_iff_exists.mp held
  rw [lookup?, found]
  cases env.local? name with
  | none => exact ⟨v, rfl⟩
  | some binding => exact ⟨binding.value, rfl⟩

end Environment

theorem Body.run_reading {env : Environment} {name : String} {v : Value}
    (held : env.siblings.find? name = some v) : ((Body.reading name).run env).1 = .ok v := by
  have found := Environment.lookup?_enter held
  simp [Body.run, reading, Stmt.runAll, Stmt.run, Expr.eval, Eval.lookup, bind, pure, found, Except.map,
    Completion.result]

/-- Statements of a calculation leave the siblings' names as they are. -/
theorem runAll_siblings (front : List Stmt) (env : Environment) (name : String) :
    (Stmt.runAll (.value .undefined) front env.enter).2.siblings.contains name = env.siblings.contains name :=
  (Stmt.runAll_evolves front (.value .undefined) (List.cons_ne_nil [] [] : env.enter.scopes ≠ [])).siblings name

/-- A sibling is there at every step, whatever the steps before it do. -/
theorem Script.Reach.siblings_contains {steps : List Step} {initial env : Environment} {values : List Value}
    {name : String} (reach : Script.Reach steps initial values env) (held : initial.siblings.contains name = true) :
    env.siblings.contains name = true := by
  induction reach with
  | start => exact held
  | @next values env step v after _ _ run ih =>
    have kept : (step.body.run env).2.siblings.contains name = _ := runAll_siblings step.body env name
    rw [run] at kept
    change (after.siblings.insert step.name v).contains name = true
    rw [Dict.contains_insert, kept, ih, Bool.or_true]

open Calculator in
/-- The names of variables are the identifiers of the language: a text is accepted just if it is ASCII and
is cut into one token, the identifier of that text. A path spelled by it has it as its only key, and
calculations read what it holds. From the start of a run on every variable holds a value, behind a step
of its own the one that this step returned, and it can be read at every place of a later calculation. The
record shows every variable under its whole name. -/
theorem variableNames_identifiers :
    (∀ name : String, isValidName name = true ↔ (∀ c ∈ name.toList, Text.isAscii c = true) ∧
      ∃ t, (Token.scanAll .start name).1 = .ok [t] ∧ t.token = .identifier name) ∧
    (∀ name : String, isValidName name = true → Path.ofText name = [.key name] ∧
      ∀ caller, compileBody caller ("return " ++ name ++ ";") = .ok (.reading name)) ∧
    ∀ (configuration : Configuration) (settings : Settings) (c : Calculator),
      create configuration settings = .ok c → ∀ state : State,
      (∀ values env, Script.Reach c.script.steps (c.initial state) values env →
        ∀ name ∈ configuration.definitions.map Definition.name, isValidName name = true ∧
          (∃ v, env.siblings.find? name = some v ∧ ((Body.reading name).run env).1 = .ok v) ∧
          ∀ front : List Stmt,
            ∃ v, ((Expr.name name).eval (Stmt.runAll (.value .undefined) front env.enter).2).1 = .ok v) ∧
      (∀ values env step v after, Script.Reach c.script.steps (c.initial state) values env →
        c.script.steps[values.length]? = some step → step.body.run env = (.ok v, after) →
        ∃ next, Script.Reach c.script.steps (c.initial state) (values ++ [v]) next ∧
          ((Body.reading step.name).run next).1 = .ok v) ∧
      ∃ results : Dict Value, (c.evaluate state).calculations = .object results ∧ results.Sorted ∧
        results = (c.script.run (c.initial state)).results ∧
        ∀ name, results.contains name = true ↔ name ∈ configuration.definitions.map Definition.name := by
  refine ⟨fun name => ?_, fun name valid => ⟨ofText_of_isValidName valid, compileBody_reading valid⟩,
    fun configuration settings c created state => ⟨fun values env reach name declared => ?_, ?_, ?_⟩⟩
  · rw [isValidName_iff_scan, Token.scanAll_eq_single_iff]
  · have valid : isValidName name = true := by
      obtain ⟨d, member, rfl⟩ := List.mem_map.mp declared
      exact valid_of_implements (Script.compile_implements (create_ok created).1) d member
    have first : (c.initial state).siblings.contains name = true := by
      rw [Dict.contains, initial_siblings_find? created, if_pos declared]
      rfl
    have here := reach.siblings_contains first
    obtain ⟨v, held⟩ := Option.isSome_iff_exists.mp here
    refine ⟨valid, ⟨v, held, Body.run_reading held⟩, fun front => ?_⟩
    obtain ⟨w, found⟩ := Environment.exists_lookup ((runAll_siblings front env name).trans here)
    exact ⟨w, by rw [Expr.eval, Eval.lookup, found]⟩
  · intro values env step v after reach atStep run
    refine ⟨_, reach.next atStep run, Body.run_reading ?_⟩
    change (after.siblings.insert step.name v).find? step.name = some v
    rw [Dict.find?_insert, if_pos rfl]
  · obtain ⟨values, so⟩ := run_resultsAfter created state
    exact ⟨_, unflatten_results created so, so.sorted, rfl, so.names⟩

theorem variableNames_identifiers_dollar :
    (Path.ofText "_$9" = [.key "_$9"] ∧ compileBody "b" "return _$9;" = .ok (.reading "_$9")) ∧
    ∃ c, Calculator.create ⟨"c", [⟨"_$9", "return true;", .untyped⟩, ⟨"b", "return _$9;", .untyped⟩]⟩
        Settings.default = .ok c ∧
      (∃ step v next, c.script.steps[0]? = some step ∧ Script.Reach c.script.steps (c.initial []) [v] next ∧
        ((Body.reading step.name).run next).1 = .ok v ∧ ∃ w, ((Body.reading "b").run next).1 = .ok w) ∧
      ∃ results : Dict Value, (c.evaluate []).calculations = .object results ∧
        ∀ name, results.contains name = true ↔ name ∈ ["_$9", "b"] := by
  obtain ⟨_, accepted, running⟩ := variableNames_identifiers
  obtain ⟨plain, reading⟩ := accepted "_$9" (by decide)
  refine ⟨⟨plain, reading "b"⟩, exists_ok_and (by decide +kernel) fun c created => ?_⟩
  have checked : (Calculator.create ⟨"c", [⟨"_$9", "return true;", .untyped⟩, ⟨"b", "return _$9;", .untyped⟩]⟩
      Settings.default).toOption.all (fun c => c.script.steps.head?.any fun step =>
        (step.body.run (c.initial [])).1.isOk) = true := by decide +kernel
  rw [created, Except.toOption, Option.all_some, Option.any_eq_true] at checked
  obtain ⟨step, first, ends⟩ := checked
  have atStep : c.script.steps[0]? = some step := List.head?_eq_getElem?.symm.trans first
  obtain ⟨held, behind, results, shown, _, _, names⟩ := running _ _ c created []
  cases outcome : step.body.run (c.initial []) with
  | mk result after =>
    rw [outcome] at ends
    cases result with
    | error e => exact absurd ends Bool.false_ne_true
    | ok v =>
      obtain ⟨next, reach, read⟩ := behind [] _ step v after .start atStep outcome
      obtain ⟨_, ⟨w, _, other⟩, _⟩ := held [v] next reach "b" (by decide)
      exact ⟨⟨step, v, next, atStep, reach, read, w, other⟩, results, shown, names⟩

/-- Words of other scripts are identifiers as well, but no names of variables. -/
example : isValidName "é" = false ∧ Token.scan "é".toList = some (.identifier "é", []) := by decide +kernel

end Reckoner
