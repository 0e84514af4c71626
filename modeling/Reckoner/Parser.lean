namespace Reckoner

/-- Why a parser fails. -/
inductive ParseFault where
  | endOfInput (reason : String)
  | unexpected (found expected : String)
  | noAlternative
  | custom (reason : String)
  /-- A repetition goes round without taking anything and would never end. -/
  | endless
deriving DecidableEq, Repr

/-- Where and why a parser fails, and what it was parsing. -/
structure ParseError where
  fault : ParseFault
  position : Nat
  context : Option String
deriving DecidableEq, Repr

namespace ParseError

def message (e : ParseError) : String :=
  match e.fault with
  | .endOfInput reason => "Unexpected end of input: " ++ reason
  | .unexpected found expected => "Unexpected token `" ++ found ++ "`, expected " ++ expected
  | .noAlternative => "Unexpected token, no alternative matched" ++
    match e.context with
    | some context => " while parsing " ++ context
    | none => ""
  | .custom reason => reason
  | .endless => "Repetition without progress"

/-- Names what was being parsed, unless an inner parser has done so. -/
def within (context : String) (e : ParseError) : ParseError :=
  { e with context := e.context.or (some context) }

end ParseError

/-- A parser reads an input from a position on. It gives the position behind what it takes. -/
abbrev Parser (τ α : Type) := Array τ → Nat → Except ParseError (Nat × α)

namespace Parser

variable {τ α β γ δ : Type}

/-- Takes the next item if it is the given one. -/
def equal [DecidableEq τ] [ToString τ] (wanted : τ) : Parser τ τ := fun input pos =>
  match input[pos]? with
  | some found =>
    if found = wanted then .ok (pos + 1, found)
    else .error ⟨.unexpected (toString found) ("`" ++ toString wanted ++ "`"), pos, none⟩
  | none => .error ⟨.endOfInput ("expected `" ++ toString wanted ++ "`"), pos, none⟩

/-- Takes the next item if something is made of it. -/
def satisfy [ToString τ] (f : τ → Option α) : Parser τ α := fun input pos =>
  match input[pos]? with
  | some found =>
    match f found with
    | some a => .ok (pos + 1, a)
    | none => .error ⟨.unexpected (toString found) "a different token", pos, none⟩
  | none => .error ⟨.endOfInput "expected more input", pos, none⟩

/-- Fails where it stands. -/
def fail (fault : ParseFault) : Parser τ α := fun _ pos => .error ⟨fault, pos, none⟩

/-- The error that lies further on, the first one of two at the same position. -/
def further (first : Option ParseError) (second : ParseError) : ParseError :=
  match first with
  | some e => if e.position < second.position then second else e
  | none => second

/-- The first success among alternatives, or else the furthest of their errors. -/
def choiceFrom (input : Array τ) (pos : Nat) (furthest : Option ParseError) :
    List (Parser τ α) → Except ParseError (Nat × α)
  | [] =>
    match furthest with
    | some e => if pos < e.position then .error e else .error ⟨.noAlternative, pos, none⟩
    | none => .error ⟨.noAlternative, pos, none⟩
  | p :: rest =>
    match p input pos with
    | .ok result => .ok result
    | .error e => choiceFrom input pos (some (further furthest e)) rest

/-- Takes the first alternative that succeeds. If none does, the furthest error tells why, the first
one of several; but if none got beyond the start, only that no alternative matched. -/
def choice (alternatives : List (Parser τ α)) : Parser τ α := fun input pos =>
  choiceFrom input pos none alternatives

/-- Changes the result. -/
def map (f : α → β) (p : Parser τ α) : Parser τ β := fun input pos =>
  match p input pos with
  | .ok (pos, a) => .ok (pos, f a)
  | .error e => .error e

/-- Drops the result. -/
def unit (p : Parser τ α) : Parser τ Unit := p.map fun _ => ()

/-- One parser after the other. -/
def pair (p : Parser τ α) (q : Parser τ β) : Parser τ (α × β) := fun input pos =>
  match p input pos with
  | .ok (pos, a) => q.map (a, ·) input pos
  | .error e => .error e

/-- Three parsers in turn. -/
def triple (p : Parser τ α) (q : Parser τ β) (r : Parser τ γ) : Parser τ (α × β × γ) :=
  pair p (pair q r)

/-- Four parsers in turn. -/
def quadruple (p : Parser τ α) (q : Parser τ β) (r : Parser τ γ) (s : Parser τ δ) :
    Parser τ (α × β × γ × δ) :=
  pair p (triple q r s)

/-- One parser after another whose result is dropped. -/
def preceded (p : Parser τ Unit) (q : Parser τ α) : Parser τ α := (pair p q).map (·.2)

/-- One parser between two others whose results are dropped. -/
def delimited (left : Parser τ Unit) (p : Parser τ α) (right : Parser τ Unit) : Parser τ α :=
  (triple left p right).map (·.2.1)

/-- A parser or nothing: a failure takes nothing. -/
def optional (p : Parser τ α) : Parser τ (Option α) := fun input pos =>
  match p input pos with
  | .ok (pos, a) => .ok (pos, some a)
  | .error _ => .ok (pos, none)

/-- Names what is parsed, for error messages. -/
def context (name : String) (p : Parser τ α) : Parser τ α := fun input pos =>
  (p input pos).mapError (·.within name)

/-- A parser that is made when it is needed. -/
def delayed (p : Unit → Parser τ α) : Parser τ α := fun input pos => p () input pos

/-- Goes round with `p` until it fails or takes nothing; none if more than `rounds` are needed. -/
def manyLoop (p : Parser τ α) (input : Array τ) : Nat → Nat → Option (Nat × List α)
  | rounds, pos =>
    match p input pos with
    | .error _ => some (pos, [])
    | .ok (next, a) =>
      if next = pos then some (pos, [])
      else match rounds with
        | 0 => none
        | rounds + 1 => (manyLoop p input rounds next).map fun (last, rest) => (last, a :: rest)

/-- Repeats a parser until it fails or takes nothing. -/
def many (p : Parser τ α) : Parser τ (List α) := fun input pos =>
  match manyLoop p input (input.size - pos) pos with
  | some result => .ok result
  | none => .error ⟨.endless, pos, none⟩

/-- Goes round with a separator and an item until one fails; none if more than `rounds` are needed.
A separator without an item behind it is taken. -/
def separatedLoop (p : Parser τ α) (separator : Parser τ Unit) (input : Array τ) :
    Nat → Nat → Option (Nat × List α)
  | rounds, pos =>
    match separator input pos with
    | .error _ => some (pos, [])
    | .ok (pos, _) =>
      match p input pos with
      | .error _ => some (pos, [])
      | .ok (next, a) =>
        match rounds with
        | 0 => none
        | rounds + 1 =>
          (separatedLoop p separator input rounds next).map fun (last, rest) => (last, a :: rest)

/-- Items with separators between them and possibly one at the end. A run of rounds that takes
nothing would never end. -/
def separated (p : Parser τ α) (separator : Parser τ Unit) : Parser τ (List α) := fun input pos =>
  match p input pos with
  | .error _ => .ok (pos, [])
  | .ok (next, a) =>
    match separatedLoop p separator input (input.size - pos) next with
    | some (last, rest) => .ok (last, a :: rest)
    | none => .error ⟨.endless, pos, none⟩

end Parser

end Reckoner
