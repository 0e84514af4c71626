import Reckoner.Proofs.ParserReading
import Reckoner.Proofs.WrittenTokens

namespace Reckoner.Grammar

open Reckoner.Parser

variable {rest : List Token}

/-- A parser for one token takes that token wherever it stands, and looks at nothing behind it. The lemmas come in
pairs, so that alternatives can be passed over: what is read if the token stands there, and that the parser fails if it
does not. -/
theorem keyword_reads (word : Keyword) (rest : List Token) : Reads (keyword word) [.keyword word] rest () :=
  (equal_reads _ rest).unit

theorem keyword_refuses {word : Keyword} (other : rest.head? ≠ some (.keyword word)) :
    Refuses (keyword word) rest := (equal_refuses other).unit

theorem operator_reads (op : Operator) (rest : List Token) : Reads (operator op) [.operator op] rest () :=
  (equal_reads _ rest).unit

theorem operator_refuses {op : Operator} (other : rest.head? ≠ some (.operator op)) :
    Refuses (operator op) rest := (equal_refuses other).unit

theorem delimiter_reads (d : Delimiter) (rest : List Token) : Reads (delimiter d) [.delimiter d] rest () :=
  (equal_reads _ rest).unit

theorem delimiter_refuses {d : Delimiter} (other : rest.head? ≠ some (.delimiter d)) :
    Refuses (delimiter d) rest := (equal_refuses other).unit

/-- The commas of lists report their failures under a name of their own, which changes neither what is taken nor where
the parser fails. -/
theorem comma_reads (rest : List Token) : Reads comma [.delimiter .comma] rest () :=
  (delimiter_reads .comma rest).context _

theorem comma_refuses (other : rest.head? ≠ some (.delimiter .comma)) : Refuses comma rest :=
  (delimiter_refuses other).context _

theorem identifier_reads (name : String) (rest : List Token) :
    Reads identifier [.identifier name] rest name := .context (satisfy_reads (by rfl) rest) _

/-- The words of the language are tokens of their own, so that none of them is taken for an identifier. -/
theorem identifier_refuses (other : ∀ name, rest.head? ≠ some (.identifier name)) : Refuses identifier rest := by
  refine (satisfy_refuses fun token head => ?_).context _
  cases token with
  | identifier name => exact absurd head (other name)
  | _ => rfl

/-- Behind a point every word is a name, those of the language as well. -/
theorem propertyName_reads {property : String} {token : Token} (name : NameToken property token)
    (rest : List Token) : Reads propertyName [token] rest property := by
  cases name with
  | identifier _ => exact .context (satisfy_reads (by rfl) rest) _
  | keyword word => exact .context (satisfy_reads (by rfl) rest) _

theorem propertyName_refuses {token : Token} (other : ∀ name, ¬ NameToken name token) (rest : List Token) :
    Refuses propertyName (token :: rest) := by
  refine (satisfy_refuses fun found head => ?_).context _
  obtain rfl := Option.some.inj head
  cases token with
  | identifier name => exact absurd (.identifier name) (other name)
  | keyword word => exact absurd (.keyword word) (other word.word)
  | _ => rfl

/-- Every literal has one token. Those of truth values, of `null` and of `undefined` are words of the language. -/
theorem literal_reads (value : Literal) (rest : List Token) : Reads literal [value.token] rest value := by
  cases value with
  | bool b => cases b <;> exact .context (satisfy_reads (by rfl) rest) _
  | _ => exact .context (satisfy_reads (by rfl) rest) _

/-- It is enough that the first token is none of the tokens of literals; there need not be a token at all. -/
theorem literal_refuses (other : ∀ value : Literal, rest.head? ≠ some value.token) : Refuses literal rest := by
  refine (satisfy_refuses fun token head => ?_).context _
  cases token with
  | number x => exact absurd head (other (.number x))
  | string s => exact absurd head (other (.string s))
  | keyword word =>
    cases word with
    | trueK => exact absurd head (other (.bool true))
    | falseK => exact absurd head (other (.bool false))
    | nullK => exact absurd head (other .null)
    | undefinedK => exact absurd head (other .undefined)
    | _ => rfl
  | _ => rfl

theorem assignOp_reads (op : AssignOp) (rest : List Token) : Reads assignOp [op.token] rest op := by
  cases op <;> exact .context (satisfy_reads (by rfl) rest) _

/-- Only operators of assignment have the loosest level. So whatever ends an expression above it ends a target, too. -/
theorem assignOp_refuses (other : ∀ token ∈ rest.head?, token.binding? ≠ some 0) : Refuses assignOp rest := by
  refine (satisfy_refuses fun token head => ?_).context _
  split
  all_goals first | rfl | exact absurd rfl (other _ head)

/-- A sign that also stands between operands is a unary operator here, since the parser is only asked in front of an
operand. -/
theorem unaryOp_reads (op : UnaryOp) (rest : List Token) : Reads unaryOp [op.token] rest op := by
  cases op <;> exact satisfy_reads (by rfl) rest

theorem unaryOp_refuses (other : ∀ op : UnaryOp, rest.head? ≠ some op.token) : Refuses unaryOp rest := by
  refine satisfy_refuses fun token head => ?_
  split
  · exact absurd head (other .not)
  · exact absurd head (other .negate)
  · exact absurd head (other .plus)
  · exact absurd head (other .typeof)
  · rfl

/-- A table holds the operators of a level. -/
structure TableOf (level : Nat) (table : List (Operator × BinaryOp)) : Prop where
  finds : ∀ op : BinaryOp, op.level = level → table.lookup op.operator = some op
  sound : ∀ entry ∈ table, entry.1 = entry.2.operator ∧ entry.2.level = level

/-- The tables of the seven levels between powers and conditionals. Each of them holds all operators of its level and no
others, which is checked by going through all operators. -/
theorem multiplicativeTable : TableOf 8 [(.times, .multiply), (.divide, .divide), (.modulo, .modulo)] :=
  ⟨fun op => by cases op <;> decide, by decide⟩

theorem additiveTable : TableOf 7 [(.plus, .add), (.minus, .subtract)] :=
  ⟨fun op => by cases op <;> decide, by decide⟩

theorem comparisonTable : TableOf 6 [(.less, .less), (.greater, .greater), (.lessEqual, .lessEqual),
    (.greaterEqual, .greaterEqual)] :=
  ⟨fun op => by cases op <;> decide, by decide⟩

theorem equalityTable : TableOf 5 [(.looseEqual, .looseEqual), (.looseNotEqual, .looseNotEqual),
    (.strictEqual, .strictEqual), (.strictNotEqual, .strictNotEqual)] :=
  ⟨fun op => by cases op <;> decide, by decide⟩

theorem andTable : TableOf 4 [(.and, .and)] :=
  ⟨fun op => by cases op <;> decide, by decide⟩

theorem orTable : TableOf 3 [(.or, .or)] :=
  ⟨fun op => by cases op <;> decide, by decide⟩

theorem nullishTable : TableOf 2 [(.nullish, .nullish)] :=
  ⟨fun op => by cases op <;> decide, by decide⟩

/-- An operator that is found in the table of a level is one of this level, and it is found by its own sign. -/
theorem TableOf.of_lookup {level : Nat} {table : List (Operator × BinaryOp)} (tableOf : TableOf level table)
    {sign : Operator} {op : BinaryOp} (found : table.lookup sign = some op) :
    sign = op.operator ∧ op.level = level := by
  obtain ⟨before, behind, rfl, _⟩ := List.lookup_eq_some_iff.mp found
  exact tableOf.sound (sign, op) (List.mem_append_right before List.mem_cons_self)

/-- An operator is taken with the table of its own level, whatever stands behind it. That an operand has to follow is a
matter of the loop around. -/
theorem binaryOp_reads {level : Nat} {table : List (Operator × BinaryOp)} (tableOf : TableOf level table)
    {op : BinaryOp} (same : op.level = level) (rest : List Token) :
    Reads (binaryOp table) [.operator op.operator] rest op := by
  refine satisfy_reads ?_ rest
  exact tableOf.finds op same

/-- What ends a level begins with none of its operators. An operator of a looser level is left to the loops around this
one. -/
theorem binaryOp_refuses {level : Nat} {table : List (Operator × BinaryOp)} (tableOf : TableOf level table)
    (ends : Ends level rest) : Refuses (binaryOp table) rest := by
  refine satisfy_refuses fun token head => ?_
  cases token with
  | operator sign =>
    cases found : table.lookup sign with
    | none => exact found
    | some op =>
      obtain ⟨rfl, same⟩ := tableOf.of_lookup found
      exact absurd head (ends.head_ne op.binding?_operator (Nat.le_of_eq same.symm))
  | _ => rfl

end Reckoner.Grammar
