import Reckoner.Proofs.Written

namespace Reckoner

/-- Statements that end in a condition without `else`. -/
inductive Stmt.EndsOpen : Stmt → Prop
  | noElse (condition yes) : EndsOpen (.ifElse condition yes none)
  | onElse {no} (condition yes) : EndsOpen no → EndsOpen (.ifElse condition yes (some no))

inductive Expr.IsPath : Expr → Prop
  | name (id) : IsPath (.name id)
  | member {path} (property) : IsPath path → IsPath (.member path property)

/-- Expressions in which what `new` applies to are paths of names. -/
inductive Expr.Printable : Expr → Prop
  | literal (value) : Printable (.literal value)
  | name (id) : Printable (.name id)
  | this : Printable .this
  | array {items} : (∀ e ∈ items, Printable e) → Printable (.array items)
  | object {fields : List (String × Expr)} : (∀ field ∈ fields, Printable field.2) → Printable (.object fields)
  | member {object} (property) : Printable object → Printable (.member object property)
  | index {object key} : Printable object → Printable key → Printable (.index object key)
  | call {callee args} : Printable callee → (∀ e ∈ args, Printable e) → Printable (.call callee args)
  | construct {callee args} : IsPath callee → (∀ e ∈ args, Printable e) → Printable (.construct callee args)
  | unary {operand} (op) : Printable operand → Printable (.unary op operand)
  | binary {left right} (op) : Printable left → Printable right → Printable (.binary op left right)
  | conditional {condition yes no} : Printable condition → Printable yes → Printable no →
      Printable (.conditional condition yes no)
  | assign {value} (target op) : Printable value → Printable (.assign target op value)

/-- Statements in which declarations are not empty and no branch before an `else` ends in a condition
without one. -/
inductive Stmt.Printable : Stmt → Prop
  | declare {declarators : List Declarator} (kind) : declarators ≠ [] →
      (∀ d ∈ declarators, ∀ e ∈ d.value, e.Printable) → Printable (.declare kind declarators)
  | expression {e} : e.Printable → Printable (.expression e)
  | return {value : Option Expr} : (∀ e ∈ value, e.Printable) → Printable (.return value)
  | ifElse {condition yes} {no : Option Stmt} : condition.Printable → Printable yes → (∀ s ∈ no, Printable s) →
      (no ≠ none → ¬ yes.EndsOpen) → Printable (.ifElse condition yes no)
  | block {body} : (∀ s ∈ body, Printable s) → Printable (.block body)
  | throw {e} : e.Printable → Printable (.throw e)
  | empty : Printable .empty

variable {t : List Token}

theorem Expr.IsPath.exists_written {path : Expr} (isPath : path.IsPath) : ∃ t, PathWritten path t := by
  induction isPath with
  | name id => exact ⟨_, .name id⟩
  | member property _ ih =>
    obtain ⟨t, written⟩ := ih
    exact ⟨_, .member written (.intro (.identifier property))⟩

/-- Parentheses make a writing for every place. -/
theorem exists_written_of_bare {full : Bool} {e : Expr} (bare : Bare full e t) (limit : Nat) :
    ∃ t, Written full limit e t := ⟨_, .parenthesized (.bare (Nat.zero_le _) bare)⟩

theorem Expr.Printable.exists_written {e : Expr} (printable : e.Printable) (limit : Nat) :
    ∃ t, Written true limit e t := by
  induction printable generalizing limit with
  | literal value => exact exists_written_of_bare (.literal value) limit
  | name id => exact exists_written_of_bare (.name id) limit
  | this => exact exists_written_of_bare .this limit
  | array _ ih =>
    obtain ⟨_, items⟩ := exists_separated (.delimiter .comma) fun e member => ih e member 0
    exact exists_written_of_bare (.array items) limit
  | @object fields _ ih =>
    have each (field) (member : field ∈ fields) : ∃ t, FieldWritten true field t := by
      obtain ⟨_, written⟩ := ih field member 0
      exact ⟨_, .pair (.string field.1) written⟩
    obtain ⟨_, written⟩ := exists_separated (.delimiter .comma) each
    exact exists_written_of_bare (.object written) limit
  | member property _ ih =>
    obtain ⟨_, object⟩ := ih 11
    exact exists_written_of_bare (.member object (.intro (.identifier property))) limit
  | index _ _ ih ihKey =>
    obtain ⟨_, object⟩ := ih 11
    obtain ⟨_, key⟩ := ihKey 0
    exact exists_written_of_bare (.index object key) limit
  | call _ _ ih ihArgs =>
    obtain ⟨_, callee⟩ := ih 11
    obtain ⟨_, args⟩ := exists_separated (.delimiter .comma) fun e member => ihArgs e member 0
    exact exists_written_of_bare (.call callee args) limit
  | construct isPath _ ih =>
    obtain ⟨_, path⟩ := isPath.exists_written
    obtain ⟨_, args⟩ := exists_separated (.delimiter .comma) fun e member => ih e member 0
    exact exists_written_of_bare (.construct path args) limit
  | unary op _ ih =>
    obtain ⟨_, operand⟩ := ih 10
    exact exists_written_of_bare (.unary op operand) limit
  | binary op _ _ ihLeft ihRight =>
    obtain ⟨_, left⟩ := ihLeft op.leftLevel
    obtain ⟨_, right⟩ := ihRight op.rightLevel
    exact exists_written_of_bare (.binary op left right) limit
  | conditional _ _ _ ihCondition ihYes ihNo =>
    obtain ⟨_, condition⟩ := ihCondition 2
    obtain ⟨_, yes⟩ := ihYes 0
    obtain ⟨_, no⟩ := ihNo 0
    exact exists_written_of_bare (.conditional condition yes no) limit
  | assign target op _ ih =>
    obtain ⟨_, value⟩ := ih 0
    exact exists_written_of_bare (.assign target op value) limit

theorem exists_declaratorWritten {d : Declarator} (printable : ∀ e ∈ d.value, e.Printable) :
    ∃ t, DeclaratorWritten true d t := by
  obtain ⟨name, value⟩ := d
  cases value with
  | none => exact ⟨_, .plain name⟩
  | some e =>
    obtain ⟨_, written⟩ := (printable e rfl).exists_written 0
    exact ⟨_, .valued name written⟩

theorem Stmt.Printable.exists_written {s : Stmt} (printable : s.Printable) : ∃ t, StmtWritten true s t := by
  induction printable with
  | @declare declarators kind nonempty each =>
    cases declarators with
    | nil => exact absurd rfl nonempty
    | cons first others =>
      obtain ⟨_, first⟩ := exists_declaratorWritten (each first List.mem_cons_self)
      have behind (d) (member : d ∈ others) : ∃ t, Behind (.delimiter .comma) (DeclaratorWritten true) d t := by
        obtain ⟨_, written⟩ := exists_declaratorWritten (each d (List.mem_cons_of_mem _ member))
        exact ⟨_, .intro written⟩
      obtain ⟨_, others⟩ := exists_repeated behind
      exact ⟨_, .declare kind first others .semicolon⟩
  | expression printable =>
    obtain ⟨_, written⟩ := printable.exists_written 0
    exact ⟨_, .expression (.parenthesized written) (fun _ => by simp [enclosed]) .semicolon⟩
  | @«return» value each =>
    cases value with
    | none => exact ⟨_, .returnNothing .semicolon⟩
    | some e =>
      obtain ⟨_, written⟩ := (each e rfl).exists_written 0
      exact ⟨_, .returnValue written .semicolon⟩
  | @ifElse _ _ no printable _ _ _ ihYes ihNo =>
    obtain ⟨_, condition⟩ := printable.exists_written 0
    obtain ⟨_, yes⟩ := ihYes
    cases no with
    | none => exact ⟨_, .ifOnly condition yes⟩
    | some no =>
      obtain ⟨_, no⟩ := ihNo no rfl
      exact ⟨_, .ifElse condition yes no⟩
  | block _ ih =>
    obtain ⟨_, written⟩ := exists_repeated ih
    exact ⟨_, .block written⟩
  | throw printable =>
    obtain ⟨_, written⟩ := printable.exists_written 0
    exact ⟨_, .throw written .semicolon⟩
  | empty => exact ⟨_, .empty⟩

end Reckoner
