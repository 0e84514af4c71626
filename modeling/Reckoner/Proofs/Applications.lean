import Reckoner.Proofs.Simulation

namespace Reckoner

/-- The value that a call of a property applies. The other values have methods in place of it. -/
def Value.applied? (receiver : Value) (key : String) : Option Value :=
  match receiver with
  | .object _ | .library _ | .function _ => some (receiver.property key)
  | _ => none

theorem Value.callProperty_eq_ok {callee : Expr} {receiver v : Value} {key : String} {args : List Value}
    (called : receiver.callProperty callee key args = .ok v) :
    (∃ f, receiver.applied? key = some f ∧ f.callAs callee args = .ok v) ∨
      receiver.callMethod key args = some (.ok v) := by
  unfold callProperty at called
  split at called
  · exact .inl ⟨_, rfl, called⟩
  · exact .inl ⟨_, rfl, called⟩
  · exact .inl ⟨_, rfl, called⟩
  · cases made : receiver.callMethod key args with
    | none => rw [made] at called; cases called
    | some outcome => rw [made] at called; exact .inr (congrArg some called)

namespace Expr

/-- The evaluation of a call or of `new` gets as far as applying a value to arguments. -/
inductive Applies : Expr → Environment → Value → List Value → Prop
  | ofThis {property args env values after} : evalAll args env = (.ok values, after) →
      Applies (.call (.member .this property) args) env (env.thisProperty property) values
  | ofThisKey {key args env name mid values after} : key.eval env = (.ok name, mid) →
      evalAll args mid = (.ok values, after) →
      Applies (.call (.index .this key) args) env (mid.thisProperty name.text) values
  | ofMember {base property args env receiver mid values after f} : base.isThis = false →
      base.eval env = (.ok receiver, mid) → evalAll args mid = (.ok values, after) →
      receiver.applied? property = some f → Applies (.call (.member base property) args) env f values
  | ofIndex {base key args env receiver between name mid values after f} : base.isThis = false →
      base.eval env = (.ok receiver, between) → key.eval between = (.ok name, mid) →
      evalAll args mid = (.ok values, after) → receiver.applied? name.text = some f →
      Applies (.call (.index base key) args) env f values
  | ofCallee {callee args env f mid values after} : (∀ base property, callee ≠ .member base property) →
      (∀ base key, callee ≠ .index base key) → callee.eval env = (.ok f, mid) →
      evalAll args mid = (.ok values, after) → Applies (.call callee args) env f values
  | ofConstruct {callee args env f mid values after} : callee.eval env = (.ok f, mid) →
      evalAll args mid = (.ok values, after) → Applies (.construct callee args) env f values

variable {callee : Expr} {args : List Expr} {env after : Environment} {v : Value}

theorem construct_eq_ok (made : (Expr.construct callee args).eval env = (.ok v, after)) :
    ∃ f values, (Expr.construct callee args).Applies env f values ∧ f.constructAs callee values = .ok v := by
  rw [eval] at made
  obtain ⟨f, mid, evaluated, made⟩ := Eval.bind_eq_ok made
  obtain ⟨values, last, atArgs, made⟩ := Eval.bind_eq_ok made
  exact ⟨f, values, .ofConstruct evaluated atArgs, congrArg Prod.fst made⟩

/-- A call that succeeds has applied a value, or else it has carried out a method of the object that was
evaluated. -/
theorem call_eq_ok (called : (Expr.call callee args).eval env = (.ok v, after)) :
    (∃ f values, (Expr.call callee args).Applies env f values ∧ f.callAs callee values = .ok v) ∨
      ∃ (base : Expr) (receiver : Value) (mid : Environment) (key : String) (values : List Value),
        base.eval env = (.ok receiver, mid) ∧
        receiver.callMethod key values = some (.ok v) := by
  cases callee with
  | member base property =>
    rw [eval] at called
    split at called
    · rename_i isThis
      cases isThis_iff.mp isThis
      obtain ⟨f, mid, read, called⟩ := Eval.bind_eq_ok called
      cases read
      obtain ⟨values, last, atArgs, called⟩ := Eval.bind_eq_ok called
      exact .inl ⟨_, values, .ofThis atArgs, congrArg Prod.fst called⟩
    · rename_i notThis
      obtain ⟨receiver, mid, evaluated, called⟩ := Eval.bind_eq_ok called
      split at called
      · cases called
      · obtain ⟨values, last, atArgs, called⟩ := Eval.bind_eq_ok called
        rcases Value.callProperty_eq_ok (congrArg Prod.fst called) with ⟨f, found, made⟩ | made
        · exact .inl ⟨f, values, .ofMember (by simpa using notThis) evaluated atArgs found, made⟩
        · exact .inr ⟨base, receiver, mid, property, values, evaluated, made⟩
  | index base key =>
    rw [eval] at called
    split at called
    · rename_i isThis
      cases isThis_iff.mp isThis
      obtain ⟨name, mid, atKey, called⟩ := Eval.bind_eq_ok called
      obtain ⟨f, _, read, called⟩ := Eval.bind_eq_ok called
      cases read
      obtain ⟨values, last, atArgs, called⟩ := Eval.bind_eq_ok called
      exact .inl ⟨_, values, .ofThisKey atKey atArgs, congrArg Prod.fst called⟩
    · rename_i notThis
      obtain ⟨receiver, between, evaluated, called⟩ := Eval.bind_eq_ok called
      obtain ⟨name, mid, atKey, called⟩ := Eval.bind_eq_ok called
      split at called
      · cases called
      · obtain ⟨values, last, atArgs, called⟩ := Eval.bind_eq_ok called
        rcases Value.callProperty_eq_ok (congrArg Prod.fst called) with ⟨f, found, made⟩ | made
        · exact .inl ⟨f, values, .ofIndex (by simpa using notThis) evaluated atKey atArgs found, made⟩
        · exact .inr ⟨base, receiver, between, name.text, values, evaluated, made⟩
  | _ =>
    rw [eval] at called
    · obtain ⟨f, mid, evaluated, called⟩ := Eval.bind_eq_ok called
      obtain ⟨values, last, atArgs, called⟩ := Eval.bind_eq_ok called
      exact .inl ⟨f, values, .ofCallee (by simp) (by simp) evaluated atArgs, congrArg Prod.fst called⟩
    all_goals simp

end Expr

end Reckoner
