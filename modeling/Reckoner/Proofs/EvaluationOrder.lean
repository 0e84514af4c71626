import Reckoner.Proofs.EvaluationFrame
import Reckoner.Proofs.EvaluationPlan

namespace Reckoner

namespace Eval

variable {α β γ : Type}

theorem bind_assoc (x : Eval α) (f : α → Eval β) (g : β → Eval γ) :
    x >>= f >>= g = x >>= fun a => f a >>= g := by
  funext env
  cases run : x env with
  | mk result mid =>
    cases result with
    | ok a =>
      rw [bind_ok run]
      cases next : f a mid with
      | mk result after =>
        cases result with
        | ok b => rw [bind_ok next, bind_ok ((bind_ok run).trans next)]
        | error e => rw [bind_error next, bind_error ((bind_ok run).trans next)]
    | error e => rw [bind_error run, bind_error (bind_error run)]

theorem bind_return (x : Eval α) : (x >>= fun a => ofExcept (.ok a)) = x := by
  funext env
  cases run : x env with
  | mk result after =>
    cases result with
    | ok a => rw [bind_ok run]; rfl
    | error e => rw [bind_error run]

/-- From every environment the computation does what the plan says, and the parts that the plan has
evaluated are some of the given ones, in their order. -/
def Follows (x : Eval Value) (plan : Plan) (parts : List Expr) : Prop :=
  ∀ env, ∃ evaluated, evaluated.Sublist parts ∧ plan.Runs env evaluated (x env)

variable {parts more : List Expr}

theorem Follows.mono {x : Eval Value} {plan : Plan} (follows : x.Follows plan parts) (sub : parts.Sublist more) :
    x.Follows plan more := by
  intro env
  obtain ⟨evaluated, among, runs⟩ := follows env
  exact ⟨evaluated, among.trans sub, runs⟩

theorem follows_give (outcome : Except EvalError Value) (parts : List Expr) :
    (ofExcept outcome).Follows (.give outcome) parts :=
  fun _ => ⟨[], List.nil_sublist _, .give⟩

theorem follows_store (target : String) (value : Value) (parts : List Expr) :
    (assign target value >>= fun _ => pure value : Eval Value).Follows (.store target value) parts := by
  intro env
  refine ⟨[], List.nil_sublist _, ?_⟩
  cases run : assign target value env with
  | mk result after =>
    cases result with
    | ok => rw [bind_ok run]; exact .stored run
    | error e => rw [bind_error run]; exact .refused run

/-- A computation that only reads the environment. -/
theorem follows_read {x : Eval Value} {reading : Environment → Except EvalError Value} {f : Value → Eval Value}
    {next : Value → Plan} (reads : ∀ env, x env = (reading env, env))
    (goesOn : ∀ v, (f v).Follows (next v) parts) : (x >>= f).Follows (.read reading next) parts := by
  intro env
  cases outcome : reading env with
  | ok v =>
    obtain ⟨evaluated, among, runs⟩ := goesOn v env
    rw [bind_ok ((reads env).trans (by rw [outcome]))]
    exact ⟨evaluated, among, .found outcome runs⟩
  | error e =>
    rw [bind_error ((reads env).trans (by rw [outcome]))]
    exact ⟨[], List.nil_sublist _, .missing outcome⟩

theorem follows_evaluate (part : Expr) {f : Value → Eval Value} {next : Value → Plan}
    (goesOn : ∀ v, (f v).Follows (next v) parts) :
    (part.eval >>= f).Follows (.evaluate part next) (part :: parts) := by
  intro env
  cases outcome : part.eval env with
  | mk result mid =>
    cases result with
    | ok v =>
      obtain ⟨evaluated, among, runs⟩ := goesOn v mid
      rw [bind_ok outcome]
      exact ⟨part :: evaluated, among.cons_cons part, .goesOn outcome runs⟩
    | error e =>
      rw [bind_error outcome]
      exact ⟨[part], (List.nil_sublist parts).cons_cons part, .fails outcome⟩

theorem follows_all (items : List Expr) {f : List Value → Eval Value} {next : List Value → Plan}
    (goesOn : ∀ values, (f values).Follows (next values) parts) :
    (Expr.evalAll items >>= f).Follows (.all items next) (items ++ parts) := by
  induction items generalizing f next with
  | nil => rw [Expr.evalAll]; exact goesOn []
  | cons part rest ih =>
    rw [Expr.evalAll, bind_assoc]
    refine follows_evaluate part fun v => ?_
    rw [bind_assoc]
    exact ih fun values => goesOn (v :: values)

theorem evalFields_bind {β : Type} (fields : List (String × Expr)) (f : List (String × Value) → Eval β) :
    Expr.evalFields fields >>= f =
      Expr.evalAll (fields.map (·.2)) >>= fun values => f ((fields.map (·.1)).zip values) := by
  induction fields generalizing f with
  | nil => rw [Expr.evalFields, List.map_nil, Expr.evalAll]; rfl
  | cons field rest ih =>
    obtain ⟨key, e⟩ := field
    rw [Expr.evalFields, List.map_cons, Expr.evalAll, bind_assoc, bind_assoc]
    refine congrArg (e.eval >>= ·) (funext fun v => ?_)
    rw [bind_assoc, bind_assoc, ih]
    rfl

theorem follows_reading {x : Eval Value} {reading : Environment → Except EvalError Value}
    (reads : ∀ env, x env = (reading env, env)) (parts : List Expr) :
    x.Follows (.read reading fun v => .give (.ok v)) parts := by
  rw [← bind_return x]
  exact follows_read reads fun v => follows_give (.ok v) parts

theorem follows_part (part : Expr) : part.eval.Follows (.evaluate part fun v => .give (.ok v)) [part] := by
  rw [← bind_return part.eval]
  exact follows_evaluate part fun v => follows_give (.ok v) []

theorem lookup_reads (name : String) (env : Environment) : lookup name env = ((lookup name env).1, env) := by
  unfold lookup
  split <;> rfl

end Eval

open Eval

namespace Expr

theorem ne_this {e : Expr} (other : e.isThis = false) : e ≠ .this := by
  rintro rfl
  cases other

variable {parts : List Expr}

/-- The arguments of a call are evaluated behind its callee. -/
theorem follows_args (args : List Expr) (finish : List Value → Except EvalError Value) :
    (evalAll args >>= fun values => ofExcept (finish values)).Follows
      (.all args fun values => .give (finish values)) args := by
  have behind := follows_all args fun values => follows_give (finish values) []
  rwa [List.append_nil] at behind

theorem follows_callOn (receiver : Value) (callee : Expr) (key : String) (args : List Expr) :
    (if receiver.isNullish then Eval.fail (.cannotRead receiver key)
      else evalAll args >>= fun values => ofExcept (receiver.callProperty callee key values)).Follows
      (.callOn receiver callee key args) args := by
  unfold Plan.callOn
  split
  · exact follows_give (.error _) args
  · exact follows_args args _

theorem member_follows (base : Expr) (property : String) :
    (Expr.member base property).eval.Follows (Expr.member base property).plan [base] := by
  cases self : base.isThis with
  | true =>
    cases isThis_iff.mp self
    rw [eval, plan, if_pos self]
    exact follows_reading (fun _ => rfl) _
  | false =>
    rw [eval, plan, if_neg (by simp [self])]
    · exact follows_evaluate base fun receiver => follows_give (receiver.readProperty property) []
    · exact ne_this self

theorem call_follows (callee : Expr) (args : List Expr) :
    (Expr.call callee args).eval.Follows (Expr.call callee args).plan (Expr.call callee args).parts := by
  match callee with
  | .member base property =>
    rw [eval, plan, Expr.parts]
    cases base.isThis with
    | true =>
      refine Follows.mono (follows_read (fun _ => rfl) fun f => follows_args args _) (List.sublist_cons_self _ _)
    | false => exact follows_evaluate base fun receiver => follows_callOn receiver _ property args
  | .index base key =>
    rw [eval, plan, Expr.parts]
    cases base.isThis with
    | true =>
      refine Follows.mono (follows_evaluate key fun name => ?_) (List.sublist_cons_self base (key :: args))
      exact follows_read (fun _ => rfl) fun f => follows_args args _
    | false =>
      exact follows_evaluate base fun receiver => follows_evaluate key fun name =>
        follows_callOn receiver _ name.text args
  | .literal _ | .name _ | .this | .array _ | .object _ | .call _ _ | .construct _ _ | .unary _ _ | .binary _ _ _
  | .conditional _ _ _ | .assign _ _ _ =>
    rw [eval, plan, Expr.parts]
    · exact follows_evaluate _ fun f => follows_args args _
    all_goals simp

/-- A read of an object other than `this` with a computed key evaluates the key first. -/
def readsKeyFirst : Expr → Bool
  | .index _ (.literal _) => false
  | .index base _ => !base.isThis
  | _ => false

/-- A literal can be evaluated before the object or behind it. -/
theorem literal_bind {α : Type} (base : Expr) (l : Literal) (f : Value → Value → Eval α) :
    ((Expr.literal l).eval >>= fun name => base.eval >>= fun receiver => f receiver name) =
      base.eval >>= fun receiver => (Expr.literal l).eval >>= fun name => f receiver name := by
  rw [eval]
  rfl

theorem index_follows (base key : Expr) (regular : (Expr.index base key).readsKeyFirst = false) :
    (Expr.index base key).eval.Follows (Expr.index base key).plan [base, key] := by
  cases self : base.isThis with
  | true =>
    cases isThis_iff.mp self
    rw [eval, plan, if_pos self]
    refine Follows.mono (follows_evaluate key fun name => ?_) (List.sublist_cons_self _ [key])
    exact follows_reading (fun _ => rfl) _
  | false =>
    cases key with
    | literal l =>
      rw [eval, plan, if_neg (by simp [self]), literal_bind base l fun receiver name =>
        ofExcept (receiver.readProperty name.text)]
      · exact follows_evaluate base fun receiver => follows_evaluate _ fun name =>
          follows_give (receiver.readProperty name.text) []
      · exact ne_this self
    | _ => simp [readsKeyFirst, self] at regular

theorem unary_follows (op : UnaryOp) (operand : Expr) :
    (Expr.unary op operand).eval.Follows (Expr.unary op operand).plan [operand] := by
  by_cases ofName : op = .typeof ∧ ∃ id, operand = .name id
  · obtain ⟨rfl, id, rfl⟩ := ofName
    rw [eval, plan]
    exact follows_reading (fun _ => rfl) _
  · have other (id : String) (typeof : op = .typeof) (name : operand = .name id) : False :=
      ofName ⟨typeof, id, name⟩
    rw [eval, plan]
    · exact follows_evaluate operand fun v => follows_give (.ok (op.apply v)) []
    · exact other
    · exact other

theorem assign_follows (target : String) (op : AssignOp) (value : Expr) :
    (Expr.assign target op value).eval.Follows (Expr.assign target op value).plan [value] := by
  rw [eval, plan]
  cases op.operation? with
  | none => exact follows_evaluate value fun v => follows_store target v []
  | some operation =>
    refine follows_read (lookup_reads target) fun current => follows_evaluate value fun v => ?_
    cases operation.apply current v with
    | ok w => exact follows_store target w []
    | error e => exact follows_give (.error e) []

theorem conditional_follows (condition yes no : Expr) :
    (Expr.conditional condition yes no).eval.Follows (Expr.conditional condition yes no).plan
      [condition, yes, no] := by
  rw [eval, plan]
  refine follows_evaluate condition fun v => ?_
  cases v.isTruthy with
  | true => exact (follows_part yes).mono (.cons_cons yes (List.nil_sublist [no]))
  | false => exact (follows_part no).mono (List.sublist_cons_self yes [no])

theorem eval_follows (e : Expr) (regular : e.readsKeyFirst = false) : e.eval.Follows e.plan e.parts := by
  cases e with
  | literal l => rw [eval, plan]; exact follows_give (.ok l.value) []
  | name id => rw [eval, plan]; exact follows_reading (lookup_reads id) _
  | this => rw [eval, plan]; exact follows_reading (fun _ => rfl) _
  | array items =>
    rw [eval, plan]
    exact follows_args items fun values => .ok (.array values)
  | object fields =>
    rw [eval, plan, evalFields_bind]
    exact follows_args (fields.map (·.2)) fun values =>
      .ok (.object (Dict.ofList ((fields.map (·.1)).zip values)))
  | member base property => exact member_follows base property
  | index base key => exact index_follows base key regular
  | call callee args => exact call_follows callee args
  | construct callee args =>
    rw [eval, plan]
    exact follows_evaluate callee fun f => follows_args args _
  | unary op operand => exact unary_follows op operand
  | binary op left right =>
    rw [eval, plan]
    refine follows_evaluate left fun v => ?_
    split
    · exact follows_give (.ok v) _
    · refine follows_evaluate right fun w => ?_
      split
      · exact follows_give (.ok w) []
      · exact follows_give (op.apply v w) []
  | conditional condition yes no => exact conditional_follows condition yes no
  | assign target op value => exact assign_follows target op value

/-- The key of a read is evaluated first and the object in the environment that the key has left. -/
theorem keyed_follows {base key : Expr} (keyFirst : (Expr.index base key).readsKeyFirst = true) :
    (Expr.index base key).eval.Follows
      (.evaluate key fun name => .evaluate base fun receiver => .give (receiver.readProperty name.text))
      [key, base] := by
  have other : base ≠ .this := by
    rintro rfl
    cases key <;> cases keyFirst
  rw [eval]
  · exact follows_evaluate key fun name => follows_evaluate base fun receiver =>
      follows_give (receiver.readProperty name.text) []
  · exact other

theorem callee_fails (base key : Expr) (args : List Expr) {env after : Environment} {e : EvalError}
    (failed : base.eval env = (.error e, after)) :
    (Expr.call (.index base key) args).eval env = (.error e, after) := by
  rw [eval]
  cases self : base.isThis with
  | true =>
    cases isThis_iff.mp self
    rw [eval] at failed
    cases failed
  | false => exact bind_error failed

theorem callee_key_fails (base key : Expr) (args : List Expr) {env mid after : Environment} {receiver : Value}
    {e : EvalError} (evaluated : base.eval env = (.ok receiver, mid)) (failed : key.eval mid = (.error e, after)) :
    (Expr.call (.index base key) args).eval env = (.error e, after) := by
  rw [eval]
  cases self : base.isThis with
  | true =>
    cases isThis_iff.mp self
    rw [eval] at evaluated
    cases evaluated
    exact bind_error failed
  | false => exact (bind_ok evaluated).trans (bind_error failed)

/-- The parts of an expression are evaluated as they are written, each in the environment that the one before
it has left, and one that fails is the last. A call `o[k](…)` evaluates `o` before `k`. A read `o[k]` evaluates
`k` before `o`. -/
theorem eval_in_order (e : Expr) (env : Environment) :
    (e.readsKeyFirst = false → ∃ evaluated, evaluated.Sublist e.parts ∧ e.plan.Runs env evaluated (e.eval env) ∧
      Plan.InOrder (e.eval env) env evaluated ∧
      ∀ other outcome, e.plan.Runs env other outcome → other = evaluated ∧ outcome = e.eval env) ∧
    (∀ base key args, e = .call (.index base key) args →
      (∀ err after, base.eval env = (.error err, after) → e.eval env = (.error err, after)) ∧
      ∀ receiver mid err after, base.eval env = (.ok receiver, mid) → key.eval mid = (.error err, after) →
        e.eval env = (.error err, after)) ∧
    (e.readsKeyFirst = true → ∃ base key evaluated, e = .index base key ∧
      (Plan.evaluate key fun name => .evaluate base fun receiver => .give (receiver.readProperty name.text)).Runs
        env evaluated (e.eval env)) := by
  refine ⟨fun regular => ?_, ?_, fun keyFirst => ?_⟩
  · obtain ⟨evaluated, among, run⟩ := eval_follows e regular env
    exact ⟨evaluated, among, run, run.inOrder, fun _ _ again => run.unique again⟩
  · rintro base key args rfl
    exact ⟨fun _ _ => callee_fails base key args, fun _ _ _ _ => callee_key_fails base key args⟩
  · match e, keyFirst with
    | .index base key, keyFirst =>
      obtain ⟨evaluated, _, run⟩ := keyed_follows keyFirst env
      exact ⟨base, key, evaluated, rfl, run⟩

/-- The second item of `[a = true, a, b, a = null]` sees what the first one has assigned. The third one fails,
and the fourth one is left alone. -/
theorem eval_in_order_array :
    ∃ (env : Environment) (set seen missing unset : Expr),
      env = (Template.ofNames ["a"]).instantiate ["a"] [] true ∧
      set = .assign "a" .assign (.literal (.bool true)) ∧ unset = .assign "a" .assign (.literal .null) ∧
      (Expr.array [set, seen, missing, unset]).readsKeyFirst = false ∧
      Plan.InOrder ((Expr.array [set, seen, missing, unset]).eval env) env [set, seen, missing] ∧
      (Expr.array [set, seen, missing, unset]).eval env =
        (.error (.notDefined "b"), { env with siblings := [("a", .bool true)] }) := by
  obtain ⟨evaluated, _, _, inOrder, alone⟩ := (eval_in_order (.array [.assign "a" .assign (.literal (.bool true)),
    .name "a", .name "b", .assign "a" .assign (.literal .null)])
    ((Template.ofNames ["a"]).instantiate ["a"] [] true)).1 rfl
  obtain ⟨rfl, outcome⟩ := alone _ _ (.goesOn rfl (.goesOn rfl (.fails rfl)))
  exact ⟨_, _, _, _, _, rfl, rfl, rfl, rfl, inOrder, outcome.symm⟩

/-- Nothing is named `a` or `b`. The read `a[b]` fails at its key, the call `a[b]()` at its object. -/
theorem index_key_first :
    ∃ env a b, env = (Template.ofNames []).instantiate [] [] true ∧ a = .name "a" ∧ b = .name "b" ∧
      a.eval env = (.error (.notDefined "a"), env) ∧ b.eval env = (.error (.notDefined "b"), env) ∧
      (Expr.index a b).eval env = (.error (.notDefined "b"), env) ∧
      (Expr.call (.index a b) []).eval env = (.error (.notDefined "a"), env) :=
  ⟨_, _, _, rfl, rfl, rfl, rfl, rfl, rfl, rfl⟩

end Expr

end Reckoner
