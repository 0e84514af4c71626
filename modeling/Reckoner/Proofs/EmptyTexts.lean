import Reckoner.Evaluation.Error

namespace Reckoner

/-- A text with a part that is not empty is not empty. Most messages and texts are known to be so by one fixed part of
them. -/
theorem append_ne_empty_left {s : String} (nonempty : s ≠ "") (t : String) : s ++ t ≠ "" := fun empty =>
  nonempty (String.append_eq_empty_iff.mp empty).1

theorem append_ne_empty_right {t : String} (s : String) (nonempty : t ≠ "") : s ++ t ≠ "" := fun empty =>
  nonempty (String.append_eq_empty_iff.mp empty).2

namespace Number

/-- Wherever the point is put, a number is written with a digit at least: in front of a point that no digit precedes
there stands a zero. -/
theorem place_ne_nil (layout : Layout) {p : Pointed} (nonempty : p.digits ≠ []) : layout.place p ≠ [] := by
  unfold Layout.place
  split
  · unfold Pointed.positional
    split
    · simp [nonempty]
    · split <;> simp
  · simp [Pointed.scientific]

theorem signed_ne_nil (negative : Bool) {digits : List Char} (nonempty : digits ≠ []) :
    signed negative digits ≠ [] := by
  unfold signed
  split
  · exact List.cons_ne_nil _ _
  · exact nonempty

/-- No number has an empty text. Those that are not finite have names, and all others have digits. -/
theorem text_ne_empty (x : Float) : text x ≠ "" := by
  unfold text Layout.render
  split
  · decide
  · rw [ne_eq, String.ofList_eq_empty_iff]
    exact signed_ne_nil _ (by decide)
  · split
    · split <;> decide
    · rw [ne_eq, String.ofList_eq_empty_iff]
      exact signed_ne_nil _ (place_ne_nil _ Nat.toDigits_ne_nil)

end Number

theorem Calendar.Instant.text_ne_empty (t : Instant) : t.text ≠ "" := by
  unfold Instant.text
  exact append_ne_empty_right _ (by decide)

namespace Value

/-- The values with an empty text: the empty string, and arrays of no item or of a single one that has
none or is left out as a gap. -/
inductive IsBlank : Value → Prop
  | string : IsBlank (.string "")
  | noItem : IsBlank (.array [])
  | gap {item} : item.isNullish = true → IsBlank (.array [item])
  | item {item} : IsBlank item → IsBlank (.array [item])

/-- Blank values have the empty text: a gap counts as nothing where the items of an array are joined, and around a
single item there are no commas. -/
theorem IsBlank.text_eq {v : Value} (blank : v.IsBlank) : v.text = "" := by
  induction blank with
  | string => rw [text]
  | noItem => rw [text, itemTexts, String.intercalate_nil]
  | gap nullish =>
    rw [text, itemTexts, itemTexts, if_pos nullish, String.intercalate_singleton]
  | item _ ih =>
    rw [text, itemTexts, itemTexts, String.intercalate_singleton, ih]
    exact ite_self _

/-- No other value has the empty text: arrays of two items or more have a comma between them, and all other kinds of
values have texts that are never empty. The induction is on the nesting of arrays of one item. -/
theorem isBlank_of_text_eq (v : Value) (empty : v.text = "") : v.IsBlank := by
  cases v with
  | array items =>
    cases items with
    | nil => exact .noItem
    | cons item rest =>
      rw [text, itemTexts] at empty
      cases rest with
      | nil =>
        rw [itemTexts, String.intercalate_singleton] at empty
        split at empty
        · rename_i nullish
          exact .gap nullish
        · exact .item (isBlank_of_text_eq item empty)
      | cons second rest =>
        rw [itemTexts, String.intercalate_cons_cons] at empty
        exact absurd empty (append_ne_empty_left (append_ne_empty_right _ (by decide)) _)
  | string s =>
    rw [text] at empty
    exact empty ▸ .string
  | number x =>
    rw [text] at empty
    exact absurd empty (Number.text_ne_empty x)
  | date t =>
    rw [text] at empty
    exact absurd empty t.text_ne_empty
  | bool b =>
    rw [text] at empty
    cases b <;> exact absurd empty (by decide)
  | undefined | null | object =>
    rw [text] at empty
    exact absurd empty (by decide)
  | function | library =>
    rw [text] at empty
    exact absurd empty (append_ne_empty_right _ (by decide))

theorem text_eq_empty_iff (v : Value) : v.text = "" ↔ v.IsBlank :=
  ⟨isBlank_of_text_eq v, IsBlank.text_eq⟩

end Value

namespace EvalError

/-- The errors without a message: those of thrown values that are blank, or objects whose `message`
is. Errors of the evaluation itself are never silent. -/
inductive IsSilent : EvalError → Prop
  | value {v} : v.IsBlank → IsSilent (.thrown v)
  | object {fields v} : fields.lookup "message" = some v → v.IsBlank → IsSilent (.thrown (.object fields))

theorem message_thrown {v : Value} (noObject : ∀ fields, v ≠ .object fields) :
    (thrown v).message = v.text := by
  cases v with
  | object fields => exact absurd rfl (noObject fields)
  | _ => rfl

/-- A thrown object tells its `message`, whatever kind of value that is, and without one it tells what all objects do.
-/
theorem message_thrown_object (fields : List (String × Value)) :
    (thrown (.object fields)).message = ((fields.lookup "message").map Value.text).getD "[object Object]" := by
  delta message
  dsimp only
  cases fields.lookup "message" with
  | some v => rfl
  | none => simp only [Value.text, Option.map_none, Option.getD_none]

/-- All errors that the evaluation itself makes have a message: some words of it are fixed, whatever names and values go
into the others. -/
theorem message_ne_empty {e : EvalError} (kind : e.kind ≠ .thrown) : e.message ≠ "" := by
  cases e with
  | thrown => exact absurd rfl kind
  | notDefined | readOnly | cannotRead | notFunction | notConstructor | lazyOperator | dimensionMismatch =>
    exact append_ne_empty_right _ (by decide)
  | constantAssignment | pointCount | fixedDigits | radix | invalidTime | missingTime =>
    decide

/-- An error has no message exactly if it is silent. So it is decided by the thrown value alone, and the place of the
error plays no part. -/
theorem message_eq_empty_iff (e : EvalError) : e.message = "" ↔ e.IsSilent := by
  constructor
  · intro empty
    cases e with
    | thrown v =>
      cases v with
      | object fields =>
        rw [message_thrown_object] at empty
        cases found : fields.lookup "message" with
        | none =>
          rw [found] at empty
          exact absurd empty (by decide)
        | some v =>
          rw [found] at empty
          exact .object found (v.text_eq_empty_iff.mp empty)
      | _ => exact .value ((Value.text_eq_empty_iff _).mp empty)
    | _ => exact absurd empty (message_ne_empty (by simp [kind]))
  · intro silent
    cases silent with
    | value blank =>
      rw [message_thrown (fun fields same => by cases same; cases blank), blank.text_eq]
    | object found blank =>
      rw [message_thrown_object, found]
      exact blank.text_eq

end EvalError

end Reckoner
