import Reckoner.Proofs.Dictionary
import Reckoner.Proofs.NearestNumber
import Reckoner.Value.Document
import Reckoner.Value.Equality

namespace Reckoner

namespace Value

open Number

/-- Values with the names of all objects in ascending order. -/
inductive IsOrdered : Value → Prop
  | undefined : IsOrdered .undefined
  | null : IsOrdered .null
  | bool (b : Bool) : IsOrdered (.bool b)
  | number (x : Float) : IsOrdered (.number x)
  | string (s : String) : IsOrdered (.string s)
  | date (t : Calendar.Instant) : IsOrdered (.date t)
  | array {items : List Value} (each : ∀ v ∈ items, IsOrdered v) : IsOrdered (.array items)
  | object {fields : List (String × Value)} (sorted : Dict.Sorted fields) (each : ∀ field ∈ fields, IsOrdered field.2) :
      IsOrdered (.object fields)
  | function (f : Builtin) : IsOrdered (.function f)
  | library (l : Library) : IsOrdered (.library l)

/-- The values that documents denote: no other numbers than finite ones. -/
inductive IsDocument : Value → Prop
  | null : IsDocument .null
  | bool (b : Bool) : IsDocument (.bool b)
  | number {x : Float} (bounded : x.isFinite = true) : IsDocument (.number x)
  | string (s : String) : IsDocument (.string s)
  | array {items : List Value} (each : ∀ v ∈ items, IsDocument v) : IsDocument (.array items)
  | object {fields : List (String × Value)} (sorted : Dict.Sorted fields)
      (each : ∀ field ∈ fields, IsDocument field.2) :
      IsDocument (.object fields)

theorem IsDocument.isOrdered {v : Value} (document : v.IsDocument) : v.IsOrdered := by
  induction document with
  | null => exact .null
  | bool b => exact .bool b
  | number bounded => exact .number _
  | string s => exact .string s
  | array each ih => exact .array ih
  | object sorted each ih => exact .object sorted ih

section Containers

theorem itemsToJson_eq_map (items : List Value) : itemsToJson items = items.map toJson := by
  induction items with
  | nil => rfl
  | cons v rest ih => rw [itemsToJson, ih, List.map_cons]

theorem itemsOfJson_eq_map (items : List Json) : itemsOfJson items = items.map ofJson := by
  induction items with
  | nil => rfl
  | cons v rest ih => rw [itemsOfJson, ih, List.map_cons]

theorem fieldsToJson_eq_map (fields : List (String × Value)) :
    fieldsToJson fields = fields.map fun field => (field.1, toJson field.2) := by
  induction fields with
  | nil => rfl
  | cons field rest ih => rw [fieldsToJson, ih, List.map_cons]

theorem membersOfJson_eq_map (members : List (String × Json)) :
    membersOfJson members = members.map fun member => (member.1, ofJson member.2) := by
  induction members with
  | nil => rfl
  | cons member rest ih => rw [membersOfJson, ih, List.map_cons]

/-- An array goes through its document item by item. -/
theorem ofJson_toJson_array (items : List Value) :
    ofJson (toJson (.array items)) = .array (items.map fun v => ofJson (toJson v)) := by
  rw [toJson, ofJson, itemsToJson_eq_map, itemsOfJson_eq_map, List.map_map]
  rfl

/-- An object goes through its document field by field. -/
theorem ofJson_toJson_object {fields : List (String × Value)} (sorted : Dict.Sorted fields) :
    ofJson (toJson (.object fields)) = .object (fields.map fun field => (field.1, ofJson (toJson field.2))) := by
  have kept : Dict.Sorted (fields.map fun field => (field.1, ofJson (toJson field.2))) := by
    unfold Dict.Sorted
    rwa [List.pairwise_map]
  rw [toJson, ofJson, fieldsToJson_eq_map, membersOfJson_eq_map, List.map_map]
  exact congrArg Value.object (Dict.ofList_eq_self kept)

theorem sameItems_map (f : Value → Value) {items : List Value} (each : ∀ v ∈ items, same (f v) v = true) :
    sameItems (items.map f) items = true := by
  induction items with
  | nil => rfl
  | cons v rest ih =>
    rw [List.map_cons, sameItems, each v List.mem_cons_self, ih fun w member => each w (List.mem_cons_of_mem v member)]
    rfl

theorem sameFields_map (f : Value → Value) {fields : List (String × Value)}
    (each : ∀ field ∈ fields, same (f field.2) field.2 = true) :
    sameFields (fields.map fun field => (field.1, f field.2)) fields = true := by
  induction fields with
  | nil => rfl
  | cons field rest ih =>
    rw [List.map_cons, sameFields, each field List.mem_cons_self,
      ih fun other member => each other (List.mem_cons_of_mem field member), beq_self_eq_true]
    rfl

end Containers

theorem numberDocument_zero : numberDocument 0.0 = .number (.integer 0) := by
  have short : (isWhole 0.0 && decide ((0.0 : Float).abs < 9007199254740992.0)) = true := by decide +kernel
  have value : toInt? 0.0 = some 0 := by decide +kernel
  rw [numberDocument, exact_zero, value]
  exact if_pos short

/-- How a number comes back from its document: the same, but for the sign of zero. -/
theorem ofJson_numberDocument {x : Float} (bounded : x.isFinite = true) :
    ofJson (numberDocument x) = .number x ∨ (x == 0.0) = true ∧ ofJson (numberDocument x) = .number 0.0 ∧
      numberDocument x = numberDocument 0.0 := by
  obtain ⟨negative, m, q, content⟩ := (isFinite_iff x).1 bounded
  rw [numberDocument_zero, numberDocument, content]
  dsimp only
  split_ifs with short
  · have whole : isWhole x = true := (Bool.and_eq_true_iff.1 short).1
    rcases m.eq_zero_or_pos with rfl | pos
    · have zero : toInt? x = some 0 := by
        rw [toInt?, content]
        simp
      rw [zero]
      exact .inr ⟨(beq_zero_iff x).2 ⟨negative, q, content⟩, rfl, rfl⟩
    · left
      rw [ofJson, JsonNumber.toFloat, ofInt_toInt? content pos whole]
  · exact .inl rfl

theorem same_ofJson_toJson {v : Value} (document : v.IsDocument) : same (ofJson (toJson v)) v = true := by
  induction document with
  | null => rfl
  | bool b => exact beq_self_eq_true b
  | string s => exact beq_self_eq_true s
  | @number x bounded =>
    change same (ofJson (numberDocument x)) (.number x) = true
    rcases ofJson_numberDocument bounded with kept | ⟨zero, lost, -⟩
    · obtain ⟨negative, m, q, content⟩ := (isFinite_iff x).1 bounded
      rw [kept]
      exact Bool.or_eq_true_iff.2 (.inl (beq_self_of_finite content))
    · rw [lost]
      exact Bool.or_eq_true_iff.2 (.inl (BEq.symm zero))
  | array each ih =>
    rw [ofJson_toJson_array]
    exact sameItems_map (fun v => ofJson (toJson v)) ih
  | object sorted each ih =>
    rw [ofJson_toJson_object sorted]
    exact sameFields_map (fun v => ofJson (toJson v)) ih

theorem toJson_library (l : Library) :
    toJson (.library l) = toJson (.object (l.constants.map fun constant => (constant.1, .number constant.2))) := by
  rw [toJson, toJson, fieldsToJson_eq_map, List.map_map]
  exact congrArg Json.object (List.map_congr_left fun _ _ => rfl)

theorem sorted_constants (l : Library) :
    Dict.Sorted (l.constants.map fun constant => (constant.1, Value.number constant.2)) := by
  unfold Dict.Sorted
  rw [List.pairwise_map]
  cases l <;> decide

theorem toJson_ofJson_number (x : Float) : toJson (ofJson (numberDocument x)) = numberDocument x := by
  by_cases bounded : x.isFinite = true
  · rcases ofJson_numberDocument bounded with kept | ⟨-, lost, same⟩
    · rw [kept, toJson]
    · rw [lost, toJson, same]
  · have null : numberDocument x = .null := by
      rw [isFinite_iff] at bounded
      rw [numberDocument]
      split
      · exact absurd ⟨_, _, _, ‹_›⟩ bounded
      · rfl
    rw [null, ofJson, toJson]

theorem toJson_ofJson_toJson {v : Value} (ordered : v.IsOrdered) : toJson (ofJson (toJson v)) = toJson v := by
  have object {fields : List (String × Value)} (sorted : Dict.Sorted fields)
      (each : ∀ field ∈ fields, toJson (ofJson (toJson field.2)) = toJson field.2) :
      toJson (ofJson (toJson (.object fields))) = toJson (.object fields) := by
    rw [ofJson_toJson_object sorted, toJson, toJson, fieldsToJson_eq_map, fieldsToJson_eq_map, List.map_map]
    refine congrArg Json.object (List.map_congr_left fun field member => ?_)
    exact congrArg (Prod.mk field.1) (each field member)
  induction ordered with
  | number x => exact toJson_ofJson_number x
  | array each ih =>
    rw [ofJson_toJson_array, toJson, toJson, itemsToJson_eq_map, itemsToJson_eq_map, List.map_map]
    exact congrArg Json.array (List.map_congr_left ih)
  | object sorted each ih => exact object sorted ih
  | library l =>
    rw [toJson_library]
    refine object (sorted_constants l) fun field member => ?_
    obtain ⟨constant, -, rfl⟩ := List.mem_map.1 member
    exact toJson_ofJson_number constant.2
  | _ => rfl

/-- Values go through JSON documents. Those of which nothing is lost come back the same, and any other comes back as a
value with the same document. -/
theorem document_bridge (v : Value) :
    (v.IsDocument → same (ofJson (toJson v)) v = true) ∧ (v.IsOrdered → toJson (ofJson (toJson v)) = toJson v) :=
  ⟨same_ofJson_toJson, toJson_ofJson_toJson⟩

/-- A negative zero in an object, and beside it what documents do not tell. -/
theorem document_bridge_mixed :
    let v := Value.object [("a", .number (-0.0)), ("b", .array [.null])]
    let w := Value.array [v, .undefined, .number notANumber, .library .math]
    same (ofJson (toJson v)) v = true ∧ toJson (ofJson (toJson w)) = toJson w := by
  intro v w
  have document : v.IsDocument := by
    refine .object (by unfold Dict.Sorted; decide) fun field member => ?_
    rcases List.mem_pair.1 member with rfl | rfl
    · exact .number (by decide +kernel)
    · exact .array fun item inside => List.mem_singleton.1 inside ▸ .null
  have ordered : w.IsOrdered := by
    refine .array fun item member => ?_
    rcases List.mem_cons.1 member with rfl | member
    · exact document.isOrdered
    · simp only [List.mem_cons, List.not_mem_nil, or_false] at member
      rcases member with rfl | rfl | rfl
      · exact .undefined
      · exact .number _
      · exact .library _
  exact ⟨(document_bridge v).1 document, (document_bridge w).2 ordered⟩

end Value

end Reckoner
