import Reckoner.Coercion
import Reckoner.Proofs.Dictionary
import Reckoner.Proofs.Simulation
import Reckoner.Value.Document

namespace Reckoner

namespace Value

mutual

/-- A value without functions and libraries at any depth. -/
def isData : Value → Bool
  | .function _ | .library _ => false
  | .array items => itemsAreData items
  | .object fields => fieldsAreData fields
  | .undefined | .null | .bool _ | .number _ | .string _ | .date _ => true

def itemsAreData : List Value → Bool
  | [] => true
  | item :: rest => isData item && itemsAreData rest

def fieldsAreData : List (String × Value) → Bool
  | [] => true
  | (_, value) :: rest => isData value && fieldsAreData rest

end

@[simp]
theorem isData_array {items : List Value} : (array items).isData = true ↔ ∀ v ∈ items, v.isData = true := by
  rw [isData]
  induction items with
  | nil => simp [itemsAreData]
  | cons item rest ih => simp [itemsAreData, ih]

@[simp]
theorem isData_object {fields : List (String × Value)} :
    (object fields).isData = true ↔ ∀ field ∈ fields, field.2.isData = true := by
  rw [isData]
  induction fields with
  | nil => simp [fieldsAreData]
  | cons field rest ih =>
    obtain ⟨_, value⟩ := field
    simp only [fieldsAreData, Bool.and_eq_true, ih, List.forall_mem_cons]

/-- Whatever is read off data is data: an item, a field, a length, or nothing. -/
theorem property_isData {receiver : Value} (data : receiver.isData = true) (key : String) :
    (receiver.property key).isData = true := by
  cases receiver with
  | string s =>
    unfold property
    dsimp only
    split
    · rfl
    · split <;> rfl
  | array items =>
    unfold property
    dsimp only
    split
    · rfl
    · cases found : indexOfKey? key >>= (items[·]?) with
      | none => rfl
      | some v =>
        obtain ⟨i, _, atIndex⟩ := Option.bind_eq_some_iff.mp found
        exact isData_array.mp data v (List.mem_of_getElem? atIndex)
  | object fields =>
    unfold property
    dsimp only
    cases found : fields.lookup key with
    | none => rfl
    | some v => exact isData_object.mp data _ (Dict.mem_of_find? found)
  | function | library => cases data
  | undefined | null | bool | number | date => rfl

theorem positionNumber_isData (place : Option Nat) : (positionNumber place).isData = true := by
  cases place <;> rfl

theorem numberToString_isData {x : Float} {radix v : Value} (made : numberToString x radix = .ok v) :
    v.isData = true := by
  unfold numberToString at made
  dsimp only at made
  split at made <;> split at made <;> cases made <;> rfl

theorem numberToFixed_isData {x : Float} {places v : Value} (made : numberToFixed x places = .ok v) :
    v.isData = true := by
  unfold numberToFixed at made
  dsimp only at made
  split at made <;> cases made
  rfl

theorem stringMethod_isData {s name : String} {args : List Value} {v : Value}
    (called : stringMethod s name args = some v) : v.isData = true := by
  unfold stringMethod at called
  dsimp only at called
  split at called <;> cases called <;> first | rfl | exact positionNumber_isData _

theorem arrayMethod_isData {items : List Value} (data : ∀ v ∈ items, v.isData = true) {name : String}
    {args : List Value} {v : Value} (called : arrayMethod items name args = some v) : v.isData = true := by
  unfold arrayMethod at called
  dsimp only at called
  split at called <;> cases called
  case h_4 => exact isData_array.mpr fun v member => data v (List.mem_of_mem_take (List.mem_of_mem_drop member))
  all_goals first | rfl | exact positionNumber_isData _

theorem dateMethod_isData {t : Calendar.Instant} {name : String} {v : Value} (called : dateMethod t name = some v) :
    v.isData = true := by
  unfold dateMethod at called
  split at called <;> cases called <;> rfl

/-- No method gives a function, whatever the arguments are. -/
theorem callMethod_isData {receiver v : Value} (data : receiver.isData = true) {key : String} {args : List Value}
    (called : receiver.callMethod key args = some (.ok v)) : v.isData = true := by
  unfold callMethod at called
  cases receiver with
  | number x =>
    dsimp only at called
    split at called
    · exact numberToFixed_isData (Option.some.inj called)
    · split at called
      · exact numberToString_isData (Option.some.inj called)
      · cases called
  | string s =>
    obtain ⟨w, made, same⟩ := Option.map_eq_some_iff.mp called
    cases same
    exact stringMethod_isData made
  | array items =>
    obtain ⟨w, made, same⟩ := Option.map_eq_some_iff.mp called
    cases same
    exact arrayMethod_isData (isData_array.mp data) made
  | date t =>
    obtain ⟨w, made, same⟩ := Option.map_eq_some_iff.mp called
    cases same
    exact dateMethod_isData made
  | bool b =>
    dsimp only at called
    split at called <;> cases called
    rfl
  | undefined | null | object | function | library => cases called

/-- Data is no function, so that it cannot be called or constructed. -/
theorem callAs_of_isData {f : Value} (data : f.isData = true) (callee : Expr) (args : List Value) :
    f.callAs callee args = .error (.notFunction callee.describe) := by
  cases f with
  | function => cases data
  | _ => rfl

theorem constructAs_of_isData {f : Value} (data : f.isData = true) (callee : Expr) (args : List Value) :
    f.constructAs callee args = .error (.notConstructor callee.describe) := by
  cases f with
  | function => cases data
  | _ => rfl

/-- A call on data can only be that of a method. -/
theorem callProperty_of_isData {receiver : Value} (data : receiver.isData = true) (callee : Expr) (key : String)
    (args : List Value) : receiver.callProperty callee key args =
      (receiver.callMethod key args).getD (.error (.notFunction callee.describe)) := by
  cases receiver with
  | object fields => exact callAs_of_isData (property_isData data key) callee args
  | function | library => cases data
  | _ => rfl

end Value

theorem BinaryOp.apply_isData {op : BinaryOp} {v w result : Value} (applied : op.apply v w = .ok result) :
    result.isData = true := by
  cases op with
  | add =>
    cases applied
    unfold Value.add
    split <;> rfl
  | and | or | nullish => cases applied
  | _ => cases applied; rfl

/-- No operation makes a function out of data. The operations are gone through one by one; of calls only those of
methods can have succeeded. -/
theorem Value.hereditary_isData : Value.Hereditary (·.isData = true) where
  literal l := by cases l <;> rfl
  array := isData_array.mpr
  object data := isData_object.mpr fun field member => data field (Dict.mem_ofList member)
  unary op _ _ := by cases op <;> rfl
  binary _ _ applied := BinaryOp.apply_isData applied
  readProperty {receiver _ key} data read := by
    unfold Value.readProperty at read
    split at read
    · cases read
    · cases read
      exact property_isData data key
  callAs data _ called := by
    rw [callAs_of_isData data] at called
    cases called
  callProperty {callee receiver _ key args} data _ called := by
    rw [callProperty_of_isData data] at called
    cases made : receiver.callMethod key args with
    | none => rw [made] at called; cases called
    | some outcome =>
      rw [made] at called
      cases called
      exact callMethod_isData data made
  constructAs data _ made := by
    rw [constructAs_of_isData data] at made
    cases made

theorem ResultType.coerce_isData (type : ResultType) {v : Value} (data : v.isData = true) :
    (type.coerce v).isData = true := by
  cases type with
  | date =>
    unfold ResultType.coerce
    dsimp only
    split
    · rfl
    · exact data
  | string | number | boolean => rfl
  | untyped => exact data

namespace Value

mutual

theorem ofJson_isData : ∀ document : Json, (ofJson document).isData = true
  | .null | .bool _ | .number _ | .string _ => by rw [ofJson]; rfl
  | .array items => by
    rw [ofJson]
    exact isData_array.mpr (itemsOfJson_areData items)
  | .object members => by
    rw [ofJson]
    exact isData_object.mpr fun field member => membersOfJson_areData members field (Dict.mem_ofList member)

theorem itemsOfJson_areData : ∀ items : List Json, ∀ v ∈ itemsOfJson items, v.isData = true
  | [] => by simp [itemsOfJson]
  | item :: rest => by
    rw [itemsOfJson]
    exact List.forall_mem_cons.mpr ⟨ofJson_isData item, itemsOfJson_areData rest⟩

theorem membersOfJson_areData :
    ∀ members : List (String × Json), ∀ field ∈ membersOfJson members, field.2.isData = true
  | [] => by simp [membersOfJson]
  | (_, document) :: rest => by
    rw [membersOfJson]
    exact List.forall_mem_cons.mpr ⟨ofJson_isData document, membersOfJson_areData rest⟩

end

end Value

end Reckoner
