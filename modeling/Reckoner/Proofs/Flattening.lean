import Mathlib.Data.List.Nodup
import Reckoner.Proofs.PathText

namespace Reckoner

/-- Values with the paths at which they are set. -/
abbrev Entries := List (Path × Value)

namespace Value

/-- Objects with fields and arrays with items. -/
def isInner : Value → Bool
  | .object fields => !fields.isEmpty
  | .array items => !items.isEmpty
  | _ => false

/-- The paths of a list of leaves behind a step. -/
def under (step : Segment) (leaves : Entries) : Entries :=
  leaves.map fun leaf => (step :: leaf.1, leaf.2)

mutual

/-- The leaves of a value with their paths: all that is no inner value, empty objects and arrays too. -/
def leaves : Value → Entries
  | .object fields => if fields.isEmpty then [([], .object fields)] else fieldLeaves fields
  | .array items => if items.isEmpty then [([], .array items)] else itemLeaves 0 items
  | v => [([], v)]

def fieldLeaves : List (String × Value) → Entries
  | [] => []
  | (name, v) :: rest => under (.key name) (leaves v) ++ fieldLeaves rest

def itemLeaves (i : Nat) : List Value → Entries
  | [] => []
  | v :: rest => under (.index i) (leaves v) ++ itemLeaves (i + 1) rest

end

/-- The names in inner objects ascend and are plain keys, and arrays have no more items than there are
indices of 64 bits. Leaves are of any kind. -/
inductive IsNested : Value → Prop
  | leaf {v : Value} (outer : v.isInner = false) : IsNested v
  | object {fields : List (String × Value)} (sorted : Dict.Sorted fields)
      (plain : ∀ field ∈ fields, IsPlainKey field.1) (each : ∀ field ∈ fields, IsNested field.2) :
      IsNested (.object fields)
  | array {items : List Value} (fits : items.length ≤ 2 ^ 64) (each : ∀ v ∈ items, IsNested v) :
      IsNested (.array items)

/-- The flat object of a nested one, with the path of each leaf as its key. -/
def flatten : Value → Dict Value
  | .object fields => Dict.ofList ((fieldLeaves fields).map fun leaf => (leaf.1.text, leaf.2))
  | _ => []

theorem leaves_of_outer {v : Value} (outer : v.isInner = false) : v.leaves = [([], v)] := by
  cases v with
  | object fields =>
    cases fields with
    | nil => rw [leaves]; rfl
    | cons => exact nomatch outer
  | array items =>
    cases items with
    | nil => rw [leaves]; rfl
    | cons => exact nomatch outer
  | _ => rw [leaves] <;> exact nofun

theorem fieldLeaves_eq_flatMap (fields : List (String × Value)) :
    fieldLeaves fields = fields.flatMap fun field => under (.key field.1) field.2.leaves := by
  induction fields with
  | nil => rfl
  | cons field rest ih => rw [fieldLeaves, ih, List.flatMap_cons]

theorem itemLeaves_eq_flatMap (items : List Value) (i : Nat) :
    itemLeaves i items = (items.zipIdx i).flatMap fun entry => under (.index entry.2) entry.1.leaves := by
  induction items generalizing i with
  | nil => rfl
  | cons v rest ih => rw [itemLeaves, ih, List.zipIdx_cons, List.flatMap_cons]

/-- What is behind a step in a list of leaves. -/
def behind (step : Segment) (entries : Entries) : Entries :=
  entries.filterMap fun entry =>
    match entry.1 with
    | [] => none
    | first :: rest => if first = step then some (rest, entry.2) else none

theorem behind_cons (step first : Segment) (rest : Path) (v : Value) (entries : Entries) :
    behind step ((first :: rest, v) :: entries) =
      if first = step then (rest, v) :: behind step entries else behind step entries := by
  unfold behind
  by_cases same : first = step
  · rw [List.filterMap_cons_some (b := (rest, v)) (by simp [same]), if_pos same]
  · rw [List.filterMap_cons_none (by simp [same]), if_neg same]

theorem behind_append (step : Segment) (entries more : Entries) :
    behind step (entries ++ more) = behind step entries ++ behind step more :=
  List.filterMap_append

theorem behind_perm {entries more : Entries} (step : Segment) (same : entries.Perm more) :
    (behind step entries).Perm (behind step more) :=
  same.filterMap _

theorem behind_under (step other : Segment) (entries : Entries) :
    behind step (under other entries) = if other = step then entries else [] := by
  induction entries with
  | nil => split <;> rfl
  | cons entry rest ih =>
    rw [under, List.map_cons, behind_cons]
    unfold under at ih
    rw [ih]
    split <;> rfl

theorem behind_fieldLeaves {fields : Dict Value} (sorted : fields.Sorted) (name : String) :
    behind (.key name) (fieldLeaves fields) = ((fields.find? name).map leaves).getD [] := by
  induction fields with
  | nil => rfl
  | cons field rest ih =>
    obtain ⟨first, v⟩ := field
    obtain ⟨above, tail⟩ := List.pairwise_cons.mp sorted
    rw [fieldLeaves, behind_append, behind_under, ih tail, Dict.find?_cons]
    by_cases same : first = name
    · subst same
      have absent : Dict.find? rest first = none := by
        cases found : Dict.find? rest first with
        | none => rfl
        | some w => exact absurd (above _ (Dict.mem_of_find? found)) (String.lt_irrefl first)
      simp [absent]
    · simp [same, Ne.symm same]

theorem behind_itemLeaves (items : List Value) (i k : Nat) :
    behind (.index k) (itemLeaves i items) = if i ≤ k then (items[k - i]?.map leaves).getD [] else [] := by
  induction items generalizing i with
  | nil => split <;> rfl
  | cons v rest ih =>
    rw [itemLeaves, behind_append, behind_under, ih]
    rcases Nat.lt_trichotomy i k with before | rfl | after
    · have next : k - i = k - (i + 1) + 1 := by omega
      simp [next, Nat.le_of_lt before, Nat.succ_le_of_lt before, Nat.ne_of_lt before]
    · simp
    · simp [Nat.not_le.mpr after, Nat.not_le.mpr (Nat.lt_succ_of_lt after), Nat.ne_of_gt after]

/-- Sets the values of several paths, one after the other. -/
def setAll (target : Value) (entries : Entries) : Value :=
  entries.foldl (fun target entry => target.setAt entry.1 entry.2) target

theorem setAll_cons (target : Value) (path : Path) (v : Value) (entries : Entries) :
    setAll target ((path, v) :: entries) = setAll (target.setAt path v) entries := rfl

/-- In an object, entries that begin with names meet only where the names are the same: below each name
there are the entries behind it. -/
theorem setAll_object {fields : Dict Value} (sorted : fields.Sorted) {entries : Entries}
    (named : ∀ entry ∈ entries, ∃ name rest, entry.1 = .key name :: rest) :
    ∃ made : Dict Value, setAll (.object fields) entries = .object made ∧ made.Sorted ∧
      ∀ name, (made.contains name = (fields.contains name || !(behind (.key name) entries).isEmpty)) ∧
        (made.find? name).getD .null = setAll ((fields.find? name).getD .null) (behind (.key name) entries) := by
  induction entries generalizing fields with
  | nil => exact ⟨fields, rfl, sorted, fun name => ⟨by simp [behind], rfl⟩⟩
  | cons entry more ih =>
    obtain ⟨path, v⟩ := entry
    obtain ⟨⟨first, rest, here⟩, later⟩ := List.forall_mem_cons.mp named
    cases here
    let inside := ((fields.find? first).getD Value.null).setAt rest v
    obtain ⟨made, whole, ascending, each⟩ := ih (sorted.insert first inside) later
    refine ⟨made, by rw [setAll_cons, setAt]; exact whole, ascending, fun name => ?_⟩
    obtain ⟨contains, found⟩ := each name
    rw [contains, found, Dict.contains_insert, Dict.find?_insert, behind_cons]
    by_cases same : name = first
    · subst same
      simp [setAll_cons, inside]
    · simp [same, Ne.symm same, beq_eq_false_iff_ne.mpr same]

theorem length_setItem (items : List Value) (i : Nat) (v : Value) :
    (setItem items i v).length = max items.length (i + 1) := by
  simp only [setItem, List.length_set, List.length_append, List.length_replicate]
  omega

theorem getElem?_setItem (items : List Value) (i j : Nat) (v : Value) :
    (setItem items i v)[j]?.getD .null = if j = i then v else items[j]?.getD .null := by
  unfold setItem
  by_cases same : j = i
  · subst same
    rw [if_pos rfl, List.getElem?_set_self (by simp; omega)]
    rfl
  · rw [if_neg same, List.getElem?_set_ne (Ne.symm same), List.getElem?_append]
    split
    · rfl
    · rename_i outside
      rw [List.getElem?_eq_none (Nat.not_lt.mp outside), List.getElem?_replicate]
      split <;> rfl

/-- In an array, entries that begin with indices meet only where the indices are the same. Items that are
missing before an index are `null`, as if they were not there. -/
theorem setAll_array (items : List Value) {entries : Entries}
    (indexed : ∀ entry ∈ entries, ∃ i rest, entry.1 = .index i :: rest) :
    ∃ made : List Value, setAll (.array items) entries = .array made ∧ items.length ≤ made.length ∧
      (∀ i, made[i]?.getD .null = setAll (items[i]?.getD .null) (behind (.index i) entries)) ∧
      (∀ i, behind (.index i) entries ≠ [] → i < made.length) ∧
      ∀ n, items.length ≤ n → (∀ i, n ≤ i → behind (.index i) entries = []) → made.length ≤ n := by
  induction entries generalizing items with
  | nil => exact ⟨items, rfl, le_rfl, fun _ => rfl, fun _ named => absurd rfl named, fun _ bound _ => bound⟩
  | cons entry more ih =>
    obtain ⟨path, v⟩ := entry
    obtain ⟨⟨first, rest, here⟩, later⟩ := List.forall_mem_cons.mp indexed
    cases here
    let inside := (items[first]?.getD Value.null).setAt rest v
    obtain ⟨made, whole, grown, each, reached, bounded⟩ := ih (setItem items first inside) later
    rw [length_setItem] at grown
    refine ⟨made, by rw [setAll_cons, setAt]; exact whole, by omega, fun i => ?_, fun i named => ?_,
      fun n above unnamed => ?_⟩
    · rw [each, getElem?_setItem, behind_cons]
      by_cases same : i = first
      · subst same
        simp [setAll_cons, inside]
      · simp [same, Ne.symm same]
    · by_cases same : i = first
      · omega
      · rw [behind_cons, if_neg (by simpa using Ne.symm same)] at named
        exact reached i named
    · have inFront : first < n := by
        by_contra outside
        have nothing := unnamed first (Nat.not_lt.mp outside)
        rw [behind_cons, if_pos rfl] at nothing
        exact List.cons_ne_nil _ _ nothing
      refine bounded n (by rw [length_setItem]; omega) fun i outside => ?_
      have nothing := unnamed i outside
      rwa [behind_cons, if_neg (by simp; omega)] at nothing

/-- What is `null` becomes an object or an array with the first entry. -/
theorem setAll_null_of_named {entries : Entries} (nonempty : entries ≠ [])
    (named : ∀ entry ∈ entries, ∃ name rest, entry.1 = .key name :: rest) :
    setAll .null entries = setAll (.object []) entries := by
  cases entries with
  | nil => exact absurd rfl nonempty
  | cons entry more =>
    obtain ⟨path, v⟩ := entry
    obtain ⟨_, _, here⟩ := named _ (List.mem_cons_self ..)
    cases here
    simp only [setAll_cons, setAt]

theorem setAll_null_of_indexed {entries : Entries} (nonempty : entries ≠ [])
    (indexed : ∀ entry ∈ entries, ∃ i rest, entry.1 = .index i :: rest) :
    setAll .null entries = setAll (.array []) entries := by
  cases entries with
  | nil => exact absurd rfl nonempty
  | cons entry more =>
    obtain ⟨path, v⟩ := entry
    obtain ⟨_, _, here⟩ := indexed _ (List.mem_cons_self ..)
    cases here
    simp [setAll_cons, setAt]

theorem named_of_mem_fieldLeaves {fields : List (String × Value)} {entry : Path × Value}
    (member : entry ∈ fieldLeaves fields) : ∃ name rest, entry.1 = .key name :: rest := by
  rw [fieldLeaves_eq_flatMap] at member
  obtain ⟨field, _, member⟩ := List.mem_flatMap.mp member
  obtain ⟨leaf, _, rfl⟩ := List.mem_map.mp member
  exact ⟨_, _, rfl⟩

theorem indexed_of_mem_itemLeaves {items : List Value} {i : Nat} {entry : Path × Value}
    (member : entry ∈ itemLeaves i items) : ∃ i rest, entry.1 = .index i :: rest := by
  rw [itemLeaves_eq_flatMap] at member
  obtain ⟨item, _, member⟩ := List.mem_flatMap.mp member
  obtain ⟨leaf, _, rfl⟩ := List.mem_map.mp member
  exact ⟨_, _, rfl⟩

/-- A value is made again from its leaves, in whatever order they are set. -/
def IsRemade (v : Value) : Prop := v.leaves ≠ [] ∧ ∀ entries : Entries, entries.Perm v.leaves → setAll .null entries = v

theorem setAll_fieldLeaves {fields : Dict Value} (sorted : fields.Sorted) (each : ∀ field ∈ fields, IsRemade field.2)
    {entries : Entries} (same : entries.Perm (fieldLeaves fields)) : setAll (.object []) entries = .object fields := by
  have empty : Dict.Sorted ([] : Dict Value) := .nil
  obtain ⟨made, whole, ascending, made_at⟩ :=
    setAll_object empty fun entry member => named_of_mem_fieldLeaves (same.mem_iff.mp member)
  rw [whole]
  refine congrArg Value.object (Dict.Sorted.ext ascending sorted fun name => ?_)
  obtain ⟨contains, found⟩ := made_at name
  have here := behind_perm (.key name) same
  rw [behind_fieldLeaves sorted] at here
  cases atName : Dict.find? fields name with
  | none =>
    rw [atName] at here
    rw [List.perm_nil.mp here] at contains
    exact Dict.contains_eq_false_iff.mp contains
  | some v =>
    rw [atName] at here
    obtain ⟨nonempty, remade⟩ := each _ (Dict.mem_of_find? atName)
    have known : made.contains name = true := by
      rw [contains, List.isEmpty_eq_false_iff.mpr fun empty => nonempty (List.perm_nil.mp (empty ▸ here).symm)]
      rfl
    obtain ⟨w, isW⟩ := Option.isSome_iff_exists.mp known
    rw [isW, Option.getD_some] at found
    rw [isW, found]
    exact congrArg Option.some (remade _ here)

theorem setAll_itemLeaves {items : List Value} (each : ∀ v ∈ items, IsRemade v) {entries : Entries}
    (same : entries.Perm (itemLeaves 0 items)) : setAll (.array []) entries = .array items := by
  obtain ⟨made, whole, _, made_at, reached, bounded⟩ :=
    setAll_array [] fun entry member => indexed_of_mem_itemLeaves (same.mem_iff.mp member)
  have here (i : Nat) : (behind (.index i) entries).Perm ((items[i]?.map leaves).getD []) := by
    have below := behind_perm (.index i) same
    rwa [behind_itemLeaves, if_pos (Nat.zero_le i), Nat.sub_zero] at below
  have inside (i : Nat) (v : Value) (atIndex : items[i]? = some v) : made[i]? = some v := by
    have below := here i
    rw [atIndex] at below
    obtain ⟨nonempty, remade⟩ := each v (List.mem_of_getElem? atIndex)
    have index := reached i fun empty => nonempty (List.perm_nil.mp (empty ▸ below).symm)
    have value := made_at i
    rw [List.getElem?_eq_getElem index] at value ⊢
    exact congrArg Option.some (value.trans (remade _ below))
  have short : made.length ≤ items.length := by
    refine bounded _ (Nat.zero_le _) fun i outside => ?_
    have nothing := here i
    rw [List.getElem?_eq_none outside] at nothing
    exact List.perm_nil.mp nothing
  rw [whole]
  refine congrArg Value.array (List.ext_getElem? fun i => ?_)
  cases atIndex : items[i]? with
  | none => exact List.getElem?_eq_none (Nat.le_trans short (List.getElem?_eq_none_iff.mp atIndex))
  | some v => exact inside i v atIndex

theorem isRemade_of_outer {v : Value} (outer : v.isInner = false) : v.IsRemade := by
  rw [IsRemade, leaves_of_outer outer]
  refine ⟨nofun, fun entries same => ?_⟩
  rw [List.perm_singleton.mp same]
  rfl

theorem IsNested.isRemade {v : Value} (nested : v.IsNested) : v.IsRemade := by
  induction nested with
  | leaf outer => exact isRemade_of_outer outer
  | @object fields sorted _ _ each =>
    cases fields with
    | nil => exact isRemade_of_outer rfl
    | cons field rest =>
      have shape : leaves (.object (field :: rest)) = fieldLeaves (field :: rest) := by rw [leaves, if_neg (by simp)]
      have nonempty : fieldLeaves (field :: rest) ≠ [] := fun empty =>
        (each field (List.mem_cons_self ..)).1 (List.map_eq_nil_iff.mp (List.append_eq_nil_iff.mp empty).1)
      rw [IsRemade, shape]
      refine ⟨nonempty, fun entries same => ?_⟩
      rw [setAll_null_of_named (fun empty => nonempty (List.perm_nil.mp (empty ▸ same).symm))
        fun entry member => named_of_mem_fieldLeaves (same.mem_iff.mp member)]
      exact setAll_fieldLeaves sorted each same
  | @array items _ _ each =>
    cases items with
    | nil => exact isRemade_of_outer rfl
    | cons v rest =>
      have shape : leaves (.array (v :: rest)) = itemLeaves 0 (v :: rest) := by rw [leaves, if_neg (by simp)]
      have nonempty : itemLeaves 0 (v :: rest) ≠ [] := fun empty =>
        (each v (List.mem_cons_self ..)).1 (List.map_eq_nil_iff.mp (List.append_eq_nil_iff.mp empty).1)
      rw [IsRemade, shape]
      refine ⟨nonempty, fun entries same => ?_⟩
      rw [setAll_null_of_indexed (fun empty => nonempty (List.perm_nil.mp (empty ▸ same).symm))
        fun entry member => indexed_of_mem_itemLeaves (same.mem_iff.mp member)]
      exact setAll_itemLeaves each same

/-- The paths of leaves are different, and all of their steps are plain. -/
def HasPlainPaths (leaves : Entries) : Prop :=
  (leaves.map (·.1)).Nodup ∧ ∀ leaf ∈ leaves, ∀ step ∈ leaf.1, step.IsPlain

theorem HasPlainPaths.under {leaves : Entries} (plain : HasPlainPaths leaves) {step : Segment} (here : step.IsPlain) :
    HasPlainPaths (under step leaves) := by
  obtain ⟨apart, steps⟩ := plain
  refine ⟨?_, fun leaf member => ?_⟩
  · have paths : (Value.under step leaves).map (·.1) = (leaves.map (·.1)).map (step :: ·) := by
      simp [Value.under]
    rw [paths]
    exact apart.map (List.cons_injective)
  · obtain ⟨inner, inside, rfl⟩ := List.mem_map.mp member
    exact List.forall_mem_cons.mpr ⟨here, steps inner inside⟩

theorem hasPlainPaths_of_outer {v : Value} (outer : v.isInner = false) : HasPlainPaths v.leaves := by
  rw [leaves_of_outer outer]
  refine ⟨List.nodup_singleton _, fun leaf member => ?_⟩
  rw [List.mem_singleton.mp member]
  exact nofun

/-- Leaves below different steps. -/
theorem hasPlainPaths_flatMap {α : Type} {parts : List α} {step : α → Segment} {leaves : α → Entries}
    (apart : (parts.map step).Nodup) (steps : ∀ part ∈ parts, (step part).IsPlain)
    (each : ∀ part ∈ parts, HasPlainPaths (leaves part)) :
    HasPlainPaths (parts.flatMap fun part => under (step part) (leaves part)) := by
  refine ⟨?_, fun leaf member => ?_⟩
  · rw [List.map_flatMap, List.nodup_flatMap]
    refine ⟨fun part member => ((each part member).under (steps part member)).1, ?_⟩
    refine (List.pairwise_map.mp apart).imp fun {a b} different path first second => different ?_
    simp only [under, List.map_map, List.mem_map, Function.comp_apply] at first second
    obtain ⟨_, _, rfl⟩ := first
    obtain ⟨_, _, same⟩ := second
    exact (List.cons.inj same).1.symm
  · obtain ⟨part, among, member⟩ := List.mem_flatMap.mp member
    exact ((each part among).under (steps part among)).2 leaf member

theorem hasPlainPaths_fieldLeaves {fields : Dict Value} (sorted : fields.Sorted)
    (plain : ∀ field ∈ fields, IsPlainKey field.1) (each : ∀ field ∈ fields, HasPlainPaths field.2.leaves) :
    HasPlainPaths (fieldLeaves fields) := by
  rw [fieldLeaves_eq_flatMap]
  refine hasPlainPaths_flatMap (List.pairwise_map.mpr (sorted.imp fun {a b} before same => ?_)) plain each
  exact String.lt_irrefl b.1 (Segment.key.inj same ▸ before)

theorem hasPlainPaths_itemLeaves {items : List Value} (fits : items.length ≤ 2 ^ 64)
    (each : ∀ v ∈ items, HasPlainPaths v.leaves) : HasPlainPaths (itemLeaves 0 items) := by
  have indices := List.zipIdx_map_snd 0 items
  have values := List.zipIdx_map_fst 0 items
  rw [itemLeaves_eq_flatMap]
  refine hasPlainPaths_flatMap ?_ (fun entry member => ?_) fun entry member => each _ ?_
  · have steps : (items.zipIdx 0).map (fun entry => Segment.index entry.2) =
        (List.range' 0 items.length).map .index := by
      rw [← indices, List.map_map]
      rfl
    rw [steps]
    exact List.Nodup.map (fun _ _ same => Segment.index.inj same) List.nodup_range'
  · have index := List.mem_map_of_mem (f := Prod.snd) member
    rw [indices, List.mem_range'_1] at index
    exact Nat.lt_of_lt_of_le index.2 (by omega)
  · exact values ▸ List.mem_map_of_mem member

theorem IsNested.hasPlainPaths {v : Value} (nested : v.IsNested) : HasPlainPaths v.leaves := by
  induction nested with
  | leaf outer => exact hasPlainPaths_of_outer outer
  | @object fields sorted plain _ each =>
    cases fields with
    | nil => exact hasPlainPaths_of_outer rfl
    | cons field rest =>
      rw [leaves, if_neg (by simp)]
      exact hasPlainPaths_fieldLeaves sorted plain each
  | @array items fits _ each =>
    cases items with
    | nil => exact hasPlainPaths_of_outer rfl
    | cons v rest =>
      rw [leaves, if_neg (by simp)]
      exact hasPlainPaths_itemLeaves fits each

/-- The paths of fields are read back from their texts. -/
theorem ofText_text_of_mem {fields : Dict Value} (plain : HasPlainPaths (fieldLeaves fields)) {leaf : Path × Value}
    (member : leaf ∈ fieldLeaves fields) : Path.ofText leaf.1.text = leaf.1 := by
  have steps := plain.2 leaf member
  obtain ⟨name, rest, here⟩ := named_of_mem_fieldLeaves member
  rw [here] at steps ⊢
  exact Path.ofText_text steps

/-- The flat object has an entry for each leaf, and nothing else. -/
theorem flatten_perm {fields : Dict Value} (plain : HasPlainPaths (fieldLeaves fields)) :
    (flatten (.object fields)).Perm ((fieldLeaves fields).map fun leaf => (leaf.1.text, leaf.2)) := by
  refine Dict.ofList_perm ?_
  rw [List.map_map]
  have texts : (fieldLeaves fields).map ((fun entry : String × Value => entry.1) ∘ fun leaf => (leaf.1.text, leaf.2)) =
      ((fieldLeaves fields).map (·.1)).map Path.text := by
    rw [List.map_map]
    rfl
  rw [texts]
  refine plain.1.map_on fun path first other second same => ?_
  obtain ⟨leaf, member, rfl⟩ := List.mem_map.mp first
  obtain ⟨leaf', member', rfl⟩ := List.mem_map.mp second
  rw [← ofText_text_of_mem plain member, same, ofText_text_of_mem plain member']

end Value

/-- A nested object is made again from the flat object of its leaves. The keys of the flat object are in the
order of their texts, so that `a[10]` is set before `a[2]`. -/
theorem unflatten_flatten {fields : List (String × Value)} (nested : (Value.object fields).IsNested) :
    unflatten (Value.object fields).flatten = .object fields := by
  obtain ⟨sorted, plain, each⟩ : Dict.Sorted fields ∧ (∀ field ∈ fields, IsPlainKey field.1) ∧
      ∀ field ∈ fields, field.2.IsNested := by
    cases nested with
    | leaf outer =>
      cases fields with
      | nil => exact ⟨.nil, nofun, nofun⟩
      | cons => exact nomatch outer
    | object sorted plain each => exact ⟨sorted, plain, each⟩
  have paths := Value.hasPlainPaths_fieldLeaves sorted plain fun field member => (each field member).hasPlainPaths
  let entries : Entries := (Value.object fields).flatten.map fun entry => (Path.ofText entry.1, entry.2)
  have whole : unflatten (Value.object fields).flatten = Value.setAll (.object []) entries := by
    rw [Value.setAll, List.foldl_map]
    rfl
  have same : entries.Perm (Value.fieldLeaves fields) := by
    have read : ((Value.fieldLeaves fields).map fun leaf => (leaf.1.text, leaf.2)).map
        (fun entry => (Path.ofText entry.1, entry.2)) = Value.fieldLeaves fields := by
      rw [List.map_map]
      refine (List.map_congr_left fun leaf member => ?_).trans (List.map_id _)
      rw [Function.comp_apply, Value.ofText_text_of_mem paths member]
      rfl
    exact read ▸ (Value.flatten_perm paths).map _
  rw [whole]
  exact Value.setAll_fieldLeaves sorted (fun field member => (each field member).isRemade) same

/-- The item of index 10 is set when there is but one item before it. -/
theorem unflatten_flatten_far :
    let items := List.replicate 10 Value.undefined ++ [.object [("b", .array []), ("c", .string "")]]
    (Value.object [("a", .array items)]).IsNested ∧
      (Value.object [("a", .array items)]).flatten.keys = ["a[0]", "a[10].b", "a[10].c", "a[1]", "a[2]", "a[3]",
        "a[4]", "a[5]", "a[6]", "a[7]", "a[8]", "a[9]"] ∧
      unflatten (Value.object [("a", .array items)]).flatten = .object [("a", .array items)] := by
  intro items
  have nested : (Value.object [("a", .array items)]).IsNested := by
    refine .object (List.pairwise_singleton ..) (List.forall_mem_singleton.mpr (by decide))
      (List.forall_mem_singleton.mpr (.array (by decide) fun v member => ?_))
    rcases List.mem_append.mp member with here | here
    · rw [List.eq_of_mem_replicate here]
      exact .leaf rfl
    · rw [List.mem_singleton.mp here]
      refine .object (by unfold Dict.Sorted; decide) (by decide) fun field member => .leaf ?_
      simp only [List.mem_cons, List.not_mem_nil, or_false] at member
      rcases member with rfl | rfl <;> rfl
  exact ⟨nested, by decide +kernel, unflatten_flatten nested⟩

end Reckoner
