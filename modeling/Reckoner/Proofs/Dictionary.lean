import Mathlib.Data.List.Sort
import Reckoner.Dict

namespace Reckoner.Dict

variable {α : Type}

@[simp]
theorem find?_nil (key : String) : find? ([] : Dict α) key = none := rfl

theorem find?_cons (key name : String) (value : α) (rest : Dict α) :
    find? ((name, value) :: rest) key = if key = name then some value else find? rest key := by
  unfold find?
  rw [List.lookup_cons]
  by_cases same : key = name
  · simp [same]
  · simp [same, beq_eq_false_iff_ne.mpr same]

/-- Reading behind a write. The order of the names plays no part. -/
theorem find?_insert (key name : String) (value : α) (d : Dict α) :
    (d.insert name value).find? key = if key = name then some value else d.find? key := by
  induction d with
  | nil => simp [insert, find?_cons]
  | cons entry rest ih =>
    obtain ⟨k, v⟩ := entry
    unfold insert
    split
    · rw [find?_cons]
    · split
      · rename_i same
        subst same
        simp only [find?_cons]
        split <;> rfl
      · rename_i other
        rw [find?_cons, ih, find?_cons]
        by_cases atKey : key = k
        · subst atKey
          simp [Ne.symm other]
        · simp [atKey]

theorem contains_insert (key name : String) (value : α) (d : Dict α) :
    (d.insert name value).contains key = (key == name || d.contains key) := by
  unfold contains
  rw [find?_insert]
  by_cases same : key = name <;> simp [same]

theorem contains_eq_false_iff {d : Dict α} {key : String} : d.contains key = false ↔ d.find? key = none := by
  rw [contains, Option.isSome_eq_false_iff, Option.isNone_iff_eq_none]

theorem mem_insert {entry : String × α} {name : String} {value : α} {d : Dict α}
    (member : entry ∈ d.insert name value) : entry = (name, value) ∨ entry ∈ d := by
  induction d with
  | nil => exact Or.inl (List.mem_singleton.mp member)
  | cons first rest ih =>
    obtain ⟨k, v⟩ := first
    unfold insert at member
    split at member
    · exact List.mem_cons.mp member
    · split at member
      · rcases List.mem_cons.mp member with new | old
        · exact Or.inl new
        · exact Or.inr (List.mem_cons_of_mem _ old)
      · rcases List.mem_cons.mp member with here | later
        · exact Or.inr (here ▸ List.mem_cons_self ..)
        · exact (ih later).imp_right (List.mem_cons_of_mem _)

theorem mem_of_find? {d : Dict α} {key : String} {value : α} (found : d.find? key = some value) :
    (key, value) ∈ d := by
  obtain ⟨front, back, split, _⟩ := List.lookup_eq_some_iff.mp found
  exact split ▸ List.mem_append_right _ (List.mem_cons_self ..)

/-- All values of a dictionary have a property. -/
def All (P : α → Prop) (d : Dict α) : Prop := ∀ entry ∈ d, P entry.2

theorem All.find? {P : α → Prop} {d : Dict α} (all : d.All P) {key : String} {value : α}
    (found : d.find? key = some value) : P value :=
  all _ (mem_of_find? found)

theorem All.insert {P : α → Prop} {d : Dict α} (all : d.All P) (name : String) {value : α} (given : P value) :
    (d.insert name value).All P := by
  intro entry member
  rcases mem_insert member with new | old
  · exact new ▸ given
  · exact all entry old

theorem Sorted.insert {d : Dict α} (sorted : d.Sorted) (name : String) (value : α) :
    (d.insert name value).Sorted := by
  induction d with
  | nil => exact List.pairwise_singleton ..
  | cons first rest ih =>
    obtain ⟨k, v⟩ := first
    obtain ⟨above, tail⟩ := List.pairwise_cons.mp sorted
    unfold Dict.insert
    split
    · rename_i before
      refine List.pairwise_cons.mpr ⟨fun entry member => ?_, sorted⟩
      rcases List.mem_cons.mp member with here | later
      · exact here ▸ before
      · exact String.lt_trans before (above entry later)
    · split
      · rename_i same
        subst same
        exact List.pairwise_cons.mpr ⟨above, tail⟩
      · rename_i notBefore other
        refine List.pairwise_cons.mpr ⟨fun entry member => ?_, ih tail⟩
        rcases mem_insert member with new | old
        · subst new
          exact Std.lt_of_le_of_ne (String.not_lt.mp notBefore) (Ne.symm other)
        · exact above entry old

theorem insert_comm {key other : String} (different : key ≠ other) (value otherValue : α) (d : Dict α) :
    (d.insert key value).insert other otherValue = (d.insert other otherValue).insert key value := by
  induction d with
  | nil => grind [insert]
  | cons first rest ih =>
    obtain ⟨k, v⟩ := first
    grind [insert]

theorem Sorted.mem_iff {d : Dict α} (sorted : d.Sorted) {key : String} {value : α} :
    (key, value) ∈ d ↔ d.find? key = some value := by
  induction d with
  | nil => simp
  | cons first rest ih =>
    obtain ⟨k, v⟩ := first
    obtain ⟨above, tail⟩ := List.pairwise_cons.mp sorted
    rw [List.mem_cons, find?_cons, ih tail, Prod.mk.injEq]
    by_cases here : key = k
    · subst here
      have once : find? rest key ≠ some value := fun found =>
        String.lt_irrefl key (above (key, value) ((ih tail).mpr found))
      simp [once, eq_comm]
    · simp [here]

/-- What can be read is all that there is to a sorted dictionary. -/
theorem Sorted.ext {d e : Dict α} (sorted : d.Sorted) (other : e.Sorted)
    (same : ∀ key, d.find? key = e.find? key) : d = e := by
  have irreflexive : Std.Irrefl fun a b : String × α => a.1 < b.1 := ⟨fun a => String.lt_irrefl a.1⟩
  have antisymmetric : Std.Antisymm fun a b : String × α => a.1 < b.1 :=
    ⟨fun a _ before behind => absurd (String.lt_trans before behind) (String.lt_irrefl a.1)⟩
  refine List.Pairwise.eq_of_mem_iff sorted other fun (key, value) => ?_
  rw [sorted.mem_iff, other.mem_iff, same]

theorem ofList_eq_foldl (entries : List (String × α)) :
    ofList entries = entries.foldl (fun d entry => Dict.insert entry.1 entry.2 d) [] := rfl

theorem sorted_ofList (entries : List (String × α)) : (ofList entries).Sorted := by
  rw [ofList_eq_foldl]
  suffices fold : ∀ d : Dict α, d.Sorted →
      (entries.foldl (fun d entry => Dict.insert entry.1 entry.2 d) d).Sorted from fold [] .nil
  induction entries with
  | nil => exact fun _ sorted => sorted
  | cons entry rest ih => exact fun d sorted => ih _ (sorted.insert _ _)

theorem mem_ofList {entry : String × α} {entries : List (String × α)} (member : entry ∈ ofList entries) :
    entry ∈ entries := by
  rw [ofList_eq_foldl] at member
  suffices fold : ∀ d : Dict α, entry ∈ entries.foldl (fun d entry => Dict.insert entry.1 entry.2 d) d →
      entry ∈ d ∨ entry ∈ entries from (fold [] member).resolve_left List.not_mem_nil
  clear member
  induction entries with
  | nil => exact fun d member => Or.inl member
  | cons first rest ih =>
    intro d member
    rcases ih _ member with inside | later
    · rcases mem_insert inside with here | before
      · exact Or.inr (here ▸ List.mem_cons_self ..)
      · exact Or.inl before
    · exact Or.inr (List.mem_cons_of_mem _ later)

/-- Of several entries with one name the last one is read. -/
theorem find?_ofList (entries : List (String × α)) (key : String) :
    (ofList entries).find? key = entries.reverse.lookup key := by
  rw [ofList_eq_foldl]
  suffices fold : ∀ d : Dict α,
      (entries.foldl (fun d entry => Dict.insert entry.1 entry.2 d) d).find? key =
        (entries.reverse.lookup key).or (d.find? key) by
    rw [fold []]
    exact Option.or_none
  induction entries with
  | nil => exact fun _ => rfl
  | cons entry rest ih =>
    intro d
    obtain ⟨name, value⟩ := entry
    rw [List.foldl_cons, ih, List.reverse_cons, List.lookup_append, find?_insert, Option.or_assoc]
    by_cases same : key = name
    · simp [same]
    · simp [same, List.lookup_cons, beq_eq_false_iff_ne.mpr same]

theorem find?_ofList_map (names : List String) (value : α) (key : String) :
    (ofList (names.map (·, value))).find? key = if key ∈ names then some value else none := by
  rw [find?_ofList, ← List.map_reverse]
  have among : key ∈ names ↔ key ∈ names.reverse := List.mem_reverse.symm
  simp only [among]
  generalize names.reverse = names
  induction names with
  | nil => rfl
  | cons name rest ih =>
    rw [List.map_cons, List.lookup_cons, ih]
    by_cases same : key = name
    · simp [same]
    · simp [same, beq_eq_false_iff_ne.mpr same]

theorem ofList_map_congr {names others : List String} (same : ∀ name, name ∈ names ↔ name ∈ others) (value : α) :
    ofList (names.map (·, value)) = ofList (others.map (·, value)) :=
  (sorted_ofList _).ext (sorted_ofList _) fun key => by simp only [find?_ofList_map, same]

theorem insert_perm {d : Dict α} {key : String} (absent : ∀ entry ∈ d, entry.1 ≠ key) (value : α) :
    (d.insert key value).Perm ((key, value) :: d) := by
  induction d with
  | nil => exact .refl _
  | cons first rest ih =>
    obtain ⟨k, v⟩ := first
    obtain ⟨here, later⟩ := List.forall_mem_cons.mp absent
    unfold insert
    split
    · exact .refl _
    · rw [if_neg (Ne.symm here)]
      exact ((ih later).cons _).trans (.swap ..)

/-- Of names that occur once each, all entries are kept. -/
theorem ofList_perm {entries : List (String × α)} (once : (entries.map (·.1)).Nodup) :
    (ofList entries).Perm entries := by
  rw [ofList_eq_foldl]
  suffices fold : ∀ d : Dict α, ((d ++ entries).map (·.1)).Nodup →
      (entries.foldl (fun d entry => Dict.insert entry.1 entry.2 d) d).Perm (d ++ entries) from fold [] once
  clear once
  induction entries with
  | nil =>
    intro d _
    rw [List.append_nil]
    exact .refl d
  | cons entry rest ih =>
    intro d once
    have absent : ∀ other ∈ d, other.1 ≠ entry.1 := fun other member same => by
      rw [List.map_append, List.nodup_append] at once
      exact once.2.2 _ (List.mem_map_of_mem member) _ (List.mem_cons_self ..) same
    have moved : (d.insert entry.1 entry.2 ++ rest).Perm (d ++ entry :: rest) :=
      ((insert_perm absent entry.2).append_right rest).trans List.perm_middle.symm
    exact (ih _ ((moved.map _).nodup_iff.mpr once)).trans moved

/-- A name behind all names of a dictionary is written at its end. -/
theorem insert_above {d : Dict α} {name : String} (above : ∀ entry ∈ d, entry.1 < name) (value : α) :
    d.insert name value = d ++ [(name, value)] := by
  induction d with
  | nil => rfl
  | cons first rest ih =>
    obtain ⟨k, v⟩ := first
    have below : k < name := above (k, v) (List.mem_cons_self ..)
    have notBefore : ¬ name < k := fun before => String.lt_irrefl k (String.lt_trans below before)
    have distinct : name ≠ k := fun same => String.lt_irrefl k (same ▸ below)
    rw [insert, if_neg notBefore, if_neg distinct,
      ih fun entry member => above entry (List.mem_cons_of_mem _ member)]
    rfl

/-- Writing the entries of a sorted dictionary in their order gives the dictionary back. -/
theorem ofList_eq_self {d : Dict α} (sorted : d.Sorted) : ofList d = d := by
  rw [ofList_eq_foldl]
  suffices fold : ∀ front : Dict α, Sorted (front ++ d) →
      d.foldl (fun d entry => Dict.insert entry.1 entry.2 d) front = front ++ d from fold [] sorted
  clear sorted
  induction d with
  | nil => exact fun front _ => (List.append_nil front).symm
  | cons entry rest ih =>
    intro front sorted
    have above : ∀ other ∈ front, other.1 < entry.1 := fun other member =>
      (List.pairwise_append.mp sorted).2.2 other member entry (List.mem_cons_self ..)
    simp only [List.foldl_cons]
    rw [insert_above above, ih _ (by simpa using sorted), List.append_assoc]
    rfl

end Reckoner.Dict
