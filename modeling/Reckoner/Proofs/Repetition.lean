namespace Reckoner

/-- Items written one after the other. -/
inductive Repeated {α τ : Type} (W : α → List τ → Prop) : List α → List τ → Prop
  | nil : Repeated W [] []
  | cons {a as t u} : W a t → Repeated W as u → Repeated W (a :: as) (t ++ u)

/-- Items written with a separator between them, and possibly one behind the last item. -/
inductive Separated {α τ : Type} (W : α → List τ → Prop) (comma : τ) : List α → List τ → Prop
  | nil : Separated W comma [] []
  | last {a t} : W a t → Separated W comma [a] t
  | cons {a as t u} : W a t → Separated W comma as u → Separated W comma (a :: as) (t ++ comma :: u)

/-- A writing behind a token. -/
inductive Behind {α τ : Type} (token : τ) (W : α → List τ → Prop) : α → List τ → Prop
  | intro {a t} : W a t → Behind token W a (token :: t)

variable {α β τ : Type} {S : α → List τ → Prop} {W B : β → List τ → Prop} {f : β → α → β}

theorem Repeated.snoc {as : List α} {t u : List τ} {a : α} (items : Repeated S as t) (item : S a u) :
    Repeated S (as ++ [a]) (t ++ u) := by
  induction items with
  | nil => simpa using Repeated.cons item .nil
  | cons first _ ih =>
    rw [List.append_assoc]
    exact .cons first ih

theorem Repeated.and {P : α → Prop} {as : List α} {t : List τ} (items : Repeated S as t) (each : ∀ a ∈ as, P a) :
    Repeated (fun a t => S a t ∧ P a) as t := by
  induction items with
  | nil => exact .nil
  | cons item _ ih =>
    exact .cons ⟨item, each _ List.mem_cons_self⟩ (ih fun a member => each a (List.mem_cons_of_mem _ member))

/-- What follows one item is the next one or what follows them all. -/
theorem Repeated.follow {Stops : List τ → Prop} {as : List α} {t rest : List τ} (items : Repeated S as t)
    (each : ∀ {a t rest}, S a t → Stops (t ++ rest)) (last : Stops rest) : Stops (t ++ rest) := by
  cases items with
  | nil => exact last
  | cons item _ =>
    rw [List.append_assoc]
    exact each item

theorem exists_repeated {as : List α} (each : ∀ a ∈ as, ∃ t, S a t) : ∃ t, Repeated S as t := by
  induction as with
  | nil => exact ⟨[], .nil⟩
  | cons a as ih =>
    obtain ⟨t, item⟩ := each a List.mem_cons_self
    obtain ⟨u, items⟩ := ih fun b member => each b (List.mem_cons_of_mem a member)
    exact ⟨t ++ u, .cons item items⟩

theorem exists_separated {as : List α} (comma : τ) (each : ∀ a ∈ as, ∃ t, S a t) :
    ∃ t, Separated S comma as t := by
  induction as with
  | nil => exact ⟨[], .nil⟩
  | cons a as ih =>
    obtain ⟨t, item⟩ := each a List.mem_cons_self
    obtain ⟨u, items⟩ := ih fun b member => each b (List.mem_cons_of_mem a member)
    exact ⟨t ++ comma :: u, .cons item items⟩

/-- What is written item by item, grouped from the left. -/
theorem Repeated.foldl (step : ∀ {b t a u}, W b t → S a u → W (f b a) (t ++ u)) {as : List α} {u : List τ}
    (items : Repeated S as u) {b : β} {t : List τ} (start : W b t) : W (as.foldl f b) (t ++ u) := by
  induction items generalizing b t with
  | nil => simpa using start
  | cons item _ ih =>
    rw [List.foldl_cons, ← List.append_assoc]
    exact ih (step start item)

/-- A writing that is grouped from the left is what it begins with and the items behind that. What is left when the last
item is cut off need not be a part of the whole, but its writing is shorter, and the induction is on that. -/
theorem exists_foldl
    (cut : ∀ {b t}, W b t → B b t ∨
      ∃ b' t' a u, W b' t' ∧ S a u ∧ u ≠ [] ∧ b = f b' a ∧ t = t' ++ u)
    {b : β} {t : List τ} (written : W b t) :
    ∃ first start rest u, B first start ∧ Repeated S rest u ∧ b = rest.foldl f first ∧ t = start ++ u := by
  induction length : t.length using Nat.strongRecOn generalizing b t with
  | ind n ih =>
    rcases cut written with base | ⟨b', t', a, u, left, item, nonempty, rfl, rfl⟩
    · exact ⟨b, t, [], [], base, .nil, rfl, (List.append_nil t).symm⟩
    · have positive := List.length_pos_iff.mpr nonempty
      have shorter : t'.length < n := by rw [← length, List.length_append]; omega
      obtain ⟨first, start, rest, v, base, items, rfl, rfl⟩ := ih t'.length shorter left rfl
      refine ⟨first, start, rest ++ [a], v ++ u, base, items.snoc item, ?_, List.append_assoc ..⟩
      rw [List.foldl_append, List.foldl_cons, List.foldl_nil]

end Reckoner
