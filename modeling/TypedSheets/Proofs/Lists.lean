import Mathlib.Data.List.Forall2

/-!
# Lists that belong together

A map that may fail gives a list of values that belong to its items one by one, so what holds
of a value and its item alike holds of all values and all items alike.
-/

namespace TypedSheets

/-- A map that may fail gives its values item by item. -/
theorem forall₂_of_mapM {α β : Type} {image : α → Option β} {items : List α} {values : List β}
    (mapped : items.mapM image = some values) :
    List.Forall₂ (fun item value => image item = some value) items values := by
  induction items generalizing values with
  | nil =>
      obtain rfl : [] = values := by simpa using mapped
      exact .nil
  | cons item items ih =>
      rw [List.mapM_cons] at mapped
      rcases Option.bind_eq_some_iff.mp mapped with ⟨value, first, mapped⟩
      rcases Option.bind_eq_some_iff.mp mapped with ⟨rest, others, mapped⟩
      obtain rfl := Option.some.inj mapped
      exact .cons first (ih others)

/-- Every value belongs to an item. -/
theorem exists_of_mem_forall₂ {α β : Type} {relation : α → β → Prop} {items : List α}
    {values : List β} (pairs : List.Forall₂ relation items values) {value : β}
    (member : value ∈ values) : ∃ item ∈ items, relation item value := by
  induction pairs with
  | nil => simp at member
  | cons pair _ ih =>
      rcases List.mem_cons.mp member with rfl | later
      · exact ⟨_, List.mem_cons_self, pair⟩
      · rcases ih later with ⟨item, inside, same⟩
        exact ⟨item, List.mem_cons_of_mem _ inside, same⟩

/-- Every value of such a map comes from an item. -/
theorem exists_of_mem_mapM {α β : Type} {image : α → Option β} {items : List α} {values : List β}
    (mapped : items.mapM image = some values) {value : β} (member : value ∈ values) :
    ∃ item ∈ items, image item = some value :=
  exists_of_mem_forall₂ (forall₂_of_mapM mapped) member

/-- A map that may fail does so if it fails for an item. -/
theorem mapM_eq_none_iff {α β : Type} {image : α → Option β} {items : List α} :
    items.mapM image = none ↔ ∃ item ∈ items, image item = none := by
  induction items with
  | nil => simp
  | cons item items ih =>
      rw [List.mapM_cons]
      cases made : image item with
      | none => simp [made]
      | some value =>
          have first : (∃ other ∈ item :: items, image other = none)
              ↔ ∃ other ∈ items, image other = none := by simp [made]
          rw [first, ← ih]
          cases items.mapM image <;> simp

/-- Of two lists that belong together item by item, one satisfies what the other does. -/
theorem forall_mem_iff_of_forall₂ {α β : Type} {relation : α → β → Prop} {holds : β → Prop}
    {condition : α → Prop} {items : List α} {values : List β}
    (pairs : List.Forall₂ relation items values)
    (agree : ∀ item value, relation item value → (holds value ↔ condition item)) :
    (∀ value ∈ values, holds value) ↔ ∀ item ∈ items, condition item := by
  induction pairs with
  | nil => simp
  | cons pair _ ih => rw [List.forall_mem_cons, List.forall_mem_cons, agree _ _ pair, ih]

end TypedSheets
