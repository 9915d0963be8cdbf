/-!
# Ordered indexes

Values by name, the names ascending. Putting a value in replaces the one of its name.
-/

namespace TypedSheets

/-- Values by ascending name. -/
structure Index (α : Type) where
  entries : List (String × α)

namespace Index

variable {α : Type}

def empty : Index α := ⟨[]⟩

/-- Put a value into its place among ascending names. -/
def insertEntry (name : String) (value : α) : List (String × α) → List (String × α)
  | [] => [(name, value)]
  | (other, held) :: entries =>
      if other = name then (name, value) :: entries
      else if name < other then (name, value) :: (other, held) :: entries
      else (other, held) :: insertEntry name value entries

/-- Put a value under a name. -/
def insert (index : Index α) (name : String) (value : α) : Index α :=
  ⟨insertEntry name value index.entries⟩

/-- The value of a name. -/
def get? (index : Index α) (name : String) : Option α :=
  index.entries.lookup name

/-- Take a name out. -/
def erase (index : Index α) (name : String) : Index α :=
  ⟨index.entries.filter fun entry => entry.1 != name⟩

/-- Change the value of a name, if there is one. -/
def modify (index : Index α) (name : String) (change : α → α) : Index α :=
  ⟨index.entries.map fun entry => if entry.1 = name then (entry.1, change entry.2) else entry⟩

def names (index : Index α) : List String := index.entries.map Prod.fst

def values (index : Index α) : List α := index.entries.map Prod.snd

def size (index : Index α) : Nat := index.entries.length

@[simp] theorem get?_empty (name : String) : (empty : Index α).get? name = none := rfl

theorem lookup_insertEntry (name other : String) (value : α) (entries : List (String × α)) :
    (insertEntry name value entries).lookup other
      = if other = name then some value else entries.lookup other := by
  induction entries with
  | nil => by_cases same : other = name <;> simp [insertEntry, same]
  | cons entry entries ih =>
      obtain ⟨key, held⟩ := entry
      simp only [insertEntry]
      by_cases here : key = name
      · subst here
        by_cases same : other = key
        · subst same; simp
        · simp [List.lookup_cons, same, beq_eq_false_iff_ne.mpr same]
      · rw [if_neg here]
        by_cases before : name < key
        · rw [if_pos before]
          by_cases same : other = name
          · subst same; simp
          · simp [List.lookup_cons, same, beq_eq_false_iff_ne.mpr same]
        · rw [if_neg before]
          by_cases same : other = key
          · subst same; simp [here]
          · simp [List.lookup_cons, ih, beq_eq_false_iff_ne.mpr same]

/-- What a name holds after a value was put in. -/
@[simp] theorem get?_insert (index : Index α) (name other : String) (value : α) :
    (index.insert name value).get? other = if other = name then some value else index.get? other :=
  lookup_insertEntry name other value index.entries

/-- What a name holds after the value of a name was changed. -/
@[simp] theorem get?_modify (index : Index α) (name other : String) (change : α → α) :
    (index.modify name change).get? other
      = if other = name then (index.get? other).map change else index.get? other := by
  obtain ⟨entries⟩ := index
  simp only [modify, get?]
  induction entries with
  | nil => simp
  | cons entry entries ih =>
      obtain ⟨key, held⟩ := entry
      by_cases same : other = key
      · subst same
        by_cases here : other = name <;> simp [here]
      · have differs : (other == key) = false := beq_eq_false_iff_ne.mpr same
        rw [List.map_cons, List.lookup_cons]
        by_cases here : key = name
        · rw [if_pos here]
          simp only [differs, ih, List.lookup_cons]
        · rw [if_neg here]
          simp only [differs, ih, List.lookup_cons]

/-- Changing a value keeps the names. -/
@[simp] theorem names_modify (index : Index α) (name : String) (change : α → α) :
    (index.modify name change).names = index.names := by
  simp only [modify, names, List.map_map]
  apply List.map_congr_left
  intro entry member
  by_cases here : entry.1 = name <;> simp [here]

end Index

end TypedSheets
