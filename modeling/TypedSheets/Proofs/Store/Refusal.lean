import TypedSheets.Proofs.Store.Reopening

/-!
# Refused calls

No refused call changes a file. Saving changes the memory last, so a store answers after a
refused save as it did before. Deleting changes the memory first: an asset whose file cannot
be removed is forgotten although the call is refused and its file stays.
-/

namespace TypedSheets

namespace Files

variable {files after : Files} {path : String}

/-- Making directories changes no file. -/
theorem contents_makeDirectories (made : files.makeDirectories path = .ok after) :
    after.contents = files.contents := by
  rw [makeDirectories] at made
  split at made
  · cases made
  · split at made
    · cases made
    · rcases exists_directories_of_makeDown made with ⟨more, rfl⟩
      rfl

end Files

namespace Store

/-- Whether stores cannot be told apart by listing and loading assets. -/
def AnswersAlike (left right : Store) : Prop :=
  left.list = right.list ∧ ∀ name, left.load name = right.load name

/-- Why an operation was refused and what it left, if it was. -/
def afterRefusal? {α : Type} :
    Except StoreError α × Files × Store → Option (StoreError × Files × Store)
  | (.ok _, _) => none
  | (.error reason, after) => some (reason, after)

/-- Why a call is refused and what it leaves, if it is. -/
def Call.refused? (files : Files) (store : Store) : Call → Option (StoreError × Files × Store)
  | .saveRecord now record => afterRefusal? (store.save files (assetOfRecord now record))
  | .saveTable now name table => afterRefusal? (store.save files (assetOfTable now name table))
  | .delete name => afterRefusal? (store.delete files name)

variable {files after : Files} {store left : Store} {reason : StoreError}

/-- A refused save leaves the memory and the files. -/
theorem kept_of_refused_save {asset : Asset}
    (refused : afterRefusal? (store.save files asset) = some (reason, after, left)) :
    left = store ∧ after.contents = files.contents := by
  rw [Store.save] at refused
  split at refused
  · cases refused
    exact ⟨rfl, rfl⟩
  · next made =>
      split at refused
      · cases refused
        exact ⟨rfl, Files.contents_makeDirectories made⟩
      · cases refused

/-- A refused deletion leaves the files, but the asset is forgotten. -/
theorem forgotten_of_refused_delete {name : String}
    (refused : afterRefusal? (store.delete files name) = some (reason, after, left)) :
    after = files ∧ left = { store with assets := store.assets.erase name } := by
  rw [Store.delete] at refused
  split at refused
  · next missing =>
      cases refused
      rw [Index.erase_of_get?_eq_none missing]
      exact ⟨rfl, rfl⟩
  · simp only at refused
    split at refused
    · cases refused
      exact ⟨rfl, rfl⟩
    · cases refused

theorem load_erase (store : Store) (name other : String) :
    ({ store with assets := store.assets.erase name } : Store).load other
      = if other = name then .error (.notFound other) else store.load other := by
  by_cases here : other = name
  · simp [load, here]
  · simp [load, here]

/-- A store answers alike without an asset exactly when it did not hold it. -/
theorem answersAlike_erase_iff {name : String} :
    ({ store with assets := store.assets.erase name } : Store).AnswersAlike store
      ↔ store.assets.get? name = none := by
  constructor
  · rintro ⟨-, same⟩
    have lost := same name
    rw [load_erase, if_pos rfl, load] at lost
    split at lost
    · cases lost
    · next missing => exact missing
  · intro missing
    rw [Index.erase_of_get?_eq_none missing]
    exact ⟨rfl, fun _ => rfl⟩

/-- A refused call changes no file, and a store answers after it as before, unless the call
deletes an asset that the store holds: this asset is forgotten. -/
theorem refused_answersAlike_iff {call : Call}
    (refused : call.refused? files store = some (reason, after, left)) :
    after.contents = files.contents
      ∧ (left.AnswersAlike store ↔ ∀ name, call = .delete name → store.assets.get? name = none)
      ∧ ∀ name, call = .delete name → left = { store with assets := store.assets.erase name } := by
  cases call with
  | saveRecord now record =>
      obtain ⟨rfl, kept⟩ := kept_of_refused_save refused
      exact ⟨kept, ⟨nofun, fun _ => ⟨rfl, fun _ => rfl⟩⟩, nofun⟩
  | saveTable now name table =>
      obtain ⟨rfl, kept⟩ := kept_of_refused_save refused
      exact ⟨kept, ⟨nofun, fun _ => ⟨rfl, fun _ => rfl⟩⟩, nofun⟩
  | delete name =>
      obtain ⟨rfl, rfl⟩ := forgotten_of_refused_delete refused
      simp only [Call.delete.injEq, forall_eq', true_and, and_true]
      exact answersAlike_erase_iff

/-- An item that is saved under its number. -/
def sampleItem : Record := ⟨"Item", some "Item_1", some 1, [("id", .int 1)]⟩

/-- A store that holds this item, in a directory that does not exist. -/
def strandedStore : Store :=
  ⟨"store", Index.empty.insert "Item_1" (assetOfRecord "2024-01-01T00:00:00+00:00" sampleItem)⟩

/-- Files of which one has the path of the directory of the store. -/
def blockingFiles : Files := { Files.empty with contents := [(["work", "store"], ⟨#[]⟩)] }

/-- Saving again is refused there, and the item of before is still listed and loaded. -/
theorem strandedStore_answers_after_refused_save :
    ∃ reason after left,
      (Call.saveRecord "2024-01-02T00:00:00+00:00" sampleItem).refused? blockingFiles strandedStore
          = some (reason, after, left)
        ∧ after.contents = blockingFiles.contents ∧ left.AnswersAlike strandedStore := by
  have refused : ((Call.saveRecord "2024-01-02T00:00:00+00:00" sampleItem).refused? blockingFiles
      strandedStore).isSome := by
    decide +kernel
  rcases Option.isSome_iff_exists.mp refused with ⟨⟨reason, after, left⟩, refused⟩
  rcases refused_answersAlike_iff refused with ⟨kept, alike_iff, -⟩
  exact ⟨reason, after, left, refused, kept, alike_iff.mpr nofun⟩

/-- Deleting it is refused where it has no file, and the item is neither listed nor loaded any
more. -/
theorem strandedItem_forgotten :
    ∃ reason after left,
      (Call.delete "Item_1").refused? Files.empty strandedStore = some (reason, after, left)
        ∧ ¬left.AnswersAlike strandedStore := by
  have refused : ((Call.delete "Item_1").refused? Files.empty strandedStore).isSome := by
    decide +kernel
  have held : strandedStore.assets.get? "Item_1" ≠ none := nofun
  rcases Option.isSome_iff_exists.mp refused with ⟨⟨reason, after, left⟩, refused⟩
  have deleted : afterRefusal? (strandedStore.delete Files.empty "Item_1")
      = some (reason, after, left) := refused
  obtain ⟨rfl, rfl⟩ := forgotten_of_refused_delete deleted
  exact ⟨reason, Files.empty, _, refused, mt answersAlike_erase_iff.mp held⟩

end Store

end TypedSheets
