import Mathlib
import TypedSheets.Proofs.Files.Location
import TypedSheets.Proofs.Table.Ascending
import TypedSheets.Proofs.Text.Bytes
import TypedSheets.Proofs.Value.RoundTrip
import TypedSheets.Store.Basic

/-!
# Opening a store again

A store and its directory change together: as long as every call succeeds, the directory
holds one file for each asset in memory, with the text of this asset, and no other file. So
a store that is opened on the directory later has the same assets.
-/

namespace TypedSheets

namespace Store

/-! ## Calls -/

/-- A call that changes a store. -/
inductive Call where
  | saveRecord (now : String) (record : Record)
  | saveTable (now name : String) (table : Table)
  | delete (name : String)

/-- What is left after an operation that succeeded. -/
def afterSuccess? {α : Type} : Except StoreError α × Files × Store → Option (Files × Store)
  | (.ok _, after) => some after
  | (.error _, _) => none

namespace Call

/-- What a call saves: a record as it is, under its name or else that of its class, or all records
of a table. -/
def asset? : Call → Option Asset
  | .saveRecord now record => some {
      name := record.assetName.getD record.typeName
      kind := .record
      className := record.typeName
      savedAt := now
      records := [record] }
  | .saveTable now name table => some {
      name
      kind := .table
      className := table.className
      savedAt := now
      records := table.records }
  | .delete _ => none

/-- The name that a call is about. -/
def name : Call → String
  | .saveRecord _ record => record.assetName.getD record.typeName
  | .saveTable _ name _ => name
  | .delete name => name

/-- The files and the store after a call, if it succeeds. -/
def run? (files : Files) (store : Store) : Call → Option (Files × Store)
  | .saveRecord now record => afterSuccess? (store.save files (assetOfRecord now record))
  | .saveTable now name table => afterSuccess? (store.save files (assetOfTable now name table))
  | .delete name => afterSuccess? (store.delete files name)

/-- The files and the store after a sequence of calls, if all of them succeed. -/
def runAll? (files : Files) (store : Store) : List Call → Option (Files × Store)
  | [] => some (files, store)
  | call :: calls => do
      let (files, store) ← call.run? files store
      runAll? files store calls

/-- What is stored under a name after calls, given what was stored before: what the last
call about the name saved. -/
def lastSaved (name : String) (before : Option Asset) (calls : List Call) : Option Asset :=
  calls.foldl (fun stored call => if name = call.name then call.asset? else stored) before

end Call

/-! ## Memory -/

variable {files after : Files} {store left : Store}

/-- Saving puts an asset into the memory. -/
theorem eq_of_saved {asset : Asset}
    (saved : afterSuccess? (store.save files asset) = some (after, left)) :
    left = { store with assets := store.assets.insert asset.name asset } := by
  rw [Store.save] at saved
  split at saved
  · cases saved
  · split at saved
    · cases saved
    · cases saved
      rfl

/-- Deleting takes an asset out of the memory. -/
theorem eq_of_deleted {name : String}
    (deleted : afterSuccess? (store.delete files name) = some (after, left)) :
    left = { store with assets := store.assets.erase name } := by
  rw [Store.delete] at deleted
  split at deleted
  · cases deleted
  · simp only at deleted
    split at deleted
    · cases deleted
    · cases deleted
      rfl

/-- What a call does to what is stored under each name. -/
theorem Call.get?_run {call : Call} (ran : call.run? files store = some (after, left)) :
    left.directory = store.directory
      ∧ ∀ name, left.assets.get? name
          = if name = call.name then call.asset? else store.assets.get? name := by
  cases call with
  | saveRecord now record =>
      obtain rfl := eq_of_saved ran
      exact ⟨rfl, fun name => Index.get?_insert ..⟩
  | saveTable now name table =>
      obtain rfl := eq_of_saved ran
      exact ⟨rfl, fun name => Index.get?_insert ..⟩
  | delete name =>
      obtain rfl := eq_of_deleted ran
      exact ⟨rfl, fun name => Index.get?_erase ..⟩

theorem Call.get?_runAll {calls : List Call}
    (ran : Call.runAll? files store calls = some (after, left)) :
    left.directory = store.directory
      ∧ ∀ name, left.assets.get? name = Call.lastSaved name (store.assets.get? name) calls := by
  induction calls generalizing files store with
  | nil =>
      cases ran
      exact ⟨rfl, fun _ => rfl⟩
  | cons call calls ih =>
      rw [Call.runAll?] at ran
      rcases Option.bind_eq_some_iff.mp ran with ⟨⟨between, middle⟩, step, rest⟩
      rcases Call.get?_run step with ⟨sameDirectory, stored⟩
      rcases ih rest with ⟨stays, lasts⟩
      refine ⟨stays.trans sameDirectory, fun name => ?_⟩
      rw [lasts, stored]
      rfl

/-! ## Files of assets -/

/-- The name of the file of an asset. -/
def fileOf (name : String) : String := name ++ ".json"

theorem fileOf_inj {left right : String} : fileOf left = fileOf right ↔ left = right := by
  constructor
  · intro same
    have characters := congrArg String.toList same
    simp only [fileOf, String.toList_append] at characters
    exact String.toList_injective (List.append_cancel_right characters)
  · exact congrArg fileOf

theorem toList_fileOf (name : String) : (fileOf name).toList = name.toList ++ ".json".toList :=
  String.toList_append

theorem isPart_fileOf {name : String} (whole : '/' ∉ name.toList) :
    Path.IsPart (fileOf name) := by
  have long : 5 ≤ (fileOf name).toList.length := by
    rw [toList_fileOf, List.length_append]
    exact Nat.le_add_left ..
  refine ⟨?_, ?_, ?_⟩
  · intro nothing
    rw [nothing] at long
    exact absurd long (by decide)
  · intro dot
    rw [dot] at long
    exact absurd long (by decide)
  · rw [toList_fileOf, List.mem_append, not_or]
    exact ⟨whole, by decide⟩

theorem fileOf_ne_parent (name : String) : fileOf name ≠ ".." := by
  intro dots
  have characters := congrArg (fun text => text.toList.length) dots
  simp [toList_fileOf] at characters

theorem extension?_fileOf {name : String} (some : name ≠ "") :
    Path.extension? (fileOf name) = .some "json" := by
  have begins : name.toList ≠ [] := by simpa using some
  rcases List.exists_cons_of_ne_nil begins with ⟨first, others, characters⟩
  have cut : Text.splitLast? '.' (fileOf name).toList = .some (name.toList, "json".toList) := by
    rw [toList_fileOf]
    exact Text.splitLast?_append_cons name.toList (by decide)
  rw [Path.extension?, if_neg (fileOf_ne_parent name), cut, characters]
  rfl

end Store

/-- Whether an asset can be kept in a file: its name is one part of a path, and its text is
read as the asset. -/
structure Asset.Keepable (asset : Asset) : Prop where
  named : asset.name ≠ ""
  whole : '/' ∉ asset.name.toList
  storable : Storable asset.floats asset.rows asset.toJson

namespace Store

theorem assetOfFile?_of_keepable {asset : Asset} (keepable : asset.Keepable) :
    assetOfFile? (fileOf asset.name, asset.write.toUTF8) = some asset := by
  have read := (Asset.read?_texts keepable.storable).2
  rw [assetOfFile?, if_pos (extension?_fileOf keepable.named), Text.Utf8.fromUTF8?_toUTF8,
    Option.bind_some, read]

/-! ## The directory as a mirror -/

/-- The files of a directory are those of the assets in a store. -/
structure Mirrors (directory : Parts) (files : Files) (store : Store) : Prop where
  located : files.locate store.directory = .ok (.directory directory)
  ascending : store.assets.Ascending
  kept : ∀ name asset, store.assets.get? name = some asset → asset.name = name ∧ asset.Keepable
  distinct : ((Files.held directory files.contents).map Prod.fst).Nodup
  mem_held_iff : ∀ file content, (file, content) ∈ Files.held directory files.contents
    ↔ ∃ asset, store.assets.get? asset.name = some asset ∧ file = fileOf asset.name
      ∧ content = asset.write.toUTF8

variable {directory : Parts}

/-- Saving puts the file of an asset into the directory. -/
theorem Mirrors.save (mirrors : Mirrors directory files store) {asset : Asset}
    (keepable : asset.Keepable)
    (saved : afterSuccess? (store.save files asset) = some (after, left)) :
    Mirrors directory after left := by
  obtain rfl := eq_of_saved saved
  rw [Store.save, Files.makeDirectories_of_locate mirrors.located] at saved
  simp only [Files.writeText] at saved
  split at saved
  · cases saved
  · next written =>
      cases saved
      obtain rfl := Files.write_join (.of_locate mirrors.located) (isPart_fileOf keepable.whole)
        (fileOf_ne_parent asset.name) written
      exact {
        located := Files.locate_with_contents _ mirrors.located
        ascending := mirrors.ascending.insert _ _
        kept := by
          intro name other held
          rw [Index.get?_insert] at held
          split at held
          · next here =>
              cases held
              exact ⟨here.symm, keepable⟩
          · exact mirrors.kept name other held
        distinct := Files.nodup_held_putContent mirrors.distinct
        mem_held_iff := by
          intro file content
          rw [Files.mem_held_putContent mirrors.distinct, mirrors.mem_held_iff]
          constructor
          · rintro (same | ⟨⟨other, held, rfl, rfl⟩, different⟩)
            · rcases Prod.mk.inj same with ⟨rfl, rfl⟩
              exact ⟨asset, by rw [Index.get?_insert, if_pos rfl], rfl, rfl⟩
            · have names : other.name ≠ asset.name := fun same => different (congrArg fileOf same)
              exact ⟨other, by rw [Index.get?_insert, if_neg names, held], rfl, rfl⟩
          · rintro ⟨other, held, rfl, rfl⟩
            rw [Index.get?_insert] at held
            split at held
            · cases held
              exact .inl rfl
            · next different =>
                exact .inr ⟨⟨other, held, rfl, rfl⟩, fun same => different (fileOf_inj.mp same)⟩ }

/-- Deleting takes the file of an asset out of the directory. -/
theorem Mirrors.delete (mirrors : Mirrors directory files store) {name : String}
    (deleted : afterSuccess? (store.delete files name) = some (after, left)) :
    Mirrors directory after left := by
  obtain rfl := eq_of_deleted deleted
  rw [Store.delete] at deleted
  cases stored : store.assets.get? name with
  | none =>
      rw [stored] at deleted
      cases deleted
  | some asset =>
      rcases mirrors.kept name asset stored with ⟨rfl, keepable⟩
      simp only [stored] at deleted
      split at deleted
      · cases deleted
      · next removed =>
          cases deleted
          obtain rfl := Files.remove_join (.of_locate mirrors.located) (isPart_fileOf keepable.whole)
            (fileOf_ne_parent asset.name) removed
          exact {
            located := Files.locate_with_contents _ mirrors.located
            ascending := mirrors.ascending.erase _
            kept := by
              intro name other held
              rw [Index.get?_erase] at held
              split at held
              · cases held
              · exact mirrors.kept name other held
            distinct := by
              rw [Files.held_filter]
              exact mirrors.distinct.sublist (List.filter_sublist.map Prod.fst)
            mem_held_iff := by
              intro file content
              rw [Files.held_filter, List.mem_filter, mirrors.mem_held_iff]
              constructor
              · rintro ⟨⟨other, held, rfl, rfl⟩, different⟩
                have names : other.name ≠ asset.name := by
                  intro same
                  simp [same] at different
                exact ⟨other, by rw [Index.get?_erase, if_neg names, held], rfl, rfl⟩
              · rintro ⟨other, held, rfl, rfl⟩
                rw [Index.get?_erase] at held
                split at held
                · cases held
                · next different =>
                    refine ⟨⟨other, held, rfl, rfl⟩, ?_⟩
                    simpa [fileOf_inj] using different }

theorem Mirrors.run (mirrors : Mirrors directory files store) {call : Call}
    (keepable : ∀ asset ∈ call.asset?, asset.Keepable)
    (ran : call.run? files store = some (after, left)) : Mirrors directory after left := by
  cases call with
  | saveRecord now record => exact mirrors.save (keepable _ rfl) ran
  | saveTable now name table => exact mirrors.save (keepable _ rfl) ran
  | delete name => exact mirrors.delete ran

theorem Mirrors.runAll {calls : List Call} (mirrors : Mirrors directory files store)
    (keepable : ∀ call ∈ calls, ∀ asset ∈ call.asset?, asset.Keepable)
    (ran : Call.runAll? files store calls = some (after, left)) :
    left.directory = store.directory
      ∧ (∀ name, left.assets.get? name = Call.lastSaved name (store.assets.get? name) calls)
      ∧ Mirrors directory after left := by
  refine ⟨(Call.get?_runAll ran).1, (Call.get?_runAll ran).2, ?_⟩
  induction calls generalizing files store with
  | nil =>
      cases ran
      exact mirrors
  | cons call calls ih =>
      rcases List.forall_mem_cons.mp keepable with ⟨first, others⟩
      rw [Call.runAll?] at ran
      rcases Option.bind_eq_some_iff.mp ran with ⟨⟨between, middle⟩, step, rest⟩
      exact ih (mirrors.run first step) others rest

/-! ## Opening -/

/-- A store that is opened on a directory equals the one whose assets the directory holds. -/
theorem Mirrors.ofDirectory_eq (mirrors : Mirrors directory files store) :
    ofDirectory files store.directory = store := by
  -- The order of the files does not matter: each is read as what is held under its name.
  generalize order : (fun left right : String × ByteArray => !decide (right.1 < left.1)) = before
  have found := Files.filesIn_of_locate mirrors.located
  rw [order] at found
  have read_iff : ∀ asset,
      asset ∈ ((Files.held directory files.contents).mergeSort before).filterMap assetOfFile?
        ↔ store.assets.get? asset.name = some asset := by
    intro asset
    rw [List.mem_filterMap]
    constructor
    · rintro ⟨⟨file, content⟩, member, read⟩
      rw [List.mem_mergeSort, mirrors.mem_held_iff] at member
      rcases member with ⟨other, stored, rfl, rfl⟩
      rw [assetOfFile?_of_keepable (mirrors.kept _ _ stored).2] at read
      exact Option.some.inj read ▸ stored
    · intro stored
      refine ⟨(fileOf asset.name, asset.write.toUTF8), ?_,
        assetOfFile?_of_keepable (mirrors.kept _ _ stored).2⟩
      rw [List.mem_mergeSort, mirrors.mem_held_iff]
      exact ⟨asset, stored, rfl, rfl⟩
  simp only [ofDirectory, found]
  have assets : (((Files.held directory files.contents).mergeSort before).filterMap
      assetOfFile?).foldl (fun index asset => index.insert asset.name asset) Index.empty
        = store.assets := by
    apply (Index.ascending_empty.foldl_insert Asset.name _).ext mirrors.ascending
    intro name
    rw [Index.get?_foldl_insert fun asset member => (read_iff asset).mp member]
    cases stored : store.assets.get? name with
    | none => simp
    | some asset =>
        rw [if_pos]
        have named := (mirrors.kept name asset stored).1
        exact ⟨asset, (read_iff asset).mpr (by rw [named, stored]), named⟩
  rw [assets]

theorem mirrors_ofDirectory {path : String} (nothing : files.filesIn path = .ok []) :
    ofDirectory files path = ⟨path, Index.empty⟩
      ∧ ∃ directory, Mirrors directory files ⟨path, Index.empty⟩ := by
  rcases Files.exists_locate_of_filesIn nothing with ⟨directory, located⟩
  have held : Files.held directory files.contents = [] := by
    rw [Files.filesIn_of_locate located] at nothing
    have sorted := Except.ok.inj nothing
    exact List.eq_nil_of_length_eq_zero (by rw [← List.length_mergeSort, sorted]; rfl)
  refine ⟨by rw [ofDirectory, nothing]; rfl, directory, ?_⟩
  exact {
    located
    ascending := Index.ascending_empty
    kept := by
      intro name asset stored
      cases stored
    distinct := by simp [held]
    mem_held_iff := by simp [held] }

/-- After calls that all succeed on a store opened on an empty directory, the store holds
under each name what the last call about it saved, and a store opened on the directory again
is the same store. -/
theorem reopened_after_calls {path : String} {calls : List Call} {left : Store}
    (nothing : files.filesIn path = .ok [])
    (keepable : ∀ call ∈ calls, ∀ asset ∈ call.asset?, asset.Keepable)
    (ran : Call.runAll? files (ofDirectory files path) calls = some (after, left)) :
    ofDirectory after path = left
      ∧ ∀ name, left.assets.get? name = Call.lastSaved name none calls := by
  rcases mirrors_ofDirectory nothing with ⟨opened, directory, mirrors⟩
  rw [opened] at ran
  rcases mirrors.runAll keepable ran with ⟨stays, lasts, mirrors⟩
  have same := mirrors.ofDirectory_eq
  rw [stays] at same
  exact ⟨same, lasts⟩

/-- A record that is saved, saved again with another weight, and a table that is deleted. -/
def sampleCalls : List Call := [
  .saveRecord "2024-01-01T00:00:00+00:00"
    ⟨"Sword", some "Sword_1", some 1, [("weight", .float ⟨0x3FE0000000000000⟩)]⟩,
  .saveTable "2024-01-02T00:00:00+00:00" "Swords"
    (Table.ofRecords "Swords" ⟨"Sword", false, []⟩ .plainList [] [⟨"Sword", none, some 1, []⟩]),
  .saveRecord "2024-01-03T00:00:00+00:00"
    ⟨"Sword", some "Sword_1", some 1, [("weight", .float ⟨0x3FF0000000000000⟩)]⟩,
  .delete "Swords"]

theorem sampleCalls_reopened :
    Files.empty.filesIn "/work" = .ok []
      ∧ (∀ call ∈ sampleCalls, ∀ asset ∈ call.asset?, asset.Keepable)
      ∧ ∃ after left,
          Call.runAll? Files.empty (ofDirectory Files.empty "/work") sampleCalls = some (after, left)
            ∧ left.assets.names = ["Sword_1"] ∧ ofDirectory after "/work" = left := by
  have nothing : Files.empty.filesIn "/work" = .ok [] := by cbv
  have keepable : ∀ call ∈ sampleCalls, ∀ asset ∈ call.asset?, asset.Keepable := by
    intro call member asset saved
    simp only [sampleCalls, List.mem_cons, List.not_mem_nil, or_false] at member
    rcases member with rfl | rfl | rfl | rfl <;> cases saved <;>
      exact ⟨by decide, by decide,
        { finite := by decide
          inverse := by decide +kernel
          words := by decide
          shallow := by decide }⟩
  have succeeds : (Call.runAll? Files.empty (ofDirectory Files.empty "/work") sampleCalls).map
      (fun state => state.2.assets.names) = some ["Sword_1"] := by
    decide +kernel
  rcases Option.map_eq_some_iff.mp succeeds with ⟨⟨after, left⟩, ran, names⟩
  exact ⟨nothing, keepable, after, left, ran, names, (reopened_after_calls nothing keepable ran).1⟩

end Store

end TypedSheets
