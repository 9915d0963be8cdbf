import TypedSheets.Pipeline.Persistence
import TypedSheets.Proofs.Materialization.DistinctNames
import TypedSheets.Proofs.Materialization.Stems
import TypedSheets.Proofs.Store.Refusal

/-!
# Files of records

The name of a record is one part of a path, so a record with a name is always saved in a file
directly in the directory of the store. Plain data has no name: it is saved under its class, which
may be any text, and so also a path that leads out of the directory.
-/

namespace TypedSheets

namespace Store

/-- Whether saving an asset, wherever it succeeds, puts one file directly into the directory of the
store and changes no other. -/
def KeptAs (asset : Asset) (file : String) : Prop :=
  ∀ (files : Files) (store : Store) after left,
    afterSuccess? (store.save files asset) = some (after, left) →
      ∃ directory, after.LeadsTo store.directory directory
        ∧ after.contents = Files.putContent (directory ++ [file]) asset.write.toUTF8 files.contents

/-- An asset whose name is one part of a path has its file in the directory of the store. -/
theorem keptAs_fileOf {asset : Asset} (whole : '/' ∉ asset.name.toList) :
    KeptAs asset (fileOf asset.name) := by
  intro files store after left saved
  rw [save] at saved
  split at saved
  · cases saved
  · next between made =>
      simp only [Files.writeText] at saved
      split at saved
      · cases saved
      · next final written =>
          cases saved
          rcases Files.exists_leadsTo_of_makeDirectories made with ⟨directory, leads⟩
          obtain rfl := Files.write_join leads (isPart_fileOf whole) (fileOf_ne_parent asset.name)
            written
          refine ⟨directory, leads.with_contents _, ?_⟩
          rw [Files.contents_makeDirectories made]

end Store

namespace Materialization

/-- The names of records are safe stems, and a record of a class that is not plain data has one,
under which it is always saved in a file directly in the directory of the store. Plain data has
none and is saved under its class as it stands. -/
theorem named_records_kept :
    (∀ className record keys row, IsStem (assetName className record keys row))
      ∧ ∀ registry view schema recordType setting,
        ∀ record ∈ (run registry view schema recordType setting).records,
          (recordType.isPure = false → ∃ name, record.assetName = some name ∧ IsStem name
            ∧ (∀ directory, Path.components (Store.pathOf directory name)
                = Path.components directory ++ [Store.fileOf name])
            ∧ ∀ now, Store.KeptAs (Store.assetOfRecord now record) (Store.fileOf name))
          ∧ (recordType.isPure = true →
            record.assetName = none ∧ record.storedName = recordType.name) := by
  refine ⟨isStem_assetName, ?_⟩
  intro registry view schema recordType setting record member
  refine ⟨?_, fun isPure => unnamed_of_isPure isPure member⟩
  intro notPure
  have named := isSome_assetName notPure member
  have whole := slash_notMem_storedName member named
  have given := Record.assetName_of_isSome named
  have stem : IsStem record.storedName := by
    rcases exists_row_of_mem_run member with ⟨index, rfl⟩
    rw [← assetName_record given]
    exact isStem_assetName _ _ _ _
  exact ⟨record.storedName, given, stem, fun directory => Store.components_pathOf directory whole,
    fun now => Store.keptAs_fileOf whole⟩

/-- Notes by paths, of which one leads out of every directory. -/
def pathSheet : View := (Grid.ofRows [["path"], ["string"], ["../../notes"]]).view

/-- The class of these notes, which looks like a path as well. -/
def pathType (isPure : Bool) : RecordType := ⟨"../Note", isPure, [⟨"path", .string⟩]⟩

/-- The records of the notes. -/
def pathNotes (isPure : Bool) : List Record :=
  (run Registry.empty pathSheet (Schema.derive Registry.empty pathSheet) (pathType isPure)
    { Setting.ofClass "../Note" .recordClass with keyFields := "path" }).records

/-- The note is kept in the directory, unless it is plain data, which has no name. -/
theorem pathNotes_kept :
    (pathType false).isPure = false
      ∧ (∃ record ∈ pathNotes false, record.assetName = some "Note_-notes" ∧ IsStem "Note_-notes"
        ∧ ∀ now, Store.KeptAs (Store.assetOfRecord now record) "Note_-notes.json")
      ∧ (pathType true).isPure = true
      ∧ ∃ record ∈ pathNotes true, record.assetName = none ∧ record.storedName = "../Note" := by
  have names : (pathNotes false).map Record.assetName = [some "Note_-notes"] := by decide +kernel
  have plain : (pathNotes true).map Record.assetName = [none] := by decide +kernel
  rcases List.map_eq_singleton_iff.mp names with ⟨named, only, given⟩
  rcases List.map_eq_singleton_iff.mp plain with ⟨unnamed, single, _⟩
  have member : named ∈ pathNotes false := only ▸ List.mem_singleton_self named
  have other : unnamed ∈ pathNotes true := single ▸ List.mem_singleton_self unnamed
  rcases (named_records_kept.2 _ _ _ _ _ named member).1 rfl with ⟨name, held, stem, _, kept⟩
  obtain rfl := Option.some.inj (given.symm.trans held)
  exact ⟨rfl, ⟨named, member, given, stem, kept⟩, rfl, unnamed, other,
    (named_records_kept.2 _ _ _ _ _ unnamed other).2 rfl⟩

end Materialization

namespace Pipeline

/-- Two settings of one class that is a path out of a directory. The second one is a join, so its
records are plain data. -/
def strayConfig : Config :=
  { Config.default with
    settings := [
      { Setting.ofClass "../Item" .recordClass with
        keyFields := "id"
        source := some (.values "items.json") },
      { Setting.ofClass "../Item" .recordClass with
        keyFields := "id"
        join := some ⟨"Shop", "id", "id", "items", "Find"⟩
        source := some (.values "drops.json") }] }

/-- A sheet with one row for each of the settings. -/
def strayFiles : Files :=
  { Files.empty with
    contents := [
      (["work", "items.json"], "[[\"id\"],[\"int\"],[1]]".toUTF8),
      (["work", "drops.json"], "[[\"id\"],[\"int\"],[2]]".toUTF8)] }

/-- The names of the records of each output, the number and the names of the assets that are
stored, and the paths of all files after a run that stores its outputs. -/
def straySummary : Option (List (List String) × Nat × List String × List Parts) := do
  let (converted, final) := (ofConfig strayConfig .shipped).convertAll strayFiles
  let outputs ← converted.toOption
  let (persisted, after, left) := final.persist "2024-01-01T00:00:00+00:00" outputs strayFiles
    (Store.ofDirectory strayFiles "assets")
  let count ← persisted.toOption
  some (outputs.map fun output => output.records.map Record.storedName, count,
    left.list.map Asset.name, after.contents.map Prod.fst)

/-- A working directory with the directory of a store in it. -/
def storeFiles : Files := { Files.empty with directories := [["work"], ["work", "assets"]] }

theorem locate_strayFile :
    storeFiles.locate (Store.pathOf "assets" "../Item") = .ok (.free ["work", "Item.json"]) := by
  have path : Store.pathOf "assets" "../Item" = "assets/../Item.json" := by decide +kernel
  have parts : Path.components "assets/../Item.json" = ["assets", ".."] ++ ["Item.json"] := by
    decide +kernel
  have taken : Files.IsPath "assets/../Item.json" := by
    refine ⟨by decide, by decide +kernel, by decide +kernel⟩
  have up : storeFiles.descend (storeFiles.origin "assets/../Item.json") ["assets", ".."]
      = .ok ["work"] := by decide +kernel
  rw [path, Files.locate_of_concat taken parts, up]
  rfl

/-- An asset of the name of this class is put beside the directory of a store. -/
theorem not_keptAs_of_stray {asset : Asset} (named : asset.name = "../Item") (file : String) :
    ¬Store.KeptAs asset file := by
  intro kept
  have made : Files.empty.makeDirectories "assets" = .ok storeFiles := by
    have parts : Path.components "assets" = ["assets"] := by decide +kernel
    rw [Files.makeDirectories, if_neg (by decide), if_neg (by decide), parts]
    rfl
  have saved : Store.afterSuccess? (Store.save Files.empty ⟨"assets", Index.empty⟩ asset)
      = some ({ storeFiles with contents := [(["work", "Item.json"], asset.write.toUTF8)] },
        ⟨"assets", Index.empty.insert asset.name asset⟩) := by
    have written : storeFiles.writeText (Store.pathOf "assets" asset.name) asset.write
        = .ok { storeFiles with contents := [(["work", "Item.json"], asset.write.toUTF8)] } := by
      rw [Files.writeText, Files.write, named, locate_strayFile]
      rfl
    rw [Store.save]
    simp only [made, written]
    rfl
  rcases kept _ _ _ _ saved with ⟨directory, leads, contents⟩
  have inside : storeFiles.LeadsTo "assets" ["work", "assets"] := by
    rw [Files.LeadsTo]
    decide +kernel
  obtain rfl := Except.ok.inj (leads.symm.trans (inside.with_contents _))
  have places := congrArg (List.map Prod.fst) contents
  simp [Files.putContent, Files.empty] at places

/-- The record of the second setting is stored under its class, in a file outside of the directory
of the store. -/
theorem strayItem_outside :
    ∃ outputs final after left,
      (ofConfig strayConfig .shipped).convertAll strayFiles = (.ok outputs, final)
        ∧ final.persist "2024-01-01T00:00:00+00:00" outputs strayFiles
            (Store.ofDirectory strayFiles "assets") = (.ok 2, after, left)
        ∧ left.list.map Asset.name = ["../Item", "Item_1"]
        ∧ after.contents.map Prod.fst = [["work", "items.json"], ["work", "drops.json"],
          ["work", "assets", "Item_1.json"], ["work", "Item.json"]]
        ∧ ∃ output ∈ outputs, ∃ record ∈ output.records, record.storedName = "../Item"
          ∧ ∀ now file, ¬Store.KeptAs (Store.assetOfRecord now record) file := by
  have summary : straySummary = some ([["Item_1"], ["../Item"]], 2, ["../Item", "Item_1"],
      [["work", "items.json"], ["work", "drops.json"], ["work", "assets", "Item_1.json"],
        ["work", "Item.json"]]) := by decide +kernel
  rw [straySummary] at summary
  rcases ran : (ofConfig strayConfig .shipped).convertAll strayFiles with ⟨converted, final⟩
  rw [ran] at summary
  cases converted with
  | error error => cases summary
  | ok outputs =>
      rcases stored : final.persist "2024-01-01T00:00:00+00:00" outputs strayFiles
        (Store.ofDirectory strayFiles "assets") with ⟨persisted, after, left⟩
      simp only [Except.toOption, Option.bind_eq_bind, Option.bind_some, stored] at summary
      cases persisted with
      | error error => cases summary
      | ok count =>
          simp only [Option.bind_some, Option.some.injEq, Prod.mk.injEq] at summary
          rcases summary with ⟨names, rfl, listed, paths⟩
          have named : ["../Item"] ∈ outputs.map fun output => output.records.map Record.storedName :=
            names ▸ List.mem_cons_of_mem _ (List.mem_singleton_self _)
          rcases List.mem_map.mp named with ⟨output, made, only⟩
          rcases List.map_eq_singleton_iff.mp only with ⟨record, single, stray⟩
          refine ⟨outputs, final, after, left, rfl, stored, listed, paths, output, made, record,
            single ▸ List.mem_singleton_self record, stray, ?_⟩
          intro now file
          exact not_keptAs_of_stray stray file

end Pipeline

end TypedSheets
