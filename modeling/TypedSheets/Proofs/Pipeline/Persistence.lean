import TypedSheets.Pipeline.Persistence
import TypedSheets.Proofs.Materialization.Naming
import TypedSheets.Proofs.Pipeline.Run
import TypedSheets.Proofs.Store.Reopening

/-!
# Storing without overwriting

Names of records are compared within one sheet, while all records and tables share the
names of a store. So a store may list fewer assets than were saved into it, without any
warning: when two sheets, or a sheet and a table, or two tables, give the same name, or
when the records of a sheet have no names and are stored all the same.
-/

namespace TypedSheets.Pipeline

open Materialization

/-! ## Names of one output -/

/-- Where no duplicate name was logged, the records of an output are stored under different
names unless they have none and are several. -/
theorem nodup_storedNames_iff {before after : Pipeline} {setting : Setting} {view : View}
    {output : ConversionOutput} (ends : Ends before setting view (.ok output, after))
    (quiet : NoDuplicates output.log) :
    (output.records.map Record.storedName).Nodup
      ↔ ((∀ record ∈ output.records, record.assetName = none) → output.records.length ≤ 1) := by
  cases ends with
  | enumeration isEnum => simp [enumOutput]
  | converted notEnum headed table made =>
      have own : NoDuplicates (before.resultOf setting view).log := by
        intro name row member
        refine quiet name row ?_
        exact List.mem_append_left _ (List.mem_append_left _ (List.mem_cons_of_mem _ member))
      exact nodup_storedNames_run_iff own

/-! ## Saving -/

theorem saveAll_ok {assets : List Asset} {files after : Files} {store left : Store} {count : Nat}
    (saved : saveAll files store assets = (.ok count, after, left)) :
    count = assets.length
      ∧ left.assets = assets.foldl (fun index asset => index.insert asset.name asset) store.assets := by
  induction assets generalizing files store count with
  | nil =>
      cases saved
      exact ⟨rfl, rfl⟩
  | cons asset assets ih =>
      rw [saveAll] at saved
      split at saved
      · cases saved
      · next first =>
          split at saved
          · cases saved
          · next rest =>
              cases saved
              rcases ih rest with ⟨counted, stored⟩
              obtain rfl := Store.eq_of_saved (congrArg Store.afterSuccess? first)
              rw [List.length_cons, counted, List.foldl_cons]
              exact ⟨rfl, stored⟩

/-- The names under which things are stored: a list for each output whose records are
stored, and one for each table. -/
def nameLists (pipeline : Pipeline) (now : String) (outputs : List ConversionOutput) :
    List (List String) :=
  ((outputs.filter (storesRecords pipeline.config)).map fun output =>
      output.records.map Record.storedName)
    ++ (pipeline.tableAssets now).map fun asset => [asset.name]

theorem map_name_assets (pipeline : Pipeline) (now : String) (outputs : List ConversionOutput) :
    (pipeline.recordAssets now outputs ++ pipeline.tableAssets now).map Asset.name
      = (pipeline.nameLists now outputs).flatten := by
  have records : (pipeline.recordAssets now outputs).map Asset.name
      = ((outputs.filter (storesRecords pipeline.config)).map fun output =>
          output.records.map Record.storedName).flatten := by
    rw [recordAssets, List.map_flatMap, List.flatMap_def]
    congr 1
    apply List.map_congr_left
    intro output _
    rw [List.map_map]
    rfl
  have tables : (pipeline.tableAssets now).map Asset.name
      = ((pipeline.tableAssets now).map fun asset => [asset.name]).flatten := by
    rw [← List.flatMap_def]
    exact List.map_eq_flatMap
  rw [List.map_append, nameLists, List.flatten_append, records, tables]

/-- After a run that logged no duplicate name was stored in an empty store, the store lists
as many assets as were saved exactly when no two sheets or tables give a common name and
no records without names are stored together. -/
theorem persist_lists_all_iff {pipeline final : Pipeline} {files disk after : Files}
    {outputs : List ConversionOutput} {now : String} {store left : Store} {count : Nat}
    (converted : pipeline.convertAll files = (.ok outputs, final))
    (quiet : ∀ output ∈ outputs, NoDuplicates output.log)
    (nothing : store.assets = Index.empty)
    (persisted : final.persist now outputs disk store = (.ok count, after, left)) :
    count = (final.nameLists now outputs).flatten.length
      ∧ left.list.length = (final.nameLists now outputs).flatten.dedup.length
      ∧ (left.list.length = count ↔
        (final.nameLists now outputs).Pairwise List.Disjoint
          ∧ ∀ output ∈ outputs, storesRecords final.config output = true →
            (∀ record ∈ output.records, record.assetName = none) → output.records.length ≤ 1) := by
  have saved : count = (final.nameLists now outputs).flatten.length
      ∧ left.list.length = (final.nameLists now outputs).flatten.dedup.length := by
    rw [persist] at persisted
    split at persisted
    · next saved =>
        cases persisted
        rcases saveAll_ok saved with ⟨counted, stored⟩
        rw [nothing] at stored
        rw [Store.list, stored, Index.length_values_foldl_insert, map_name_assets, counted,
          ← map_name_assets, List.length_map]
        exact ⟨rfl, rfl⟩
    · cases persisted
  refine ⟨saved.1, saved.2, ?_⟩
  rw [saved.1, saved.2, (List.dedup_sublist _).length_eq, List.dedup_eq_self, List.nodup_flatten,
    and_comm]
  have ofOutput : ∀ output ∈ outputs,
      (output.records.map Record.storedName).Nodup
        ↔ ((∀ record ∈ output.records, record.assetName = none) → output.records.length ≤ 1) := by
    intro output member
    rcases exists_ends_of_mem converted output member with ⟨_, _, _, _, ends⟩
    exact nodup_storedNames_iff ends (quiet output member)
  apply and_congr_right
  intro _
  constructor
  · intro distinct output member stores
    have listed : output.records.map Record.storedName ∈ final.nameLists now outputs :=
      List.mem_append_left _
        (List.mem_map.mpr ⟨output, List.mem_filter.mpr ⟨member, stores⟩, rfl⟩)
    exact (ofOutput output member).mp (distinct _ listed)
  · intro single names listed
    rcases List.mem_append.mp listed with ofRecords | ofTable
    · rcases List.mem_map.mp ofRecords with ⟨output, kept, rfl⟩
      rcases List.mem_filter.mp kept with ⟨member, stores⟩
      exact (ofOutput output member).mpr (single output member stores)
    · rcases List.mem_map.mp ofTable with ⟨asset, _, rfl⟩
      exact List.nodup_singleton _

/-- Two classes of records, of which the name of one goes on where a key of the other would
begin. -/
def rareConfig : Config :=
  { Config.default with
    settings := [
      { Setting.ofClass "Item" .recordClass with
        keyFields := "kind, id"
        source := some (.values "items.json") },
      { Setting.ofClass "Item_rare" .recordClass with
        keyFields := "id"
        source := some (.values "rare.json") }] }

/-- A sheet for each of the classes, with one row whose keys are given. -/
def rareFiles (kind : String) : Files :=
  { Files.empty with
    contents := [
      (["work", "items.json"],
        ("[[\"kind\",\"id\"],[\"string\",\"int\"],[\"" ++ kind ++ "\",1]]").toUTF8),
      (["work", "rare.json"], "[[\"id\"],[\"int\"],[1]]".toUTF8)] }

/-- How many assets were saved and how many are listed, after a run without any warning on
the two sheets and in a new store. -/
def rareSummary (kind : String) : Option (Nat × Nat) := do
  let files := rareFiles kind
  let (converted, final) := (ofConfig rareConfig .shipped).convertAll files
  let outputs ← converted.toOption
  if ∀ output ∈ outputs, ∀ entry ∈ output.log, entry.level ≠ .warning then
    let (persisted, _, store) := final.persist "2024-01-01T00:00:00+00:00" outputs files
      (Store.ofDirectory files "assets")
    let count ← persisted.toOption
    some (count, store.list.length)
  else none

theorem exists_of_rareSummary {kind : String} {count listed : Nat}
    (summary : rareSummary kind = some (count, listed)) :
    ∃ outputs final after left,
      (ofConfig rareConfig .shipped).convertAll (rareFiles kind) = (.ok outputs, final)
        ∧ (∀ output ∈ outputs, NoDuplicates output.log)
        ∧ final.persist "2024-01-01T00:00:00+00:00" outputs (rareFiles kind)
            (Store.ofDirectory (rareFiles kind) "assets") = (.ok count, after, left)
        ∧ left.list.length = listed := by
  simp only [rareSummary] at summary
  rcases ran : (ofConfig rareConfig .shipped).convertAll (rareFiles kind) with ⟨converted, final⟩
  rw [ran] at summary
  cases converted with
  | error error => cases summary
  | ok outputs =>
      simp only [Except.toOption, Option.bind_eq_bind, Option.bind_some] at summary
      split at summary
      · next quiet =>
          rcases stored : final.persist "2024-01-01T00:00:00+00:00" outputs (rareFiles kind)
            (Store.ofDirectory (rareFiles kind) "assets") with ⟨persisted, after, left⟩
          rw [stored] at summary
          cases persisted with
          | error error => cases summary
          | ok saved =>
              obtain ⟨rfl, rfl⟩ := Prod.mk.inj (Option.some.inj summary)
              refine ⟨outputs, final, after, left, rfl, ?_, stored, rfl⟩
              intro output member name row warned
              exact quiet output member _ warned rfl
      · cases summary

theorem commonItems_kept :
    ∃ outputs final after left,
      (ofConfig rareConfig .shipped).convertAll (rareFiles "common") = (.ok outputs, final)
        ∧ (∀ output ∈ outputs, NoDuplicates output.log)
        ∧ (Store.ofDirectory (rareFiles "common") "assets").assets = Index.empty
        ∧ final.persist "2024-01-01T00:00:00+00:00" outputs (rareFiles "common")
            (Store.ofDirectory (rareFiles "common") "assets") = (.ok 2, after, left)
        ∧ left.list.length = 2
        ∧ (final.nameLists "2024-01-01T00:00:00+00:00" outputs).Pairwise List.Disjoint := by
  have summary : rareSummary "common" = some (2, 2) := by decide +kernel
  have nothing : (Store.ofDirectory (rareFiles "common") "assets").assets = Index.empty := by rfl
  rcases exists_of_rareSummary summary with
    ⟨outputs, final, after, left, converted, quiet, persisted, listed⟩
  have kept := persist_lists_all_iff converted quiet nothing persisted
  exact ⟨outputs, final, after, left, converted, quiet, nothing, persisted, listed,
    (kept.2.2.mp listed).1⟩

/-- The record of the second sheet takes the place of the one of the first, and nothing is
said about it. -/
theorem rareItems_overwritten :
    (Store.ofDirectory (rareFiles "rare") "assets").assets = Index.empty
      ∧ ∃ outputs final after left,
        (ofConfig rareConfig .shipped).convertAll (rareFiles "rare") = (.ok outputs, final)
          ∧ (∀ output ∈ outputs, NoDuplicates output.log)
          ∧ final.persist "2024-01-01T00:00:00+00:00" outputs (rareFiles "rare")
              (Store.ofDirectory (rareFiles "rare") "assets") = (.ok 2, after, left)
          ∧ left.list.length = 1 := by
  refine ⟨by rfl, exists_of_rareSummary ?_⟩
  decide +kernel

end TypedSheets.Pipeline
