import Mathlib
import TypedSheets.Proofs.Join.Conservation
import TypedSheets.Proofs.Pipeline.Step

/-!
# What a failed conversion leaves behind

A conversion fails where the rows of names and types are missing or where its own table
cannot have the shape that its setting asks for. The types, the configuration and all
tables but the one that the setting joins into are then as they were. The join comes
before the table, so its target is as it was only where the join appends nothing.
-/

namespace TypedSheets.Pipeline

/-- Whether the conversion of a sheet appends records to a table of the pipeline. -/
def AppendsRecords (pipeline : Pipeline) (setting : Setting) (view : View) : Prop :=
  Schema.firstDataRow ≤ view.rowCount
    ∧ ∃ join target, setting.join = some join
      ∧ pipeline.catalog.get? join.targetTable = some target
      ∧ Join.Appends join (pipeline.recordTypeOf setting view)
        (pipeline.resultOf setting view).records target

/-- Whether two catalogs hold the same table under every name. -/
def SameTables (before after : Index Table) : Prop :=
  ∀ name, after.get? name = before.get? name

/-- A join leaves all tables as they were exactly when it appends nothing. -/
theorem sameTables_joinedOf_iff {pipeline : Pipeline} {setting : Setting} {view : View}
    (headed : Schema.firstDataRow ≤ view.rowCount) :
    SameTables pipeline.catalog (pipeline.joinedOf setting view).catalog
      ↔ ¬pipeline.AppendsRecords setting view := by
  constructor
  · rintro same ⟨_, join, target, joins, present, appends⟩
    have kept := same join.targetTable
    rw [get?_joinedOf, joins] at kept
    simp only [present, ↓reduceIte, Option.map_some] at kept
    exact (Join.run_eq_self_iff _ _ _ _).mp (Option.some.inj kept) appends
  · intro none name
    rw [get?_joinedOf]
    cases joins : setting.join with
    | none => rfl
    | some join =>
        by_cases here : name = join.targetTable
        · subst here
          simp only [↓reduceIte]
          cases present : pipeline.catalog.get? join.targetTable with
          | none => rfl
          | some target =>
              have kept := (Join.run_eq_self_iff join (pipeline.recordTypeOf setting view)
                (pipeline.resultOf setting view).records target).mpr fun appends =>
                  none ⟨headed, join, target, joins, present, appends⟩
              rw [Option.map_some, kept]
        · simp only [here, ↓reduceIte]

/-- What a conversion that failed leaves of a pipeline. -/
structure LeavesBehind (pipeline : Pipeline) (setting : Setting) (view : View)
    (error : PipelineError) (after : Pipeline) : Prop where
  cause : error = .missingHeader setting.className
    ∨ ∃ reason, pipeline.ownTable? setting view = .error reason ∧ error = .synthesis reason
  config : after.config = pipeline.config
  registry : after.registry = pipeline.registry
  templates : after.templates = pipeline.templates
  names : after.catalog.names = pipeline.catalog.names
  /-- A table that the setting does not join into stays as it is. -/
  others : ∀ name, (∀ join, setting.join = some join → name ≠ join.targetTable) →
    after.catalog.get? name = pipeline.catalog.get? name
  /-- The table that it joins into keeps everything but what its rows hold. -/
  target : ∀ join target, setting.join = some join →
    pipeline.catalog.get? join.targetTable = some target →
      ∃ rows, after.catalog.get? join.targetTable = some { target with records := rows }
        ∧ rows.length = target.records.length
  unchanged : SameTables pipeline.catalog after.catalog ↔ ¬pipeline.AppendsRecords setting view

/-- A failed conversion leaves everything as it was exactly when its join appends
nothing. -/
theorem convertGrid_leavesBehind {pipeline : Pipeline} {setting : Setting} {view : View}
    {error : PipelineError} (failed : (pipeline.convertGrid setting view).1 = .error error) :
    LeavesBehind pipeline setting view error (pipeline.convertGrid setting view).2 := by
  have ends := convertGrid_ends pipeline setting view
  generalize pipeline.convertGrid setting view = outcome at ends failed ⊢
  cases ends with
  | enumeration isEnum => simp at failed
  | converted notEnum headed table made => simp at failed
  | headless notEnum short =>
      obtain rfl := Except.error.inj failed
      have nothing : ¬pipeline.AppendsRecords setting view := fun appends =>
        absurd appends.1 (Nat.not_le_of_lt short)
      refine ⟨.inl rfl, rfl, rfl, rfl, rfl, fun _ _ => rfl, ?_, ?_⟩
      · intro join target _ present
        exact ⟨target.records, present, rfl⟩
      · exact iff_of_true (fun _ => rfl) nothing
  | refused notEnum headed reason noTable =>
      -- The one failure that comes after the join, so its target keeps what was appended.
      obtain rfl := Except.error.inj failed
      refine ⟨.inr ⟨reason, noTable, rfl⟩, rfl, rfl, rfl, names_joinedOf _ _ _, ?_, ?_,
        sameTables_joinedOf_iff headed⟩
      · intro name elsewhere
        rw [get?_joinedOf]
        cases joins : setting.join with
        | none => rfl
        | some join => simp only [elsewhere join joins, ↓reduceIte]
      · intro join target joins present
        have shaped := Join.run_table join (pipeline.recordTypeOf setting view)
          (pipeline.resultOf setting view).records target
        refine ⟨_, ?_, shaped.2⟩
        rw [get?_joinedOf, joins]
        simp only [present, ↓reduceIte, Option.map_some]
        rw [← shaped.1]

/-- A pipeline that has converted items. -/
def sampleStart : Pipeline :=
  { config := Config.default
    registry := Registry.empty
    templates := .shipped
    catalog := Index.empty.insert "Item" Join.sampleItems }

/-- Drops by key, which the setting does not name. -/
def sampleSetting : Setting :=
  { Setting.ofClass "ItemDrop" .table with
    tableKind := .dictionary
    join := some Join.sampleJoin }

/-- One drop of the first item. -/
def sampleSheet : View := (Grid.ofRows [["item_id"], ["int"], ["1"]]).view

theorem sampleSheet_leavesBehind :
    (sampleStart.convertGrid sampleSetting sampleSheet).1
        = .error (.synthesis (.missingKey "ItemDropTable"))
      ∧ LeavesBehind sampleStart sampleSetting sampleSheet
        (.synthesis (.missingKey "ItemDropTable"))
        (sampleStart.convertGrid sampleSetting sampleSheet).2 := by
  have failed : (sampleStart.convertGrid sampleSetting sampleSheet).1
      = .error (.synthesis (.missingKey "ItemDropTable")) := by cbv
  exact ⟨failed, convertGrid_leavesBehind failed⟩

/-- The first item keeps the drop of the conversion that failed. -/
theorem sampleSheet_changes_items :
    (sampleStart.convertGrid sampleSetting sampleSheet).1
        = .error (.synthesis (.missingKey "ItemDropTable"))
      ∧ (sampleStart.catalog.get? "Item").map (fun table => table.records.map (·.get? "drops"))
        = some [some .null, some .null]
      ∧ ((sampleStart.convertGrid sampleSetting sampleSheet).2.catalog.get? "Item").map
          (fun table => table.records.map (·.get? "drops"))
        = some [some (.array [.record ⟨"ItemDrop", none, some 2, [("item_id", .int 1)]⟩]),
          some .null] := by
  refine ⟨?_, ?_, ?_⟩
  · cbv
  · cbv
  · cbv

end TypedSheets.Pipeline
