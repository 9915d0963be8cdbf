import TypedSheets.Proofs.Join.Footprint
import TypedSheets.Proofs.Pipeline.Failure
import TypedSheets.Proofs.Types.Registration

/-!
# What a successful conversion changes

An enumeration sheet changes the registry, at the enumeration of its class. Any other
sheet changes the catalog, at the table of its class and at the one that it joins into; of
the latter it changes the list field of the join in the records, and nothing else.
-/

namespace TypedSheets.Pipeline

variable {before after : Pipeline} {setting : Setting} {view : View} {output : ConversionOutput}

/-! ## Parts of a pipeline -/

theorem config_of_ends {outcome : Except PipelineError ConversionOutput × Pipeline}
    (ends : Ends before setting view outcome) : outcome.2.config = before.config := by
  cases ends <;> rfl

theorem templates_of_ends {outcome : Except PipelineError ConversionOutput × Pipeline}
    (ends : Ends before setting view outcome) : outcome.2.templates = before.templates := by
  cases ends <;> rfl

/-- Only enumeration sheets change the types. -/
theorem registry_of_ends (notEnum : setting.output ≠ .enum)
    {outcome : Except PipelineError ConversionOutput × Pipeline}
    (ends : Ends before setting view outcome) : outcome.2.registry = before.registry := by
  cases ends with
  | enumeration isEnum => exact absurd isEnum notEnum
  | headless | refused | converted => rfl

/-- An enumeration sheet is registered, and this is all. -/
theorem enumeration_of_ends (isEnum : setting.output = .enum)
    (ends : Ends before setting view (.ok output, after)) :
    output = enumOutput setting (enumOfSheet setting view)
      ∧ after = { before with
        registry := before.registry.registerEnum (enumOfSheet setting view) } := by
  cases ends with
  | enumeration => exact ⟨rfl, rfl⟩
  | converted notEnum => exact absurd isEnum notEnum

theorem get?_withOwn_of_ne {catalog : Index Table} {className name : String}
    (different : name ≠ className) (table : Option Table) :
    (withOwn catalog className table).get? name = catalog.get? name := by
  cases table with
  | none => rfl
  | some table => rw [withOwn, Index.get?_insert, if_neg different]

/-- A sheet that is no enumeration adds the table of its class, if it has one, to what its
join leaves of the tables. -/
theorem get?_of_ends (notEnum : setting.output ≠ .enum)
    (ends : Ends before setting view (.ok output, after)) {name : String}
    (different : setting.output = .table → name ≠ setting.className) :
    after.catalog.get? name = (before.joinedOf setting view).catalog.get? name := by
  cases ends with
  | enumeration isEnum => exact absurd isEnum notEnum
  | converted _ _ table made =>
      have shape := ownTable?_ok made
      by_cases isTable : setting.output = .table
      · exact get?_withOwn_of_ne (different isTable) table
      · rw [if_neg isTable] at shape
        rw [shape, withOwn]

/-! ## The whole of it -/

/-- What a successful conversion changes of a pipeline. -/
structure ChangesOnly (before : Pipeline) (setting : Setting) (output : ConversionOutput)
    (after : Pipeline) : Prop where
  config : after.config = before.config
  templates : after.templates = before.templates
  /-- An enumeration sheet changes the enumeration of its class, and no table. -/
  enumeration : setting.output = .enum →
    before.registry.SameBut setting.className after.registry ∧ after.catalog = before.catalog
  /-- Other sheets change no type. -/
  registry : setting.output ≠ .enum → after.registry = before.registry
  /-- They change no table but their own and the one that they join into. -/
  others : setting.output ≠ .enum → ∀ name, (setting.output = .table → name ≠ setting.className) →
    (∀ join, setting.join = some join → name ≠ join.targetTable) →
      after.catalog.get? name = before.catalog.get? name
  /-- The table of a table sheet is made anew of its records. -/
  own : setting.output = .table → ∃ type strategy, output.recordType = some type
    ∧ after.catalog.get? setting.className
      = some (Table.ofRecords setting.tableAsset type strategy setting.keys output.records)
  /-- The table that a sheet joins into changes in the list field of its records. -/
  target : setting.output ≠ .enum → ∀ join, setting.join = some join →
    (setting.output = .table → join.targetTable ≠ setting.className) →
      Option.Rel (Table.SameBut join.targetListField) (before.catalog.get? join.targetTable)
        (after.catalog.get? join.targetTable)

/-- A successful conversion changes what belongs to its class and, of the table that it
joins into, the list field of the records. -/
theorem convertGrid_changesOnly
    (converted : before.convertGrid setting view = (.ok output, after)) :
    ChangesOnly before setting output after := by
  have ends := convertGrid_ends before setting view
  rw [converted] at ends
  constructor
  case config => exact config_of_ends ends
  case templates => exact templates_of_ends ends
  case enumeration =>
    intro isEnum
    rcases enumeration_of_ends isEnum ends with ⟨_, rfl⟩
    exact ⟨Registry.sameBut_registerEnum before.registry (enumOfSheet setting view), rfl⟩
  case registry =>
    intro notEnum
    exact registry_of_ends notEnum ends
  case others =>
    intro notEnum name notOwn notTarget
    rw [get?_of_ends notEnum ends notOwn, get?_joinedOf]
    cases joins : setting.join with
    | none => rfl
    | some join => simp only [notTarget join joins, ↓reduceIte]
  case own =>
    intro isTable
    rcases exists_own_of_ends isTable ends with ⟨strategy, _, rfl, present⟩
    exact ⟨before.recordTypeOf setting view, strategy, rfl, present⟩
  case target =>
    intro notEnum join joins notOwn
    rw [get?_of_ends notEnum ends notOwn, get?_joinedOf, joins]
    simp only [↓reduceIte]
    cases before.catalog.get? join.targetTable with
    | none => exact .none
    | some target => exact .some (Join.run_sameBut _ _ _ _)

/-- Drops that are joined into the items, as a list of their own. -/
def sampleDropList : Setting :=
  { Setting.ofClass "ItemDrop" .table with join := some Join.sampleJoin }

theorem sampleSheet_changes_only :
    ∃ output after, sampleStart.convertGrid sampleDropList sampleSheet = (.ok output, after)
      ∧ ChangesOnly sampleStart sampleDropList output after := by
  have succeeds : (sampleStart.convertGrid sampleDropList sampleSheet).1.isOk = true := by cbv
  rcases exists_ok_of_isOk succeeds with ⟨output, after, made⟩
  exact ⟨output, after, made, convertGrid_changesOnly made⟩

end TypedSheets.Pipeline
