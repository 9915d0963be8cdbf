import TypedSheets.Pipeline.Generation
import TypedSheets.Proofs.Pipeline.Failure
import TypedSheets.Proofs.Synthesis.Declarations

/-!
# Generated sources fit the conversion

Sources are generated from the columns of a sheet alone, without its records. They are
there exactly when the sheet can be converted, and what is declared in them is what the
conversion makes: a field of the same type for each field of the record class, and a
table class of the shape of the table.
-/

namespace TypedSheets.Pipeline

/-- What sources declare is what a conversion made. -/
structure Declare (generator : Pipeline) (files : Files) (setting : Setting)
    (sources : List GeneratedSource) (output : ConversionOutput) (after : Pipeline) : Prop where
  /-- The class has one line for each field of the record class, in their order. -/
  record : ∃ type lines, output.recordType = some type
    ∧ List.Forall₂ (Synthesis.DeclaresField generator.registry) lines type.fields
    ∧ sources.head? = some ⟨setting.className ++ ".cs",
      Synthesis.fillFile generator.templates files
        (if type.isPure then "PureRecordClass.txt" else "RecordClass.txt") [
          ("ClassName", setting.className), ("Fields", "\n".intercalate lines)]⟩
  /-- A table setting has a table class of the shape and with the keys of its table, other
  settings have none. -/
  table : if setting.output = .table then
      ∃ table values, after.catalog.get? setting.className = some table
        ∧ output.recordType = some table.recordType
        ∧ Synthesis.SearchValues generator.registry table.recordType table.keyFields table.strategy
          values
        ∧ sources.tail = [⟨setting.tableClass ++ ".cs",
          Synthesis.fillFile generator.templates files (Synthesis.tableFile table.strategy)
            (("TableClassName", setting.tableClass) :: ("ClassName", setting.className) :: values)⟩]
    else sources.tail = []

variable {generator pipeline : Pipeline} {files : Files} {setting : Setting} {view : View}

/-- The schema of a sheet depends on the types alone. -/
theorem schemaOf_congr (same : generator.registry = pipeline.registry) (view : View) :
    generator.schemaOf view = pipeline.schemaOf view := by
  rw [schemaOf, schemaOf, same]

theorem generateSources_of_short (notEnum : setting.output ≠ .enum)
    (short : view.rowCount < Schema.firstDataRow) :
    generator.generateSources files setting view = .error (.missingHeader setting.className) := by
  simp [generateSources, notEnum, short]

/-- The file of the record class of a sheet. -/
def recordSource (generator : Pipeline) (files : Files) (setting : Setting) (view : View) :
    GeneratedSource :=
  ⟨sourceFile setting.className, Synthesis.recordClass generator.templates files setting.className
    (generator.schemaOf view) setting.isPureClass⟩

/-- The file of the table class of a sheet in a shape. -/
def tableSource (generator : Pipeline) (files : Files) (setting : Setting) (view : View)
    (strategy : TableStrategy) : GeneratedSource :=
  ⟨sourceFile setting.tableClass,
    Synthesis.fillFile generator.templates files (Synthesis.tableFile strategy)
      (Synthesis.tableValues strategy setting.tableClass setting.className
        ((generator.schemaOf view).keyFields setting.keys))⟩

/-- The sources of a sheet are there when the table can have its shape. -/
theorem generateSources_of_headed (notEnum : setting.output ≠ .enum)
    (headed : Schema.firstDataRow ≤ view.rowCount) :
    generator.generateSources files setting view
      = if setting.output = .table then
          match TableStrategy.select setting ((generator.schemaOf view).keyFields setting.keys) with
          | .ok strategy => .ok [generator.recordSource files setting view,
              generator.tableSource files setting view strategy]
          | .error error => .error (.synthesis error)
        else .ok [generator.recordSource files setting view] := by
  simp only [generateSources, notEnum, Nat.not_lt.mpr headed, ↓reduceIte, schemaOf]
  cases selected : TableStrategy.select setting
    ((Schema.derive generator.registry view).keyFields setting.keys) with
  | ok strategy =>
      simp only [Synthesis.tableClass_of_select generator.templates files selected]
      rfl
  | error error =>
      simp only [Synthesis.tableClass, selected]
      rfl

/-- The record class of a sheet has a line for each field that the conversion makes. -/
theorem recordSource_declares (same : generator.registry = pipeline.registry) (files : Files)
    (setting : Setting) (view : View) :
    ∃ type lines, (pipeline.recordsOutput setting view).recordType = some type
      ∧ List.Forall₂ (Synthesis.DeclaresField generator.registry) lines type.fields
      ∧ generator.recordSource files setting view = ⟨setting.className ++ ".cs",
        Synthesis.fillFile generator.templates files
          (if type.isPure then "PureRecordClass.txt" else "RecordClass.txt") [
            ("ClassName", setting.className), ("Fields", "\n".intercalate lines)]⟩ := by
  have coherent := Schema.coherent_derive generator.registry view
  have declares := Synthesis.declaresField_distinct coherent setting.className setting.isPureClass
  have made : (pipeline.recordsOutput setting view).recordType = some (RecordType.ofSchema
      generator.registry setting.className (Schema.derive generator.registry view)
      setting.isPureClass) := by
    rw [same]
    rfl
  refine ⟨_, _, made, declares, ?_⟩
  rw [recordSource, Synthesis.recordClass_eq]
  rfl

/-- The table class of a sheet declares the keys of the table that the conversion makes. -/
theorem tableSource_declares (same : generator.registry = pipeline.registry) (files : Files)
    {strategy : TableStrategy}
    (selected : TableStrategy.select setting ((pipeline.schemaOf view).keyFields setting.keys)
      = .ok strategy) :
    ∃ values, Synthesis.SearchValues generator.registry (pipeline.recordTypeOf setting view)
        setting.keys strategy values
      ∧ generator.tableSource files setting view strategy = ⟨setting.tableClass ++ ".cs",
        Synthesis.fillFile generator.templates files (Synthesis.tableFile strategy)
          (("TableClassName", setting.tableClass) :: ("ClassName", setting.className)
            :: values)⟩ := by
  have coherent := Schema.coherent_derive generator.registry view
  rw [schemaOf, ← same] at selected
  rcases Synthesis.exists_searchValues coherent setting.className setting.isPureClass selected
    setting.tableClass with ⟨values, declares, given⟩
  rw [recordTypeOf, schemaOf, ← same]
  refine ⟨values, declares, ?_⟩
  rw [tableSource, schemaOf, given]
  rfl

/-- The sources of a converted sheet declare what the conversion made. -/
theorem declare_recordsOutput (same : generator.registry = pipeline.registry)
    {table : Option Table} (made : pipeline.ownTable? setting view = .ok table)
    (notEnum : setting.output ≠ .enum) (headed : Schema.firstDataRow ≤ view.rowCount) :
    ∃ sources, generator.generateSources files setting view = .ok sources
      ∧ Declare generator files setting sources (pipeline.recordsOutput setting view)
        { pipeline with
          catalog := withOwn (pipeline.joinedOf setting view).catalog setting.className table } := by
  have record := recordSource_declares same files setting view
  rw [generateSources_of_headed notEnum headed, schemaOf_congr same]
  have shape := ownTable?_ok made
  split at shape
  · next isTable =>
      rcases shape with ⟨strategy, selected, rfl⟩
      rcases tableSource_declares same files selected with ⟨values, searches, tableSource⟩
      rw [if_pos isTable, selected]
      refine ⟨_, rfl, ?_, ?_⟩
      · simpa only [List.head?_cons, Option.some.injEq] using record
      · rw [if_pos isTable]
        refine ⟨pipeline.tableIn setting view strategy, values, ?_, rfl, searches, ?_⟩
        · rw [withOwn, Index.get?_insert, if_pos rfl]
        · exact congrArg (fun source => [source]) tableSource
  · next noTable =>
      subst shape
      rw [if_neg noTable]
      refine ⟨_, rfl, ?_, ?_⟩
      · simpa only [List.head?_cons, Option.some.injEq] using record
      · rw [if_neg noTable]
        rfl

/-- The sources of a sheet are refused with its table. -/
theorem generateSources_of_refused (same : generator.registry = pipeline.registry)
    {reason : SynthesisError} (noTable : pipeline.ownTable? setting view = .error reason)
    (notEnum : setting.output ≠ .enum) (headed : Schema.firstDataRow ≤ view.rowCount) :
    generator.generateSources files setting view = .error (.synthesis reason) := by
  rw [generateSources_of_headed notEnum headed, schemaOf_congr same]
  rw [ownTable?_eq] at noTable
  split at noTable
  · next isTable =>
      rw [if_pos isTable]
      cases selected : TableStrategy.select setting
          ((pipeline.schemaOf view).keyFields setting.keys) with
      | ok strategy =>
          rw [selected] at noTable
          simp [Except.map] at noTable
      | error error =>
          rw [selected] at noTable
          obtain rfl := Except.error.inj noTable
          rfl
  · simp at noTable

/-- With the same types, a sheet is converted exactly when its sources are generated, the
same error being answered otherwise, and the sources declare what the conversion made. -/
theorem generateSources_declare (same : generator.registry = pipeline.registry)
    (notEnum : setting.output ≠ .enum) :
    (∃ error, generator.generateSources files setting view = .error error
        ∧ (pipeline.convertGrid setting view).1 = .error error)
    ∨ ∃ sources output, generator.generateSources files setting view = .ok sources
        ∧ (pipeline.convertGrid setting view).1 = .ok output
        ∧ Declare generator files setting sources output
          (pipeline.convertGrid setting view).2 := by
  have ends := convertGrid_ends pipeline setting view
  generalize pipeline.convertGrid setting view = outcome at ends ⊢
  cases ends with
  | enumeration isEnum => exact absurd isEnum notEnum
  | headless _ short => exact .inl ⟨_, generateSources_of_short notEnum short, rfl⟩
  | refused _ headed reason noTable =>
      exact .inl ⟨_, generateSources_of_refused same noTable notEnum headed, rfl⟩
  | converted _ headed table made =>
      rcases declare_recordsOutput same made notEnum headed with ⟨sources, generated, declare⟩
      exact .inr ⟨sources, _, generated, rfl, declare⟩

/-- Types with an enumeration in a namespace. -/
def sampleTypes : Registry :=
  Registry.empty.registerEnum ⟨"Game.Rarity", false, [⟨"Common", none⟩, ⟨"Epic", some 10⟩]⟩

/-- Templates of a few lines for record classes and searchable lists. -/
def shortTemplates : Files :=
  { Files.empty with
    contents := [
      (["work", "RecordClass.txt"], "class %ClassName%:\n%Fields%\n".toUTF8),
      (["work", "SearchableListTable.txt"],
        "%ClassName% %TableClassName%.Find(%FindParams%) => %FindPredicate%\n".toUTF8)] }

/-- A pipeline before anything was converted, with some types and with these templates. -/
def sampleGenerator : Pipeline :=
  { config := Config.default
    registry := sampleTypes
    templates := ⟨some ".", .shipped⟩
    catalog := Index.empty }

/-- Columns with a comment, with several columns of one array, which is one of arrays, and
with columns that repeat a name or disagree with an earlier column. -/
def sampleColumns : View :=
  (Grid.ofRows [
    ["id", "#note", "size[0]", " size[1]", "size", "id", "id", "kind"],
    ["Int32", "int", "int[]", " Int32[] ", "int", "int", "long", "Rarity"]]).view

/-- A list of items that is searched by number and kind. -/
def sampleItemSetting : Setting :=
  { Setting.ofClass "Item" .table with keyFields := "id, kind" }

/-- A pipeline with these types that has converted items before. -/
def sampleConverter : Pipeline := { sampleStart with registry := sampleTypes }

/-- The class has a line for each name of a column, and the table is searched by both keys. -/
theorem sampleColumns_declared :
    sampleGenerator.registry = sampleConverter.registry ∧ sampleItemSetting.output ≠ .enum
      ∧ ∃ sources output,
        sampleGenerator.generateSources shortTemplates sampleItemSetting sampleColumns = .ok sources
        ∧ (sampleConverter.convertGrid sampleItemSetting sampleColumns).1 = .ok output
        ∧ Declare sampleGenerator shortTemplates sampleItemSetting sources output
          (sampleConverter.convertGrid sampleItemSetting sampleColumns).2
        ∧ output.recordType = some ⟨"Item", false, [⟨"id", .int⟩, ⟨"size", .array (.array .int)⟩,
          ⟨"kind", .enum "Game.Rarity"⟩]⟩
        ∧ sources = [
          ⟨"Item.cs", "class Item:\n    public Int32 id;\n    public int[][] size;\n"
            ++ "    public Rarity kind;\n"⟩,
          ⟨"ItemTable.cs",
            "Item ItemTable.Find(Int32 id, Rarity kind) => o.id == id && o.kind == kind\n"⟩] := by
  have same : sampleGenerator.registry = sampleConverter.registry := rfl
  have notEnum : sampleItemSetting.output ≠ .enum := by decide
  have written : (sampleGenerator.generateSources shortTemplates sampleItemSetting
      sampleColumns).toOption = some [
        ⟨"Item.cs", "class Item:\n    public Int32 id;\n    public int[][] size;\n"
          ++ "    public Rarity kind;\n"⟩,
        ⟨"ItemTable.cs",
          "Item ItemTable.Find(Int32 id, Rarity kind) => o.id == id && o.kind == kind\n"⟩] := by
    decide +kernel
  have typed : (sampleConverter.convertGrid sampleItemSetting sampleColumns).1.toOption.bind
      ConversionOutput.recordType = some ⟨"Item", false, [⟨"id", .int⟩,
        ⟨"size", .array (.array .int)⟩, ⟨"kind", .enum "Game.Rarity"⟩]⟩ := by
    decide +kernel
  refine ⟨same, notEnum, ?_⟩
  rcases @generateSources_declare sampleGenerator sampleConverter shortTemplates sampleItemSetting
    sampleColumns same notEnum with
    ⟨error, failed, _⟩ | ⟨sources, output, generated, converted, declare⟩
  · rw [failed] at written
    cases written
  · rw [generated] at written
    rw [converted] at typed
    exact ⟨sources, output, generated, converted, declare, typed, Option.some.inj written⟩

end TypedSheets.Pipeline
