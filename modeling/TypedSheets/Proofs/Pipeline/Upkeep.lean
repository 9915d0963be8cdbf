import TypedSheets.Proofs.Pipeline.Effects
import TypedSheets.Proofs.Pipeline.Run
import TypedSheets.Proofs.Types.Numbering

/-!
# What a run keeps

Sheets that are no enumerations keep the types, and an enumeration stays registered until
another sheet of its class is converted. A table that a sheet made keeps its keys, if no later
join appends to one of them, so every later join tells of it what it would tell of the table
as it was made.
-/

namespace TypedSheets

/-- Whether a setting appends to none of some keys, if it joins into a table of a name. -/
def Setting.Spares (setting : Setting) (name : String) (keys : List String) : Prop :=
  ∀ join, setting.join = some join → join.targetTable = name → join.targetListField ∉ keys

instance (setting : Setting) (name : String) (keys : List String) :
    Decidable (setting.Spares name keys) :=
  inferInstanceAs (Decidable (∀ join ∈ setting.join, join.targetTable = name →
    join.targetListField ∉ keys))

namespace Pipeline

variable {pipeline before after final left right : Pipeline} {files : Files}
  {setting target : Setting} {settings : List Setting} {view : View} {output : ConversionOutput}
  {outputs : List ConversionOutput} {definition : EnumDef} {name : String} {table : Table}

theorem config_convertSettings
    (ran : pipeline.convertSettings files settings = (.ok outputs, final)) :
    final.config = pipeline.config := by
  induction settings generalizing pipeline outputs with
  | nil =>
      cases ran
      rfl
  | cons setting settings ih =>
      rcases convertSettings_cons_ok ran with ⟨output, between, others, converted, rest, rfl⟩
      rcases ends_of_convertSetting converted with ⟨view, ends⟩
      rw [ih rest, config_of_ends ends]

theorem registry_convertSettings (noEnums : ∀ setting ∈ settings, setting.output ≠ .enum)
    (ran : pipeline.convertSettings files settings = (.ok outputs, final)) :
    final.registry = pipeline.registry := by
  induction settings generalizing pipeline outputs with
  | nil =>
      cases ran
      rfl
  | cons setting settings ih =>
      rcases convertSettings_cons_ok ran with ⟨output, between, others, converted, rest, rfl⟩
      rcases ends_of_convertSetting converted with ⟨view, ends⟩
      have first := registry_of_ends (noEnums setting List.mem_cons_self) ends
      rw [ih (fun other member => noEnums other (List.mem_cons_of_mem _ member)) rest, first]

/-! ## Registered enumerations -/

/-- Whether an enumeration is registered under its name. -/
def Knows (pipeline : Pipeline) (definition : EnumDef) : Prop :=
  pipeline.registry.named? definition.name = some definition.normalized

theorem knows_of_ends (isEnum : setting.output = .enum)
    (ends : Ends before setting view (.ok output, after)) :
    after.Knows (enumOfSheet setting view) := by
  rcases enumeration_of_ends isEnum ends with ⟨_, rfl⟩
  rw [Knows, Registry.named?_registerEnum, if_pos rfl]

/-- An enumeration stays when the sheet of another class is converted. -/
theorem Knows.of_ends (knows : before.Knows definition)
    (ends : Ends before setting view (.ok output, after))
    (different : setting.className ≠ definition.name) : after.Knows definition := by
  by_cases isEnum : setting.output = .enum
  · rcases enumeration_of_ends isEnum ends with ⟨_, rfl⟩
    have other : (enumOfSheet setting view).name ≠ definition.name := different
    rw [Knows, Registry.named?_registerEnum, if_neg other]
    exact knows
  · rw [Knows, registry_of_ends isEnum ends]
    exact knows

theorem Knows.convertSettings (knows : pipeline.Knows definition)
    (ran : pipeline.convertSettings files settings = (.ok outputs, final))
    (others : definition.name ∉ settings.map Setting.className) : final.Knows definition := by
  induction settings generalizing pipeline outputs with
  | nil =>
      cases ran
      exact knows
  | cons setting settings ih =>
      rcases convertSettings_cons_ok ran with ⟨output, between, _, converted, rest, rfl⟩
      rcases ends_of_convertSetting converted with ⟨view, ends⟩
      rw [List.map_cons, List.mem_cons, not_or] at others
      exact ih (knows.of_ends ends (Ne.symm others.1)) rest others.2

/-- Converting an enumeration sheet of a run once more registers nothing new. -/
theorem registry_of_converted_again (distinct : (settings.map Setting.className).Nodup)
    (ran : pipeline.convertSettings files settings = (.ok outputs, final))
    (member : target ∈ settings) (isEnum : target.output = .enum)
    (again : final.convertSetting files target = (.ok output, after)) :
    after.registry = final.registry := by
  rcases exists_turn ran member with
    ⟨front, back, _, middle, _, between, _, rfl, _, converted, rest, _⟩
  rcases exists_sheet_of_convertSetting converted with ⟨view, read, ends⟩
  rcases exists_sheet_of_convertSetting again with ⟨viewAgain, readAgain, endsAgain⟩
  obtain rfl := Except.ok.inj (readAgain.symm.trans read)
  have knows : final.Knows (enumOfSheet target viewAgain) :=
    (knows_of_ends isEnum ends).convertSettings rest (notMem_later distinct)
  rcases enumeration_of_ends isEnum endsAgain with ⟨_, rfl⟩
  exact Registry.registerEnum_of_named? knows

/-! ## The keys of tables -/

/-- Whether a setting makes a table of its sheet under the types of a pipeline. -/
def Makes (pipeline : Pipeline) (files : Files) (setting : Setting) (table : Table) : Prop :=
  ∃ view, sheetOf files setting = .ok view ∧ pipeline.ownTable? setting view = .ok (some table)

theorem Makes.unique {one other : Table} (makes : left.Makes files setting one)
    (also : right.Makes files setting other) (same : left.registry = right.registry) :
    one = other := by
  rcases makes with ⟨view, read, made⟩
  rcases also with ⟨viewAlso, readAlso, madeAlso⟩
  obtain rfl := Except.ok.inj (readAlso.symm.trans read)
  rw [ownTable?_congr same, madeAlso] at made
  exact (Option.some.inj (Except.ok.inj made)).symm

theorem Makes.shape (makes : pipeline.Makes files setting table) :
    table.keyFields = setting.keys ∧ table.HasBuiltInFinders := by
  rcases makes with ⟨view, _, made⟩
  have shape := ownTable?_ok made
  split at shape
  · rcases shape with ⟨strategy, _, same⟩
    obtain rfl := Option.some.inj same
    exact ⟨rfl, rfl⟩
  · cases shape

/-- A table setting makes the table of its class. -/
theorem exists_makes (isTable : setting.output = .table)
    (converted : before.convertSetting files setting = (.ok output, after)) :
    ∃ table, before.Makes files setting table
      ∧ after.catalog.get? setting.className = some table := by
  rcases exists_sheet_of_convertSetting converted with ⟨view, read, ends⟩
  rcases exists_own_of_ends isTable ends with ⟨strategy, made, _, present⟩
  exact ⟨before.tableIn setting view strategy, ⟨view, read, made⟩, present⟩

/-- Whether there is a table of a name that has the keys of a given one. -/
def Holds (pipeline : Pipeline) (name : String) (table : Table) : Prop :=
  ∃ held, pipeline.catalog.get? name = some held ∧ table.SameKeys held

/-- The keys of a table stay when the sheet of another class is converted. -/
theorem Holds.of_ends (holds : before.Holds name table)
    (ends : Ends before setting view (.ok output, after)) (different : name ≠ setting.className)
    (spares : setting.Spares name table.keyFields) : after.Holds name table := by
  by_cases isEnum : setting.output = .enum
  · rcases enumeration_of_ends isEnum ends with ⟨_, rfl⟩
    exact holds
  · rcases holds with ⟨held, present, same⟩
    rw [Holds, get?_of_ends isEnum ends fun _ => different, get?_joinedOf]
    cases joins : setting.join with
    | none => exact ⟨held, present, same⟩
    | some join =>
        by_cases here : name = join.targetTable
        · simp only [if_pos here, present, Option.map_some]
          refine ⟨_, rfl, same.trans (.of_sameBut (Join.run_sameBut join _ _ held) ?_)⟩
          rw [same.keyFields]
          exact spares join joins here.symm
        · simp only [if_neg here]
          exact ⟨held, present, same⟩

theorem Holds.convertSettings (holds : pipeline.Holds name table)
    (ran : pipeline.convertSettings files settings = (.ok outputs, final))
    (others : name ∉ settings.map Setting.className)
    (spares : ∀ setting ∈ settings, setting.Spares name table.keyFields) :
    final.Holds name table := by
  induction settings generalizing pipeline outputs with
  | nil =>
      cases ran
      exact holds
  | cons setting settings ih =>
      rcases convertSettings_cons_ok ran with ⟨output, between, _, converted, rest, rfl⟩
      rcases ends_of_convertSetting converted with ⟨view, ends⟩
      rw [List.map_cons, List.mem_cons, not_or] at others
      rw [List.forall_mem_cons] at spares
      exact ih (holds.of_ends ends others.1 spares.1) rest others.2 spares.2

/-- A run without enumerations holds the table of each of its table settings with the keys
that it makes it with. -/
theorem exists_holds (distinct : (settings.map Setting.className).Nodup)
    (ran : pipeline.convertSettings files settings = (.ok outputs, final))
    (noEnums : ∀ setting ∈ settings, setting.output ≠ .enum) (member : target ∈ settings)
    (isTable : target.output = .table)
    (spares : ∀ setting ∈ settings, setting.Spares target.className target.keys) :
    ∃ table, pipeline.Makes files target table ∧ final.Holds target.className table := by
  rcases exists_turn ran member with
    ⟨front, back, _, middle, _, between, _, rfl, frontRan, converted, rest, _⟩
  rcases exists_makes isTable converted with ⟨table, makes, present⟩
  have types : middle.registry = pipeline.registry :=
    registry_convertSettings (fun setting listed => noEnums setting (List.mem_append_left _ listed))
      frontRan
  have held : between.Holds target.className table := ⟨table, present, .refl table⟩
  refine ⟨table, ?_, held.convertSettings rest (notMem_later distinct) fun setting listed => ?_⟩
  · rcases makes with ⟨view, read, made⟩
    exact ⟨view, read, ownTable?_congr types ▸ made⟩
  · rw [makes.shape.1]
    exact spares setting (List.mem_append_right _ (List.mem_cons_of_mem _ listed))

/-! ## What a sheet gives -/

/-- A sheet that is joined into nothing gives the same under the same types. -/
theorem recordsOutput_congr (same : left.registry = right.registry) (single : setting.join = none)
    (view : View) : left.recordsOutput setting view = right.recordsOutput setting view := by
  simp only [recordsOutput, joinedOf, joinStep, single, recordTypeOf_congr same,
    resultOf_congr same]

/-- A joined sheet gives the same under the same types if its target has the same keys. -/
theorem recordsOutput_of_holds (same : left.registry = right.registry) {join : JoinSetting}
    (joins : setting.join = some join) (holds : left.Holds join.targetTable table)
    (also : right.Holds join.targetTable table) (builtIn : table.HasBuiltInFinders)
    (separate : join.targetListField ∉ table.keyFields) (view : View) :
    left.recordsOutput setting view = right.recordsOutput setting view := by
  rcases holds with ⟨held, present, keys⟩
  rcases also with ⟨other, presentAlso, keysAlso⟩
  have outcome := Join.run_outcome_eq keys builtIn separate
  have outcomeAlso := Join.run_outcome_eq keysAlso builtIn separate
  have name : held.name = table.name := by rw [keys.table]
  have nameAlso : other.name = table.name := by rw [keysAlso.table]
  simp only [recordsOutput, joinedOf, joinStep, joins, joinInto, present, presentAlso,
    recordTypeOf_congr same, resultOf_congr same, outcome, outcomeAlso, name, nameAlso]

/-- A joined sheet gives the same under the same types if its target is not there. -/
theorem recordsOutput_of_absent (same : left.registry = right.registry) {join : JoinSetting}
    (joins : setting.join = some join) (absent : left.catalog.get? join.targetTable = none)
    (also : right.catalog.get? join.targetTable = none) (view : View) :
    left.recordsOutput setting view = right.recordsOutput setting view := by
  simp only [recordsOutput, joinedOf, joinStep, joins, joinInto, absent, also,
    recordTypeOf_congr same, resultOf_congr same]

end Pipeline

end TypedSheets
