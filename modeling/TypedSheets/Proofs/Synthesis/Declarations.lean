import TypedSheets.Proofs.Schema.Declarations
import TypedSheets.Proofs.Text.Split
import TypedSheets.Synthesis.Source

/-!
# What generated sources declare

Sources are templates with values put in, and the values are said here by what they declare. A
field is declared by its name and a text that stands for its type, a member by its name and its
number. The class of a table declares the keys by which it is searched in the same way: a
dictionary its one key, and a searchable list all of them, as the parameters and the condition of a
search.
-/

namespace TypedSheets.Synthesis

variable {registry : Registry} {schema : Schema} {className key : String} {isPure : Bool}
  {column : FieldSchema} {field : FieldDescriptor} {setting : Setting} {strategy : TableStrategy}

/-- The text of a template file with values put in. -/
def fillFile (templates : TemplateLocator) (files : Files) (fileName : String)
    (values : List (String × String)) : String :=
  (Template.mk (templates.load files fileName)).render values

/-! ## Fields -/

/-- Whether a line declares a field: for all to see, by its name, which follows a text that stands
for its type. -/
def DeclaresField (registry : Registry) (line : String) (field : FieldDescriptor) : Prop :=
  ∃ typeText, registry.resolve? typeText = some field.type
    ∧ line = "    public " ++ typeText ++ " " ++ field.name ++ ";"

theorem declaresField_fieldDeclaration (declares : column.Declares registry field) :
    DeclaresField registry (fieldDeclaration column) field := by
  refine ⟨column.typeText, declares.type, ?_⟩
  rw [fieldDeclaration, declares.name]

/-- Each line of a record class declares the field of the class of the schema in its place. -/
theorem declaresField_distinct (coherent : schema.Coherent registry) (className : String)
    (isPure : Bool) :
    List.Forall₂ (DeclaresField registry) (schema.distinct.map fieldDeclaration)
      (RecordType.ofSchema registry className schema isPure).fields := by
  rw [List.forall₂_map_left_iff]
  exact (Schema.declares_distinct coherent className isPure).imp fun _ _ declares =>
    declaresField_fieldDeclaration declares

theorem recordClass_eq (templates : TemplateLocator) (files : Files) (name : String)
    (schema : Schema) (isPure : Bool) :
    recordClass templates files name schema isPure
      = fillFile templates files (if isPure then "PureRecordClass.txt" else "RecordClass.txt") [
        ("ClassName", name),
        ("Fields", "\n".intercalate (schema.distinct.map fieldDeclaration))] := by
  cases isPure <;> rfl

/-! ## Keys -/

/-- Whether a text stands for the type of the field that a key names. -/
def TypesKey (registry : Registry) (type : RecordType) (key typeText : String) : Prop :=
  ∃ field ∈ type.fields, field.name = key ∧ registry.resolve? typeText = some field.type

/-- The template file for tables of a shape. -/
def tableFile : TableStrategy → String
  | .dictionary => "DictionaryTable.txt"
  | .searchableList => "SearchableListTable.txt"
  | .plainList => "ListTable.txt"

/-- What a table class declares about the search by keys, depending on the shape of the table. -/
inductive SearchValues (registry : Registry) (type : RecordType) (keys : List String) :
    TableStrategy → List (String × String) → Prop where
  | dictionary {key typeText : String} (only : keys = [key])
      (typed : TypesKey registry type key typeText) :
      SearchValues registry type keys .dictionary [("KeyType", typeText), ("KeyName", key)]
  /-- The comma and the conjunction after the last key are left out. -/
  | searchableList {typeTexts : List String} {parameters condition : String}
      (typed : List.Forall₂ (TypesKey registry type) keys typeTexts)
      (declared : Text.TrimmedOf ", " ("".intercalate (List.zipWith
        (fun key typeText => typeText ++ " " ++ key ++ ", ") keys typeTexts)) parameters)
      (compared : Text.TrimmedOf " && " ("".intercalate (keys.map
        fun key => "o." ++ key ++ " == " ++ key ++ " && ")) condition) :
      SearchValues registry type keys .searchableList
        [("FindParams", parameters), ("FindPredicate", condition)]
  | plainList : SearchValues registry type keys .plainList []

/-- The column that a key finds has the name of the key, and its declaration the type. -/
theorem typesKey_of_find? (coherent : schema.Coherent registry) (className : String) (isPure : Bool)
    (found : schema.find? key = some column) :
    column.baseName = key
      ∧ TypesKey registry (RecordType.ofSchema registry className schema isPure) key
        column.typeText := by
  have counts := List.find?_some found
  rw [Bool.and_eq_true, beq_iff_eq] at counts
  obtain rfl := counts.2
  have member := Schema.mem_valid_of_find? found
  rcases coherent.resolved column member with ⟨type, resolved⟩
  rcases RecordType.field?_ofSchema coherent className isPure member with ⟨field, present, typed⟩
  rw [FieldSchema.fieldType?, resolved, Option.map_some, Option.some.injEq] at typed
  refine ⟨rfl, field, List.mem_of_find?_eq_some present, RecordType.name_of_field? present, ?_⟩
  rw [FieldSchema.resolve?_typeText resolved, typed]

/-- A key whose field is valid finds a column. -/
theorem find?_of_isValid (valid : ((schema.find? key).getD (.missing key)).isValid = true) :
    schema.find? key = some ((schema.find? key).getD (.missing key)) := by
  cases found : schema.find? key with
  | some column => rfl
  | none =>
      rw [found] at valid
      cases valid

/-- The names and types of valid keys are those that their columns declare. -/
theorem typesKey_keyFields (coherent : schema.Coherent registry) (className : String)
    (isPure : Bool) {keys : List String}
    (valid : ∀ column ∈ schema.keyFields keys, column.isValid = true) :
    (schema.keyFields keys).map FieldSchema.baseName = keys
      ∧ List.Forall₂ (TypesKey registry (RecordType.ofSchema registry className schema isPure)) keys
        ((schema.keyFields keys).map FieldSchema.typeText) := by
  induction keys with
  | nil => exact ⟨rfl, .nil⟩
  | cons key keys ih =>
      rcases List.forall_mem_cons.mp valid with ⟨first, others⟩
      rcases ih others with ⟨names, types⟩
      rcases typesKey_of_find? coherent className isPure (find?_of_isValid first) with
        ⟨named, typed⟩
      exact ⟨congrArg₂ List.cons named names, .cons typed types⟩

/-- The search of a list has a parameter and a condition for each key. -/
theorem findSignature_trimmedOf (keys : List FieldSchema) :
    Text.TrimmedOf ", " ("".intercalate (List.zipWith
        (fun key typeText => typeText ++ " " ++ key ++ ", ") (keys.map FieldSchema.baseName)
        (keys.map FieldSchema.typeText))) (findSignature keys).1
      ∧ Text.TrimmedOf " && " ("".intercalate ((keys.map FieldSchema.baseName).map
        fun key => "o." ++ key ++ " == " ++ key ++ " && ")) (findSignature keys).2 := by
  rw [List.zipWith_map, List.zipWith_self, List.map_map]
  exact ⟨Text.trimmedOf_trimEndings (by decide) _, Text.trimmedOf_trimEndings (by decide) _⟩

/-- A dictionary has one key and a searchable list some, all of them with columns. -/
theorem valid_of_select {keys : List FieldSchema}
    (selected : TableStrategy.select setting keys = .ok strategy) :
    (strategy = .dictionary → ∃ column, keys = [column])
      ∧ (strategy ≠ .plainList → ∀ column ∈ keys, column.isValid = true) := by
  cases kind : setting.tableKind with
  | dictionary =>
      match keys with
      | [] => simp [TableStrategy.select, kind] at selected
      | [column] =>
          cases valid : column.isValid with
          | false => simp [TableStrategy.select, kind, valid] at selected
          | true => exact ⟨fun _ => ⟨column, rfl⟩, fun _ => List.forall_mem_singleton.mpr valid⟩
      | _ :: _ :: _ => simp [TableStrategy.select, kind] at selected
  | list =>
      simp only [TableStrategy.select, kind] at selected
      split at selected
      · next valid =>
          cases selected
          exact ⟨nofun, fun _ => List.all_eq_true.mp valid.2⟩
      · cases selected
        exact ⟨nofun, fun shaped => absurd rfl shaped⟩

/-- The values of a table class are its name, that of its record class, and what it declares about
its keys. -/
theorem exists_searchValues (coherent : schema.Coherent registry) (className : String)
    (isPure : Bool)
    (selected : TableStrategy.select setting (schema.keyFields setting.keys) = .ok strategy)
    (name : String) :
    ∃ values, SearchValues registry (RecordType.ofSchema registry className schema isPure)
        setting.keys strategy values
      ∧ tableValues strategy name setting.className (schema.keyFields setting.keys)
        = ("TableClassName", name) :: ("ClassName", setting.className) :: values := by
  rcases valid_of_select selected with ⟨single, valid⟩
  cases strategy with
  | dictionary =>
      rcases single rfl with ⟨column, only⟩
      have types := typesKey_keyFields coherent className isPure (valid nofun)
      rw [only] at types ⊢
      rcases types with ⟨names, types⟩
      rw [← names] at types ⊢
      exact ⟨_, .dictionary rfl (List.forall₂_cons.mp types).1, rfl⟩
  | searchableList =>
      rcases typesKey_keyFields coherent className isPure (valid nofun) with ⟨names, types⟩
      have signature := findSignature_trimmedOf (schema.keyFields setting.keys)
      rw [names] at signature
      exact ⟨_, .searchableList types signature.1 signature.2, rfl⟩
  | plainList => exact ⟨_, .plainList, rfl⟩

theorem tableClass_of_select (templates : TemplateLocator) (files : Files)
    {keys : List FieldSchema} (selected : TableStrategy.select setting keys = .ok strategy)
    (name : String) :
    tableClass templates files setting name keys
      = .ok (fillFile templates files (tableFile strategy)
        (tableValues strategy name setting.className keys)) := by
  rw [tableClass, selected]
  cases strategy <;> rfl

/-! ## Members -/

/-- The line that declares a member. -/
def memberLine (member : EnumMember) : String :=
  match member.value with
  | some value => "    " ++ member.name ++ " = " ++ toString value.toInt ++ ","
  | none => "    " ++ member.name ++ ","

theorem memberDeclaration_eq : memberDeclaration = memberLine := by
  funext ⟨name, value⟩
  cases value with
  | none => rfl
  | some value => simp only [memberDeclaration, memberLine, Numeral.wordText_eq]

theorem enumSource_eq (templates : TemplateLocator) (files : Files) (name : String)
    (members : List EnumMember) (flags : Bool) :
    enumSource templates files name members flags
      = fillFile templates files "Enum.txt" [
        ("ClassName", name),
        ("Attributes", if flags then "[Flags]\n" else ""),
        ("EnumMembers", "\n".intercalate (members.map memberLine))] := by
  rw [← memberDeclaration_eq]
  rfl

end TypedSheets.Synthesis
