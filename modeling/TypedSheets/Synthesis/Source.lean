import TypedSheets.Synthesis.Strategy
import TypedSheets.Synthesis.Template

/-!
# Generated sources

The declarations that templates are filled with: the fields of a record class, the
keys and the search of a table class, and the members of an enumeration.
-/

namespace TypedSheets.Synthesis

/-- The template of a table shape. -/
def templateOf : TableStrategy → TemplateName
  | .dictionary => .dictionaryTable
  | .searchableList => .searchableListTable
  | .plainList => .listTable

/-- The parameters and the condition of a search by keys. Commas and conjunctions that
end them are taken off, those of the last key included. -/
def findSignature (keys : List FieldSchema) : String × String :=
  let parameters := keys.map fun key => key.typeText ++ " " ++ key.baseName ++ ", "
  let conditions := keys.map fun key => "o." ++ key.baseName ++ " == " ++ key.baseName ++ " && "
  (Text.trimEndings ", " ("".intercalate parameters), Text.trimEndings " && " ("".intercalate conditions))

/-- The declaration of a field. -/
def fieldDeclaration (field : FieldSchema) : String :=
  "    public " ++ field.typeText ++ " " ++ field.baseName ++ ";"

/-- The declaration of a member. -/
def memberDeclaration (member : EnumMember) : String :=
  match member.value with
  | some value => "    " ++ member.name ++ " = " ++ Numeral.wordText value ++ ","
  | none => "    " ++ member.name ++ ","

/-- The values of a record class template. -/
def recordValues (name : String) (schema : Schema) : List (String × String) := [
  ("ClassName", name),
  ("Fields", "\n".intercalate (schema.distinct.map fieldDeclaration))]

/-- The values of a table class template of a shape. -/
def tableValues (strategy : TableStrategy) (tableClass className : String)
    (keys : List FieldSchema) : List (String × String) :=
  ("TableClassName", tableClass) :: ("ClassName", className) ::
    match strategy, keys with
    | .dictionary, key :: _ => [("KeyType", key.typeText), ("KeyName", key.baseName)]
    | .searchableList, keys =>
        let (parameters, condition) := findSignature keys
        [("FindParams", parameters), ("FindPredicate", condition)]
    | _, _ => []

/-- The values of an enumeration template. -/
def enumValues (name : String) (members : List EnumMember) (flags : Bool) :
    List (String × String) := [
  ("ClassName", name),
  ("Attributes", if flags then "[Flags]\n" else ""),
  ("EnumMembers", "\n".intercalate (members.map memberDeclaration))]

/-- The source of a record class. -/
def recordClass (templates : TemplateLocator) (files : Files) (name : String) (schema : Schema)
    (isPure : Bool) : String :=
  (templates.template files (if isPure then .pureRecordClass else .recordClass)).render
    (recordValues name schema)

/-- The source of a table class. -/
def tableClass (templates : TemplateLocator) (files : Files) (setting : Setting)
    (name : String) (keys : List FieldSchema) : Except SynthesisError String :=
  (TableStrategy.select setting keys).map fun strategy =>
    (templates.template files (templateOf strategy)).render
      (tableValues strategy name setting.className keys)

/-- The source of an enumeration. -/
def enumSource (templates : TemplateLocator) (files : Files) (name : String)
    (members : List EnumMember) (flags : Bool) : String :=
  (templates.template files .enum).render (enumValues name members flags)

end TypedSheets.Synthesis
