import TypedSheets.Text.Blank
import TypedSheets.Types.EnumDef
import TypedSheets.Types.ValueType

/-!
# Type registries

The types that sheets may declare: enumerations in the order in which their names
were first registered, and the names of reference types and record classes. A
declared type name resolves to one type at most, and a primitive or composite name
cannot be taken over by a registered one.
-/

namespace TypedSheets

/-- The types known to a conversion. -/
structure Registry where
  enums : List EnumDef
  references : List String
  records : List String

namespace Registry

/-- No types but the primitive and composite ones. -/
def empty : Registry := ⟨[], [], []⟩

/-- Put an enumeration in place of the one with its name, or at the end. -/
def putEnum (definition : EnumDef) : List EnumDef → List EnumDef
  | [] => [definition]
  | other :: others =>
      if other.name = definition.name then definition :: others
      else other :: putEnum definition others

/-- Register an enumeration, with values for its members. -/
def registerEnum (registry : Registry) (definition : EnumDef) : Registry :=
  { registry with enums := putEnum definition.normalized registry.enums }

/-- Register the name of a reference type. -/
def registerReference (registry : Registry) (name : String) : Registry :=
  { registry with references := registry.references ++ [name] }

/-- Register the name of a record class. -/
def registerRecord (registry : Registry) (name : String) : Registry :=
  { registry with records := registry.records ++ [name] }

/-- Whether a name is that of a reference type. -/
def isReference (registry : Registry) (name : String) : Bool :=
  registry.references.contains name

/-- The enumerations that a name means. -/
def findEnums (registry : Registry) (name : String) : List EnumDef :=
  registry.enums.filter (·.answersTo name)

/-- The enumeration that a name stands for: the one of that name, else the first whose
short name it is. -/
def lookupEnum? (registry : Registry) (name : String) : Option EnumDef :=
  match registry.enums.find? fun definition => definition.name == name with
  | some definition => some definition
  | none => (registry.findEnums name).head?

/-- The type that a name other than that of an array stands for. -/
def resolveSimple? (registry : Registry) (name : String) : Option ValueType :=
  match ValueType.primitive? name with
  | some type => some type
  | none =>
      match CompositeKind.ofName? name with
      | some kind => some (.composite kind)
      | none =>
          match registry.lookupEnum? name with
          | some definition => some (.enum definition.name)
          | none =>
              if registry.references.contains name then some (.reference name)
              else if registry.records.contains name then some (.record name)
              else none

theorem length_trimChars_le (characters : List Char) :
    (Text.trimChars characters).length ≤ characters.length := by
  unfold Text.trimChars Text.trimEnd Text.trimStart
  have first := (List.dropWhile_sublist Text.isBlank (l := characters)).length_le
  have second :=
    (List.dropWhile_sublist Text.isBlank (l := (characters.dropWhile Text.isBlank).reverse)).length_le
  simp only [List.length_reverse] at second ⊢
  omega

theorem length_lt_of_stripSuffix? {ending characters rest : List Char}
    (found : Text.stripSuffix? ending characters = some rest) (nonempty : ending ≠ []) :
    rest.length < characters.length := by
  obtain ⟨reversed, stripped, equal⟩ := Option.map_eq_some_iff.mp found
  have whole := congrArg List.length (Text.eq_append_of_stripPrefix? stripped)
  have positive : 0 < ending.length := List.length_pos_iff.mpr nonempty
  simp only [List.length_reverse, List.length_append] at whole
  subst equal
  simp only [List.length_reverse]
  omega

/-- The type that declared characters stand for: after trimming, an ending `[]` makes
an array of what is before it. -/
def resolveChars? (registry : Registry) (declared : List Char) : Option ValueType :=
  if Text.trimChars declared = [] then none
  else
    match _found : Text.stripSuffix? ['[', ']'] (Text.trimChars declared) with
    | some element => (registry.resolveChars? element).map .array
    | none => registry.resolveSimple? (String.ofList (Text.trimChars declared))
termination_by declared.length
decreasing_by
  have shorter := length_lt_of_stripSuffix? _found (by simp)
  have trimmed := length_trimChars_le declared
  omega

/-- The type that a declared type name stands for. -/
def resolve? (registry : Registry) (declared : String) : Option ValueType :=
  registry.resolveChars? declared.toList

end Registry

end TypedSheets
