import TypedSheets.Proofs.Schema.Agreement
import TypedSheets.Proofs.Types.Resolution
import TypedSheets.Proofs.Types.Succession

/-!
# Names that declare an enumeration

Blanks around a declared type do not count, brackets at its end make arrays, and the names of
the built-in types come before those of enumerations. A text declares an enumeration when what is
left of it after all this stands for one. So an enumeration is declared by its own name exactly
when the name has no blanks around it, does not end in brackets and is none of a built-in type.
-/

namespace TypedSheets

namespace ValueType

variable {name other : String}

/-- The keywords of the primitive types and their aliases. -/
def keywords : List String :=
  ["bool", "boolean", "Boolean", "byte", "Byte", "short", "Int16", "int", "Int32", "long", "Int64",
    "float", "Single", "double", "Double", "string", "String"]

/-- The names of the types that need not be registered. -/
def builtInNames : List String :=
  keywords ++ CompositeKind.all.map CompositeKind.name

theorem primitive?_eq_none_iff : primitive? name = none ↔ name ∉ keywords := by
  simp only [primitive?, keywords]
  split <;> simp_all

theorem primitive?_ne_enum : primitive? name ≠ some (.enum other) := by
  simp only [primitive?]
  split <;> simp

theorem ofName?_eq_none_iff :
    CompositeKind.ofName? name = none ↔ name ∉ CompositeKind.all.map CompositeKind.name := by
  simp [CompositeKind.ofName?, List.find?_eq_none]

end ValueType

namespace EnumDef

variable {definition : EnumDef}

theorem shortName_eq_name (free : '.' ∉ definition.name.toList) :
    definition.shortName = definition.name := by
  rw [shortName, Text.afterLast, Text.splitLast?_of_not_mem free, String.ofList_toList]

theorem dot_notMem_shortName (definition : EnumDef) : '.' ∉ definition.shortName.toList := by
  rw [shortName, String.toList_ofList]
  exact Text.notMem_afterLast '.' _

/-- The short name of an enumeration is not its name with the blanks taken off, unless there is
nothing to take off. -/
theorem trim_name_of_answersTo (answers : definition.answersTo (Text.trim definition.name) = true) :
    Text.trim definition.name = definition.name := by
  rw [answersTo, Bool.or_eq_true, beq_iff_eq, beq_iff_eq] at answers
  rcases answers with full | short
  · exact full.symm
  · by_cases dotted : '.' ∈ definition.name.toList
    · -- A dot stays when blanks are taken off, and the short name has none.
      have kept : '.' ∈ (Text.trim definition.name).toList := by
        rcases List.append_of_mem dotted with ⟨front, back, split⟩
        rw [Text.toList_trim, split, Text.trimChars_append_cons (by decide)]
        simp
      rw [← short] at kept
      exact absurd kept (dot_notMem_shortName definition)
    · exact short.symm.trans (shortName_eq_name dotted)

end EnumDef

namespace Registry

variable {registry : Registry} {name other declared : String} {definition : EnumDef}
variable {type : ValueType}

/-- A name without brackets declares an enumeration when it is no built-in one and stands for
the enumeration. -/
theorem resolveSimple?_eq_enum_iff :
    registry.resolveSimple? name = some (.enum other)
      ↔ name ∉ ValueType.builtInNames
        ∧ ∃ definition, registry.lookupEnum? name = some definition ∧ definition.name = other := by
  rw [ValueType.builtInNames, List.mem_append, not_or, ← ValueType.primitive?_eq_none_iff,
    ← ValueType.ofName?_eq_none_iff, resolveSimple?]
  cases primitive : ValueType.primitive? name with
  | some type =>
      have different : some type ≠ some (ValueType.enum other) :=
        primitive ▸ ValueType.primitive?_ne_enum
      simpa using different
  | none =>
      cases composite : CompositeKind.ofName? name with
      | some kind => simp
      | none =>
          cases found : registry.lookupEnum? name with
          | some definition => simp
          | none =>
              simp only [true_and, reduceCtorEq, false_and, exists_false, iff_false]
              split
              · simp
              · split <;> simp

/-- A text that is not blank and does not end in brackets stands for what the text between its
blanks stands for. -/
theorem resolve?_of_simple (visible : Text.trim declared ≠ "")
    (simple : ¬['[', ']'] <:+ (Text.trim declared).toList) :
    registry.resolve? declared = registry.resolveSimple? (Text.trim declared) := by
  have shown : Text.trimChars declared.toList ≠ [] := by simpa [Text.trim] using visible
  rw [Text.toList_trim, ← Text.stripSuffix?_eq_none_iff] at simple
  rw [resolve?, resolveChars?, if_neg shown]
  split
  · next element found => simp [found] at simple
  · rfl

/-- A text that ends in brackets declares no enumeration. -/
theorem resolve?_ne_enum_of_brackets (brackets : ['[', ']'] <:+ (Text.trim declared).toList) :
    registry.resolve? declared ≠ some (.enum other) := by
  rw [resolve?, resolveChars?]
  split
  · simp
  · split
    · simp
    · next absent =>
        rw [Text.stripSuffix?_eq_none_iff, ← Text.toList_trim] at absent
        exact absurd brackets absent

/-- A text declares an enumeration when it is not blank, does not end in brackets, and the text
between its blanks is no built-in name and stands for the enumeration. -/
theorem resolve?_eq_enum_iff :
    registry.resolve? declared = some (.enum other)
      ↔ Text.trim declared ≠ ""
        ∧ ¬['[', ']'] <:+ (Text.trim declared).toList
        ∧ Text.trim declared ∉ ValueType.builtInNames
        ∧ ∃ definition, registry.lookupEnum? (Text.trim declared) = some definition
          ∧ definition.name = other := by
  constructor
  · intro declares
    have visible : Text.trim declared ≠ "" := by
      simpa [Text.trim] using trimChars_ne_nil_of_resolve? declares
    have simple : ¬['[', ']'] <:+ (Text.trim declared).toList :=
      fun brackets => resolve?_ne_enum_of_brackets brackets declares
    rw [resolve?_of_simple visible simple, resolveSimple?_eq_enum_iff] at declares
    exact ⟨visible, simple, declares⟩
  · rintro ⟨visible, simple, standsFor⟩
    rw [resolve?_of_simple visible simple, resolveSimple?_eq_enum_iff]
    exact standsFor

/-- Whether an enumeration of a name can be declared by it. -/
structure IsDeclarable (name : String) : Prop where
  trimmed : Text.trim name = name
  visible : name ≠ ""
  simple : ¬['[', ']'] <:+ name.toList
  own : name ∉ ValueType.builtInNames

/-- No other name declares the enumeration of this name. -/
theorem isDeclarable_of_resolve? (declares : registry.resolve? name = some (.enum name)) :
    IsDeclarable name := by
  rcases resolve?_eq_enum_iff.mp declares with ⟨visible, simple, own, definition, found, rfl⟩
  have trimmed := EnumDef.trim_name_of_answersTo (answersTo_of_lookupEnum? found)
  rw [trimmed] at visible simple own
  exact ⟨trimmed, visible, simple, own⟩

/-- Where there is an enumeration of a name, the name declares it exactly if it can. -/
theorem resolve?_eq_enum_iff_of_named? (present : registry.named? name = some definition) :
    registry.resolve? name = some (.enum name) ↔ IsDeclarable name := by
  constructor
  · exact isDeclarable_of_resolve?
  · rintro ⟨trimmed, visible, simple, own⟩
    rw [resolve?_eq_enum_iff, trimmed]
    exact ⟨visible, simple, own, definition, lookupEnum?_of_named? present, name_of_named? present⟩

/-! ## Columns -/

/-- Whether columns may declare a type by a name, be it with blanks around the name or as items
of an array, as well as they may declare numbers. -/
def ColumnsDeclare (registry : Registry) (name : String) (type : ValueType) : Prop :=
  ∀ title declared column, Text.trim declared = name →
    (FieldSchema.ofColumn registry title declared column).fieldType? registry
        = some (ValueType.ofColumn
          (FieldSchema.ofColumn registry title declared column).isArrayElement type)
      ∧ (FieldSchema.ofColumn registry title declared column).isValid
        = (FieldSchema.ofColumn registry title "int" column).isValid

theorem columnsDeclare_of_resolve? (resolved : registry.resolve? name = some type) :
    registry.ColumnsDeclare name type := by
  intro title declared column trimmed
  have unchanged : Text.trim (Text.trim "int") = "int" := by decide
  have number : registry.resolve? (Text.trim "int") = some .int := by
    rw [resolve?_of_simple (by decide) (by decide), unchanged]
    rfl
  constructor
  · simp only [FieldSchema.fieldType?, FieldSchema.ofColumn, trimmed, resolved, Option.map_some]
  · simp only [FieldSchema.ofColumn, trimmed, resolved, number, Option.isSome_some]

end Registry

end TypedSheets
