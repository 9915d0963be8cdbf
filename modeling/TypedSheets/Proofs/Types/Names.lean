import TypedSheets.Proofs.Types.Declaration

/-!
# Names of types

The name of a type, as generated declarations write it, stands for this type again. Primitive and
composite types have names of their own, whichever alias was declared, and brackets at the end make
arrays of what is before them. An enumeration has its full name, which may be longer than what was
declared; but it ends with the declared short name, so blanks before it are the only ones that
could be lost.
-/

namespace TypedSheets

namespace Text

variable {characters : List Char}

theorem trimEnd_trimEnd (characters : List Char) : trimEnd (trimEnd characters) = trimEnd characters := by
  rcases exists_append_trimEnd characters with ⟨back, blank, split⟩
  conv_rhs => rw [split, trimEnd_append_blank blank]

theorem trimStart_eq_self (begins : ∀ first ∈ characters.head?, isBlank first = false) :
    trimStart characters = characters := by
  cases characters with
  | nil => rfl
  | cons first rest => exact List.dropWhile_cons_of_neg (by simp [begins first rfl])

end Text

namespace EnumDef

variable {definition : EnumDef} {name : String}

/-- The name of an enumeration ends with the short one. -/
theorem name_eq_shortName_or (definition : EnumDef) :
    definition.shortName = definition.name
      ∨ ∃ space, definition.name.toList = space ++ '.' :: definition.shortName.toList := by
  rw [shortName, Text.afterLast]
  cases cut : Text.splitLast? '.' definition.name.toList with
  | none => exact .inl String.ofList_toList
  | some parts =>
      rcases parts with ⟨space, last⟩
      rw [String.toList_ofList]
      exact .inr ⟨space, Text.eq_append_of_splitLast? cut⟩

end EnumDef

namespace Registry

variable {registry : Registry} {name declared : String} {definition : EnumDef} {type : ValueType}

/-! ## Texts that are one name -/

/-- Whether a text is taken as a name as it stands: it has no blanks around it, is not empty and
does not end in brackets. -/
structure IsName (name : String) : Prop where
  trimmed : Text.trim name = name
  visible : name ≠ ""
  simple : ¬['[', ']'] <:+ name.toList

theorem IsName.resolve?_eq (named : IsName name) :
    registry.resolve? name = registry.resolveSimple? name := by
  have trimmed := named.trimmed
  rw [resolve?_of_simple (trimmed.symm ▸ named.visible) (trimmed.symm ▸ named.simple), trimmed]

/-- Brackets are not at the end of what follows a dot unless they are all of it. -/
theorem brackets_suffix_of_dot {space last : List Char}
    (brackets : ['[', ']'] <:+ space ++ '.' :: last) : ['[', ']'] <:+ last := by
  rcases List.suffix_or_suffix_of_suffix brackets (List.suffix_append space ('.' :: last)) with
    within | around
  · rcases List.suffix_cons_iff.mp within with whole | inside
    · exact absurd whole (by simp)
    · exact inside
  · have dot : '.' ∈ ['[', ']'] := around.mem List.mem_cons_self
    exact absurd dot (by decide)

/-- The full name of an enumeration is a name where the short one is, unless it begins with a
blank. -/
theorem IsName.name_of_shortName (named : IsName definition.shortName)
    (begins : ∀ first ∈ definition.name.toList.head?, Text.isBlank first = false) :
    IsName definition.name := by
  rcases definition.name_eq_shortName_or with same | ⟨space, split⟩
  · exact same ▸ named
  · have short : Text.trimEnd definition.shortName.toList = definition.shortName.toList := by
      have trimmed := congrArg String.toList named.trimmed
      rw [Text.toList_trim, Text.trimChars] at trimmed
      rw [← trimmed, Text.trimEnd_trimEnd]
    constructor
    case trimmed =>
      have ends : Text.trimEnd definition.name.toList = definition.name.toList := by
        rw [split, Text.trimEnd_append_cons (by decide), short]
      rw [Text.trim, Text.trimChars, Text.trimStart_eq_self begins, ends, String.ofList_toList]
    case visible =>
      intro nothing
      simp [nothing] at split
    case simple =>
      rw [split]
      exact fun brackets => named.simple (brackets_suffix_of_dot brackets)

/-- No built-in name has a dot. -/
theorem dot_notMem_of_builtIn (own : name ∈ ValueType.builtInNames) : '.' ∉ name.toList := by
  have every : ∀ name ∈ ValueType.builtInNames, '.' ∉ name.toList := by decide
  exact every name own

/-- An enumeration can be declared by its full name where it can by one of its names. -/
theorem IsDeclarable.name_of_answersTo (declarable : IsDeclarable name)
    (answers : definition.answersTo name = true)
    (begins : ∀ first ∈ definition.name.toList.head?, Text.isBlank first = false) :
    IsDeclarable definition.name := by
  rw [EnumDef.answersTo, Bool.or_eq_true, beq_iff_eq, beq_iff_eq] at answers
  rcases answers with rfl | rfl
  · exact declarable
  · have short : IsName definition.shortName :=
      ⟨declarable.trimmed, declarable.visible, declarable.simple⟩
    rcases short.name_of_shortName begins with ⟨trimmed, visible, simple⟩
    refine ⟨trimmed, visible, simple, ?_⟩
    rcases definition.name_eq_shortName_or with same | ⟨space, split⟩
    · exact same ▸ declarable.own
    · intro builtIn
      apply dot_notMem_of_builtIn builtIn
      rw [split]
      exact List.mem_append_right _ List.mem_cons_self

/-! ## Names of built-in types -/

theorem isName_of_builtIn (own : name ∈ ValueType.builtInNames) : IsName name := by
  have every : ∀ name ∈ ValueType.builtInNames,
      Text.trim name = name ∧ name ≠ "" ∧ ¬['[', ']'] <:+ name.toList := by decide
  rcases every name own with ⟨trimmed, visible, simple⟩
  exact ⟨trimmed, visible, simple⟩

/-- A primitive type has one of its keywords for a name. -/
theorem primitive?_typeName (found : ValueType.primitive? name = some type) :
    ValueType.primitive? type.typeName = some type := by
  simp only [ValueType.primitive?] at found
  split at found
  all_goals cases found
  all_goals rfl

theorem resolve?_typeName_of_primitive (found : ValueType.primitive? name = some type) :
    registry.resolve? type.typeName = some type := by
  have again := primitive?_typeName found
  have own : type.typeName ∈ ValueType.keywords := by
    by_contra other
    rw [ValueType.primitive?_eq_none_iff.mpr other] at again
    cases again
  rw [(isName_of_builtIn (List.mem_append_left _ own)).resolve?_eq, resolveSimple?, again]

theorem resolve?_name_of_kind (kind : CompositeKind) :
    registry.resolve? kind.name = some (.composite kind) := by
  have listed : kind ∈ CompositeKind.all := by cases kind <;> decide
  have own : kind.name ∈ ValueType.builtInNames :=
    List.mem_append_right _ (List.mem_map_of_mem listed)
  have other : ValueType.primitive? kind.name = none := by cases kind <;> rfl
  rw [(isName_of_builtIn own).resolve?_eq, resolveSimple?, other]
  simp only [CompositeKind.ofName?_name]

/-! ## Names of all types -/

/-- Brackets after the name of a type make arrays of it. -/
theorem resolve?_typeName_array (again : registry.resolve? type.typeName = some type) :
    registry.resolve? (ValueType.array type).typeName = some (.array type) := by
  have bracketed : registry.resolveChars? (type.typeName.toList ++ ['[', ']'])
      = (registry.resolveChars? type.typeName.toList).map .array :=
    resolveChars?_brackets (trimChars_ne_nil_of_resolve? again)
  rw [resolve?] at again
  rw [again] at bracketed
  simpa [ValueType.typeName, resolve?] using bracketed

/-- Whether no enumeration of a registry has a name that begins with a blank. -/
def Unindented (registry : Registry) : Prop :=
  ∀ definition ∈ registry.enums, ∀ first ∈ definition.name.toList.head?, Text.isBlank first = false

theorem mem_of_lookupEnum? (found : registry.lookupEnum? name = some definition) :
    definition ∈ registry.enums := by
  rw [lookupEnum?_eq_or] at found
  rcases Option.or_eq_some_iff.mp found with named | ⟨_, short⟩
  · exact List.mem_of_find?_eq_some named
  · exact List.mem_of_find?_eq_some short

section Unindented

variable (unindented : registry.Unindented)
include unindented

/-- The enumeration that a name means is declared by its full name as well. -/
theorem resolve?_name_of_lookupEnum? (declarable : IsDeclarable name)
    (found : registry.lookupEnum? name = some definition) :
    registry.resolve? definition.name = some (.enum definition.name) := by
  have full := declarable.name_of_answersTo (answersTo_of_lookupEnum? found)
    (unindented definition (mem_of_lookupEnum? found))
  rw [resolve?_eq_enum_iff, full.trimmed]
  exact ⟨full.visible, full.simple, full.own, definition, lookupEnum?_name found, rfl⟩

/-- What a name without brackets stands for, its type name stands for. -/
theorem resolve?_typeName_of_simple (named : IsName name)
    (found : registry.resolveSimple? name = some type) :
    registry.resolve? type.typeName = some type := by
  have whole := found
  rw [resolveSimple?] at found
  cases primitive : ValueType.primitive? name with
  | some first =>
      rw [primitive] at found
      obtain rfl := Option.some.inj found
      exact resolve?_typeName_of_primitive primitive
  | none =>
      rw [primitive] at found
      cases composite : CompositeKind.ofName? name with
      | some kind =>
          rw [composite] at found
          obtain rfl := Option.some.inj found
          exact resolve?_name_of_kind kind
      | none =>
          rw [composite] at found
          cases meant : registry.lookupEnum? name with
          | some definition =>
              rw [meant] at found
              obtain rfl := Option.some.inj found
              have own := (resolveSimple?_eq_enum_iff.mp whole).1
              exact resolve?_name_of_lookupEnum? unindented
                ⟨named.trimmed, named.visible, named.simple, own⟩ meant
          | none =>
              -- Of references and record classes the name is what was declared.
              rw [meant] at found
              simp only at found
              split at found
              · obtain rfl := Option.some.inj found
                exact named.resolve?_eq.trans whole
              · split at found
                · obtain rfl := Option.some.inj found
                  exact named.resolve?_eq.trans whole
                · cases found

/-- The name of a type that a text declares stands for this type. -/
theorem resolve?_typeName (resolved : registry.resolve? declared = some type) :
    registry.resolve? type.typeName = some type := by
  rw [resolve?] at resolved
  generalize declared.toList = characters at resolved
  fun_induction resolveChars? registry characters generalizing type with
  | case1 => cases resolved
  | case2 characters visible element stripped ih =>
      rcases Option.map_eq_some_iff.mp resolved with ⟨inner, found, rfl⟩
      exact resolve?_typeName_array (ih found)
  | case3 characters visible simple =>
      have named : IsName (String.ofList (Text.trimChars characters)) := by
        constructor
        case trimmed => simp [Text.trim]
        case visible => simpa using visible
        case simple =>
          rw [String.toList_ofList]
          exact Text.stripSuffix?_eq_none_iff.mp simple
      exact resolve?_typeName_of_simple unindented named resolved

end Unindented

/-- Elements of a game, a reference type and a record class. -/
def gameRegistry : Registry :=
  ⟨[⟨"Game.Element", false, [⟨"Fire", some 0⟩]⟩], ["Sprite"], ["ItemDrop"]⟩

/-- Lists of lists of elements, declared by the short name. -/
theorem elementLists_typeName :
    gameRegistry.Unindented
      ∧ gameRegistry.resolve? " Element [][] " = some (.array (.array (.enum "Game.Element")))
      ∧ (ValueType.array (.array (.enum "Game.Element"))).typeName = "Game.Element[][]"
      ∧ gameRegistry.resolve? "Game.Element[][]" = some (.array (.array (.enum "Game.Element"))) := by
  have unindented : gameRegistry.Unindented := by
    intro definition member first begins
    obtain rfl := List.mem_singleton.mp member
    obtain rfl := Option.some.inj begins
    decide
  have resolved : gameRegistry.resolve? " Element [][] "
      = some (.array (.array (.enum "Game.Element"))) := by cbv
  have written : (ValueType.array (.array (.enum "Game.Element"))).typeName = "Game.Element[][]" := by
    decide
  have again := resolve?_typeName unindented resolved
  rw [written] at again
  exact ⟨unindented, resolved, written, again⟩

end Registry

end TypedSheets
