import TypedSheets.Proofs.Conversion.Qualified
import TypedSheets.Proofs.Text.Pieces

/-!
# Blanks around a cell

Every reader of a cell but that of texts takes the blanks around the cell off, or reads pieces
of it without the blanks around them. So the blanks around a cell decide nothing unless it is
converted to a text.
-/

namespace TypedSheets

namespace EnumDef

variable {definition : EnumDef}

theorem segments_trimChars (text : List Char) :
    segments (String.ofList (Text.trimChars text)) = segments (String.ofList text) := by
  have bar : Text.isBlank '|' = false := by decide
  rw [segments_ofList, segments_ofList, Text.map_trimChars_splitChars_trimChars bar]

theorem parse_trimChars (text : List Char) :
    definition.parse (String.ofList (Text.trimChars text)) = definition.parse (String.ofList text) := by
  have trimmed : Text.trim (String.ofList (Text.trimChars text)) = Text.trim (String.ofList text) := by
    rw [Text.trim, Text.trim, String.toList_ofList, String.toList_ofList, Text.trimChars_trimChars]
  rw [parse, parse, segments_trimChars, trimmed]

/-- The name of an enumeration is looked for after the blanks before it. -/
theorem parse_withoutName_trimChars (text : List Char) :
    definition.parse (String.ofList (definition.withoutName (Text.trimChars text)))
      = definition.parse (String.ofList (definition.withoutName text)) := by
  rw [withoutName_eq_getD, withoutName_eq_getD, Text.trimChars_trimChars]
  cases (afterName? definition.name (Text.trimChars text)).or
      (afterName? definition.shortName (Text.trimChars text)) with
  | none => exact parse_trimChars text
  | some member => rfl

end EnumDef

namespace Registry

variable {registry : Registry} {type : ValueType}

theorem parseEnum_memberText_trimChars (name : String) (text : List Char) :
    registry.parseEnum name (String.ofList (registry.memberText name (Text.trimChars text)))
      = registry.parseEnum name (String.ofList (registry.memberText name text)) := by
  rw [parseEnum, parseEnum, memberText, memberText]
  cases registry.lookupEnum? name with
  | none => rfl
  | some definition => exact EnumDef.parse_withoutName_trimChars text

theorem parseQualified?_trimChars (text : List Char) :
    registry.parseQualified? (String.ofList (Text.trimChars text))
      = registry.parseQualified? (String.ofList text) := by
  rw [parseQualified?, parseQualified?, QualifiedMember.read?, QualifiedMember.read?,
    String.toList_ofList, String.toList_ofList, Text.trimChars_trimChars]

theorem convertSimple?_trimChars (notText : type ≠ .string) (text : List Char) :
    registry.convertSimple? type (Text.trimChars text) = registry.convertSimple? type text := by
  cases type with
  | string => exact absurd rfl notText
  | enum name => simp only [convertSimple?, parseEnum_memberText_trimChars]
  | byte | short | int | long =>
      simp only [convertSimple?, parseQualified?_trimChars, Literal.integer?, String.toList_ofList,
        Text.trimChars_trimChars]
  | bool => simp only [convertSimple?, Literal.bool?, String.toList_ofList, Text.trimChars_trimChars]
  | float | double =>
      simp only [convertSimple?, Literal.float?, String.toList_ofList, Text.trimChars_trimChars]
  | composite kind =>
      simp only [convertSimple?, Literal.composite?, String.toList_ofList, Text.trimChars_trimChars]
  | reference name =>
      simp only [convertSimple?, Text.trim, String.toList_ofList, Text.trimChars_trimChars]
  | record name => rfl
  | array element => rfl

theorem arrayElements_trimChars (text : List Char) :
    Literal.arrayElements (Text.trimChars text) = Literal.arrayElements text := by
  rw [Literal.arrayElements, Literal.arrayElements, Text.trimChars_trimChars]

/-- The blanks around a cell do not matter unless it is converted to a text. -/
theorem convertChars?_trimChars (notText : type ≠ .string) (raw : List Char) :
    registry.convertChars? type (Text.trimChars raw) = registry.convertChars? type raw := by
  have unified : Text.unifyLineEnds (Text.trimChars raw) = Text.trimChars (Text.unifyLineEnds raw) :=
    (Text.trimChars_unifyLineEnds raw).symm
  cases type with
  | array element =>
      simp only [convertChars?, unified, Text.trimChars_trimChars, arrayElements_trimChars]
  | _ => simp only [convertChars?, unified, Text.trimChars_trimChars, convertSimple?_trimChars notText]

/-- A cell that is not converted to a text stands for the same value, or for none, whatever
blanks are put before and after it. -/
theorem convert?_between_blanks (notText : type ≠ .string) {front back : String}
    (blankFront : Text.blank front = true) (blankBack : Text.blank back = true) (raw : String) :
    registry.convert? type (front ++ raw ++ back) = registry.convert? type raw := by
  have shown : Text.trimChars (front ++ raw ++ back).toList = Text.trimChars raw.toList := by
    rw [String.toList_append, String.toList_append,
      Text.trimChars_append_blank (List.all_eq_true.mp blankBack),
      Text.trimChars_blank_append (List.all_eq_true.mp blankFront)]
  rw [convert?, convert?, ← convertChars?_trimChars notText, shown, convertChars?_trimChars notText]

/-- A list of texts between blanks, with line ends that begin in the cell or before it. -/
theorem sampleList_between_blanks :
    ValueType.array .string ≠ .string
      ∧ Text.blank "\u2028\r" = true
      ∧ Text.blank "\n\u3000" = true
      ∧ Registry.empty.convert? (.array .string) ("\u2028\r" ++ "\n[\" a\", b]\r" ++ "\n\u3000")
        = some (.array [.text " a", .text "b"]) := by
  refine ⟨by decide, by decide, by decide, ?_⟩
  rw [convert?_between_blanks (by decide) (by decide) (by decide)]
  cbv

end Registry

end TypedSheets
