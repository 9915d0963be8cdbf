import TypedSheets.Proofs.Text.Split
import TypedSheets.Proofs.Text.Trim
import TypedSheets.Schema

/-!
# Declared types that are extended

A declared type followed by a pair of brackets stands for the arrays of what it stood
for, whatever space is around the text.
-/

namespace TypedSheets

namespace Registry

variable {registry : Registry}

/-- A declared type is read from its first character that is not blank. -/
theorem resolveChars?_trimStart (declared : List Char) :
    registry.resolveChars? (Text.trimStart declared) = registry.resolveChars? declared := by
  rw [resolveChars?, resolveChars?, Text.trimChars_trimStart]

/-- A declared type with brackets after it makes arrays. -/
theorem resolveChars?_brackets {declared : List Char} (visible : Text.trimChars declared ≠ []) :
    registry.resolveChars? (declared ++ ['[', ']'])
      = (registry.resolveChars? declared).map .array := by
  have trimmed : Text.trimChars (declared ++ ['[', ']']) = Text.trimStart declared ++ ['[', ']'] := by
    have closing : Text.isBlank ']' = false := by decide
    rw [Text.trimChars, Text.trimStart_append (Text.trimStart_ne_nil visible)]
    simpa only [List.append_assoc, List.singleton_append] using
      Text.trimEnd_concat closing (Text.trimStart declared ++ ['['])
  rw [resolveChars?, trimmed, if_neg (by simp)]
  split
  · next element found =>
      rw [Text.stripSuffix?_append] at found
      obtain rfl := Option.some.inj found
      rw [resolveChars?_trimStart]
  · next absent =>
      rw [Text.stripSuffix?_append] at absent
      simp at absent

/-- Blank text declares no type. -/
theorem trimChars_ne_nil_of_resolve? {declared : String} {type : ValueType}
    (resolved : registry.resolve? declared = some type) : Text.trimChars declared.toList ≠ [] := by
  intro blank
  rw [resolve?, resolveChars?, if_pos blank] at resolved
  simp at resolved

end Registry

namespace FieldSchema

/-- The type name that declarations give to a column stands for the type of its field. -/
theorem resolve?_typeText {registry : Registry} {column : FieldSchema} {type : ValueType}
    (resolved : registry.resolve? column.declaredType = some type) :
    registry.resolve? column.typeText = some (ValueType.ofColumn column.isArrayElement type) := by
  have visible := Registry.trimChars_ne_nil_of_resolve? resolved
  cases kind : column.isArrayElement with
  | false => simpa [typeText, kind, ValueType.ofColumn] using resolved
  | true =>
      have bracketed : registry.resolveChars? (column.declaredType.toList ++ ['[', ']'])
          = (registry.resolveChars? column.declaredType.toList).map .array :=
        Registry.resolveChars?_brackets visible
      rw [Registry.resolve?] at resolved
      rw [resolved] at bracketed
      simpa [typeText, kind, ValueType.ofColumn, Registry.resolve?] using bracketed

end FieldSchema

end TypedSheets
