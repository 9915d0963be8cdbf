import TypedSheets.Proofs.Conversion.Arrays
import TypedSheets.Proofs.Conversion.Elements

/-!
# Blank elements of arrays

An element of an array that is blank makes the whole cell unreadable, however deep the array
lies in others. The exception are texts: a blank element of an array of texts is the empty
text, so that nothing but a blank array makes a cell of texts unreadable.
-/

namespace TypedSheets

namespace Literal

variable {counts : ValueType → Prop} {type : ValueType} {raw : List Char}

/-- Whether an element of an array is blank that is of a type for which this counts, in the array
itself or in one that is an element of it. -/
def HasBlank (counts : ValueType → Prop) : ValueType → List Char → Prop
  | .array element, raw => ∃ part ∈ arrayElements (Text.unifyLineEnds raw),
      (counts element ∧ Text.trimChars part = []) ∨ HasBlank counts element part
  | _, _ => False

/-- Where no texts are elements, no blank elements are texts. -/
theorem HasBlank.nonText (notText : type.scalar ≠ .string) (blank : HasBlank counts type raw) :
    HasBlank (· ≠ .string) type raw := by
  induction type generalizing raw with
  | array element ih =>
      rcases blank with ⟨part, member, here | deeper⟩
      · refine ⟨part, member, .inl ⟨?_, here.2⟩⟩
        rintro rfl
        exact notText rfl
      · exact ⟨part, member, .inr (ih notText deeper)⟩
  | _ => exact blank

/-- A blank cell has no elements. -/
theorem HasBlank.trimChars_ne_nil (blank : HasBlank counts type raw) : Text.trimChars raw ≠ [] := by
  intro empty
  cases type with
  | array element =>
      rcases blank with ⟨part, member, _⟩
      rw [arrayElements, Text.trimChars_unifyLineEnds_eq_nil_iff.mpr empty] at member
      cases member
  | _ => exact blank

end Literal

namespace Registry

open Literal

variable {registry : Registry} {type element : ValueType} {raw : List Char}

theorem convertChars?_of_blank (blank : Text.trimChars raw = []) :
    registry.convertChars? type raw = none := by
  have unified := Text.trimChars_unifyLineEnds_eq_nil_iff.mpr blank
  cases type <;> simp only [convertChars?, unified, if_true]

/-- An array is unreadable if its cell is blank or one of its elements is unreadable, which texts
never are. -/
theorem convertChars?_array_eq_none_iff :
    registry.convertChars? (.array element) raw = none
      ↔ Text.trimChars raw = [] ∨ ∃ part ∈ arrayElements (Text.unifyLineEnds raw),
        element ≠ .string ∧ registry.convertChars? element part = none := by
  simp only [convertChars?, Text.trimChars_unifyLineEnds_eq_nil_iff]
  by_cases blank : Text.trimChars raw = []
  · simp [blank]
  · rw [if_neg blank, Option.map_eq_none_iff, mapM_eq_none_iff, or_iff_right blank]
    by_cases isText : element = .string <;> simp [isText]

/-- A blank element that is no text makes the cell unreadable. -/
theorem convertChars?_of_hasBlank (blank : HasBlank (· ≠ .string) type raw) :
    registry.convertChars? type raw = none := by
  induction type generalizing raw with
  | array element ih =>
      rcases blank with ⟨part, member, ⟨notText, empty⟩ | deeper⟩
      · exact convertChars?_array_eq_none_iff.mpr
          (.inr ⟨part, member, notText, convertChars?_of_blank empty⟩)
      · refine convertChars?_array_eq_none_iff.mpr (.inr ⟨part, member, ?_, ih deeper⟩)
        rintro rfl
        exact deeper
  | _ => exact blank.elim

/-- Only blank arrays make a cell of texts unreadable. -/
theorem convertChars?_texts_eq_none_iff (texts : type.scalar = .string) :
    registry.convertChars? type raw = none
      ↔ Text.trimChars raw = [] ∨ HasBlank (· ≠ .string) type raw := by
  induction type generalizing raw with
  | array element ih =>
      rw [convertChars?_array_eq_none_iff]
      apply or_congr_right
      apply exists_congr
      intro part
      apply and_congr_right
      intro _
      rw [ih texts]
      by_cases isText : element = .string
      · subst isText
        simp [HasBlank]
      · simp [isText]
  | string =>
      simp [convertChars?, convertSimple?, HasBlank, Text.trimChars_unifyLineEnds_eq_nil_iff]
  | _ => cases texts

/-- An array with a blank element at any depth is unreadable, unless it is made up of texts and
only texts are blank. -/
theorem convert?_eq_none_iff_of_hasBlank {raw : String}
    (blank : HasBlank (fun _ => True) (.array element) raw.toList) :
    registry.convert? (.array element) raw = none
      ↔ element.scalar ≠ .string ∨ HasBlank (· ≠ .string) (.array element) raw.toList := by
  rw [convert?]
  constructor
  · intro unreadable
    by_cases texts : (ValueType.array element).scalar = .string
    · have reasons := (convertChars?_texts_eq_none_iff texts).mp unreadable
      exact .inr (reasons.resolve_left blank.trimChars_ne_nil)
    · exact .inl texts
  · rintro (notText | nonText)
    · exact convertChars?_of_hasBlank (blank.nonText notText)
    · exact convertChars?_of_hasBlank nonText

/-- A list of lists is unreadable if one of the lists is blank. -/
theorem blankList_unreadable :
    HasBlank (fun _ => True) (.array (.array .string)) "[[a, ], , [b]]".toList
      ∧ Registry.empty.convert? (.array (.array .string)) "[[a, ], , [b]]" = none := by
  have elements : arrayElements (Text.unifyLineEnds "[[a, ], , [b]]".toList)
      = ["[a, ]".toList, [], "[b]".toList] := by cbv
  have blankList : HasBlank (· ≠ .string) (.array (.array .string)) "[[a, ], , [b]]".toList := by
    refine ⟨[], ?_, .inl ⟨by decide, rfl⟩⟩
    rw [elements]
    simp
  have blank : HasBlank (fun _ => True) (.array (.array .string)) "[[a, ], , [b]]".toList := by
    refine ⟨[], ?_, .inl ⟨trivial, rfl⟩⟩
    rw [elements]
    simp
  exact ⟨blank, (convert?_eq_none_iff_of_hasBlank blank).mpr (.inr blankList)⟩

/-- Blank elements of lists of texts are empty texts. -/
theorem blankTexts_readable :
    arrayElements "a,,b".toList = ["a".toList, [], "b".toList]
      ∧ Registry.empty.convert? (.array .string) "a,,b"
        = some (.array [.text "a", .text "", .text "b"])
      ∧ Registry.empty.convert? (.array (.array .string)) "[[a, ], [b]]"
        = some (.array [.array [.text "a", .text ""], .array [.text "b"]])
      ∧ Registry.empty.convert? (.array .int) "1,,2" = none :=
  ⟨by cbv, by cbv, by cbv, by cbv⟩

end Registry

end TypedSheets
