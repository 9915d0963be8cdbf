import Mathlib
import TypedSheets.Proofs.Conversion.Typing

/-!
# Elements of converted arrays

The value of a cell for an array of any depth is made up of elements that are no arrays. They
are, one by one and in order, what the texts between the commas and brackets stand for, each
of them converted for the type that is left when all arrays are taken apart.
-/

namespace TypedSheets

/-- The type of the elements of an array that are no arrays themselves. -/
def ValueType.scalar : ValueType → ValueType
  | .array element => element.scalar
  | type => type

mutual

/-- The values in a value that are no arrays, in order. -/
def Value.leaves : Value → List Value
  | .array items => Value.leavesOfItems items
  | value => [value]

/-- The values in a list of values that are no arrays, in order. -/
def Value.leavesOfItems : List Value → List Value
  | [] => []
  | item :: items => item.leaves ++ Value.leavesOfItems items

end

/-- The texts of the elements of a cell that are no arrays, in order. -/
def Literal.scalarTexts : ValueType → List Char → List (List Char)
  | .array element, raw =>
      (Literal.arrayElements (Text.unifyLineEnds raw)).flatMap (Literal.scalarTexts element)
  | _, raw => [Text.unifyLineEnds raw]

theorem Value.leavesOfItems_eq_flatMap (items : List Value) :
    Value.leavesOfItems items = items.flatMap Value.leaves := by
  induction items with
  | nil => rfl
  | cons item items ih => rw [leavesOfItems, ih, List.flatMap_cons]

namespace Registry

variable {registry : Registry}

/-- Whether an element that is no array may stand for a value. What a text in an array stands
for depends on the quotes around it, so for texts only the kind of value is told. -/
def ReadsAs (registry : Registry) (type : ValueType) (text : List Char) (leaf : Value) : Prop :=
  registry.convertSimple? type text = some leaf ∨ type = .string ∧ ∃ content, leaf = .text content

/-- A value that is no array has no other values in it. -/
theorem leaves_convertSimple? {type : ValueType} {text : List Char} {value : Value}
    (converted : registry.convertSimple? type text = some value) : value.leaves = [value] := by
  have accepted := accepts_convertSimple? converted
  cases value with
  | array items =>
      rcases ValueType.exists_array_of_accepts accepted with ⟨element, rfl⟩
      simp [convertSimple?] at converted
  | _ => rfl

/-- The elements of a converted cell are what their texts stand for. -/
theorem forall₂_leaves {type : ValueType} {raw : List Char} {value : Value}
    (converted : registry.convertChars? type raw = some value) :
    List.Forall₂ (registry.ReadsAs type.scalar) (Literal.scalarTexts type raw) value.leaves := by
  induction type generalizing raw value with
  | array element ih =>
      rcases exists_items_of_convertChars? converted with ⟨items, rfl, parts⟩
      rw [Value.leaves, Value.leavesOfItems_eq_flatMap]
      apply List.rel_flatMap parts
      rintro part item (⟨rfl, rfl⟩ | ⟨_, made⟩)
      · exact .cons (.inr ⟨rfl, _, rfl⟩) .nil
      · exact ih made
  | _ =>
      simp only [convertChars?] at converted
      split at converted
      · cases converted
      · rw [leaves_convertSimple? converted]
        exact .cons (.inl converted) .nil

end Registry

end TypedSheets
