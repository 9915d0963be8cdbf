import TypedSheets.Conversion.Convert
import TypedSheets.Proofs.Lists
import TypedSheets.Proofs.Record.Typing

/-!
# Converted cells have the type asked for

Whatever text a cell holds, the value that it is converted to is accepted by the type
it was converted for: integers of either spelling, members of enumerations and their
numbers, vectors of the right size, and arrays of any depth.
-/

namespace TypedSheets

namespace Literal

theorem accepts_integer? {type : ValueType} {text : String} {value : Value}
    (read : integer? type text = some value) : type.accepts value = true := by
  rcases Option.bind_eq_some_iff.mp read with ⟨range, ranged, read⟩
  rcases Option.map_eq_some_iff.mp read with ⟨number, _, rfl⟩
  simp [ValueType.accepts, ValueType.isInteger, ranged]

theorem accepts_float? {type : ValueType} {text : String} {value : Value}
    (floating : type = .float ∨ type = .double) (read : float? type text = some value) :
    type.accepts value = true := by
  rcases Option.map_eq_some_iff.mp read with ⟨number, _, rfl⟩
  rcases floating with rfl | rfl
  · rfl
  · rfl

theorem accepts_bool? {text : String} {value : Value} (read : bool? text = some value) :
    ValueType.bool.accepts value = true := by
  simp only [bool?] at read
  split at read
  · obtain rfl := Option.some.inj read
    rfl
  · split at read
    · obtain rfl := Option.some.inj read
      rfl
    · simp at read

theorem accepts_composite? {kind : CompositeKind} {text : String} {value : Value}
    (read : composite? kind text = some value) : (ValueType.composite kind).accepts value = true := by
  simp only [composite?] at read
  split at read
  · next sized =>
      rcases Option.map_eq_some_iff.mp read with ⟨components, mapped, rfl⟩
      have lengths := (forall₂_of_mapM mapped).length_eq
      simp only [ValueType.accepts, beq_iff_eq]
      exact lengths.symm.trans sized
  · simp at read

end Literal

namespace Registry

variable {registry : Registry}

/-- A whole number, read from a numeral or from the name of a member of an enumeration, is of
every type that takes whole numbers. -/
theorem accepts_of_integer? {type : ValueType} {text : String} {value : Value}
    (whole : ∀ name, type.accepts (.int name) = true)
    (found : (match Literal.integer? type text with
      | some value => some value
      | none => (registry.parseQualified? text).map fun (_, value) => .int value) = some value) :
    type.accepts value = true := by
  cases read : Literal.integer? type text with
  | some number =>
      rw [read] at found
      obtain rfl := Option.some.inj found
      exact Literal.accepts_integer? read
  | none =>
      rw [read] at found
      rcases Option.map_eq_some_iff.mp found with ⟨member, _, rfl⟩
      exact whole member.2

/-- The value of text for a type that is no array is of this type. -/
theorem accepts_convertSimple? {type : ValueType} {text : List Char} {value : Value}
    (converted : registry.convertSimple? type text = some value) : type.accepts value = true := by
  cases type with
  | bool =>
      simp only [convertSimple?] at converted
      exact Literal.accepts_bool? converted
  | byte | short | int | long =>
      simp only [convertSimple?] at converted
      exact accepts_of_integer? (fun _ => rfl) converted
  | float =>
      simp only [convertSimple?] at converted
      exact Literal.accepts_float? (.inl rfl) converted
  | double =>
      simp only [convertSimple?] at converted
      exact Literal.accepts_float? (.inr rfl) converted
  | string =>
      obtain rfl := Option.some.inj converted
      rfl
  | composite kind =>
      simp only [convertSimple?] at converted
      exact Literal.accepts_composite? converted
  | enum name =>
      simp only [convertSimple?] at converted
      split at converted
      · obtain rfl := Option.some.inj converted
        simp [ValueType.accepts]
      · simp at converted
  | reference name =>
      simp only [convertSimple?] at converted
      split at converted
      · obtain rfl := Option.some.inj converted
        simp [ValueType.accepts]
      · simp at converted
  | record name => simp [convertSimple?] at converted
  | array element => simp [convertSimple?] at converted

/-- What a part of an array literal stands for: a text may be given between quotes, and a part
for any other type is converted like a cell. -/
def ReadsPart (registry : Registry) (element : ValueType) (part : List Char) (item : Value) : Prop :=
  (element = .string ∧ item = .text (String.ofList (Literal.unquote part)))
    ∨ (element ≠ .string ∧ registry.convertChars? element part = some item)

/-- A converted array has an item for each part of its literal. -/
theorem exists_items_of_convertChars? {element : ValueType} {text : List Char} {value : Value}
    (converted : registry.convertChars? (.array element) text = some value) :
    ∃ items, value = .array items ∧ List.Forall₂ (registry.ReadsPart element)
      (Literal.arrayElements (Text.unifyLineEnds text)) items := by
  simp only [convertChars?] at converted
  split at converted
  · cases converted
  · rcases Option.map_eq_some_iff.mp converted with ⟨items, mapped, rfl⟩
    refine ⟨items, rfl, (forall₂_of_mapM mapped).imp ?_⟩
    intro part item made
    split at made
    · next isText => exact .inl ⟨isText, (Option.some.inj made).symm⟩
    · next notText => exact .inr ⟨notText, made⟩

/-- The value of the text of a cell is of the type it was converted for. -/
theorem accepts_convertChars? {type : ValueType} {text : List Char} {value : Value}
    (converted : registry.convertChars? type text = some value) : type.accepts value = true := by
  induction type generalizing text value with
  | array element ih =>
      rcases exists_items_of_convertChars? converted with ⟨items, rfl, parts⟩
      rw [ValueType.accepts_array_iff]
      intro item member
      rcases exists_of_mem_forall₂ parts member with ⟨part, _, ⟨rfl, rfl⟩ | ⟨_, made⟩⟩
      · rfl
      · exact ih made
  | _ =>
      simp only [convertChars?] at converted
      split at converted
      · simp at converted
      · exact accepts_convertSimple? converted

theorem accepts_convert? {type : ValueType} {raw : String} {value : Value}
    (converted : registry.convert? type raw = some value) : type.accepts value = true :=
  accepts_convertChars? converted

/-- The value of a cell of a sheet is of the type of its column. -/
theorem accepts_convertCell? {type : ValueType} {raw : String} {value : Value}
    (converted : registry.convertCell? type raw = some value) : type.accepts value = true := by
  simp only [convertCell?] at converted
  cases direct : registry.convert? type raw with
  | some made =>
      rw [direct] at converted
      obtain rfl := Option.some.inj converted
      exact accepts_convert? direct
  | none =>
      rw [direct] at converted
      cases type with
      | enum name =>
          rcases Option.bind_eq_some_iff.mp converted with ⟨number, _, converted⟩
          rcases Option.bind_eq_some_iff.mp converted with ⟨definition, _, converted⟩
          split at converted
          · obtain rfl := Option.some.inj converted
            simp [ValueType.rebox, ValueType.accepts]
          · simp at converted
      | _ => simp at converted

end Registry

end TypedSheets
