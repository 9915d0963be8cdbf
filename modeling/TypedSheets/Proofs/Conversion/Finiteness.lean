import Mathlib
import TypedSheets.Proofs.Conversion.Elements
import TypedSheets.Proofs.Value.Finiteness

/-!
# The finiteness of converted numbers

A floating point number is taken only if it is finite, and whole components of vectors are.
The other components are taken as they are read, so the numbers of a cell are finite exactly
if none of these is the name of an infinity or of a NaN or goes beyond single precision. Only
then the value of the cell comes back from its JSON text.
-/

namespace TypedSheets

open Numeral

mutual

/-- The floating point numbers in a value are those in its elements that are no arrays. -/
theorem Value.floats_eq_flatMap_leaves : (value : Value) →
    value.floats = value.leaves.flatMap Value.floats
  | .array items => Value.floatsOfItems_eq_flatMap_leaves items
  | .null | .bool _ | .int _ | .float _ | .text _ | .enum _ _ | .vector _ | .reference _ _
  | .record _ => by simp [Value.leaves]

/-- The floating point numbers in a list of values are those in its elements. -/
theorem Value.floatsOfItems_eq_flatMap_leaves : (items : List Value) →
    Value.floatsOfItems items = (Value.leavesOfItems items).flatMap Value.floats
  | [] => rfl
  | item :: items => by
      rw [floatsOfItems, leavesOfItems, List.flatMap_append, ← floats_eq_flatMap_leaves item,
        ← floatsOfItems_eq_flatMap_leaves items]

end

/-- A value of a type that is not made up of floating point numbers holds none. -/
theorem Value.floats_eq_nil_of_accepts {type : ValueType} {value : Value}
    (accepted : type.accepts value = true) (notFloat : type ≠ .float) (notDouble : type ≠ .double)
    (notVector : ∀ kind, type ≠ .composite kind) (notArray : ∀ element, type ≠ .array element)
    (notRecord : ∀ name, type ≠ .record name) : value.floats = [] := by
  cases value with
  | float number => simp [ValueType.accepts, notFloat, notDouble] at accepted
  | vector numbers =>
      rcases ValueType.exists_composite_of_accepts accepted with ⟨kind, isVector⟩
      exact absurd isVector (notVector kind)
  | array items =>
      rcases ValueType.exists_array_of_accepts accepted with ⟨element, isArray⟩
      exact absurd isArray (notArray element)
  | record record => exact absurd (ValueType.eq_record_of_accepts accepted) (notRecord _)
  | _ => rfl

/-- A value of a type that is neither a record nor an array holds no records. -/
theorem Value.rows_eq_nil_of_accepts {type : ValueType} {value : Value}
    (accepted : type.accepts value = true) (notArray : ∀ element, type ≠ .array element)
    (notRecord : ∀ name, type ≠ .record name) : value.rows = [] := by
  cases value with
  | array items =>
      rcases ValueType.exists_array_of_accepts accepted with ⟨element, isArray⟩
      exact absurd isArray (notArray element)
  | record record => exact absurd (ValueType.eq_record_of_accepts accepted) (notRecord _)
  | _ => rfl

theorem Value.rowsOfItems_eq_flatMap (items : List Value) :
    Value.rowsOfItems items = items.flatMap Value.rows := by
  induction items with
  | nil => rfl
  | cons item items ih => rw [rowsOfItems, ih, List.flatMap_cons]

namespace Literal

/-- The texts of the components of a vector. -/
def components (text : List Char) : List (List Char) :=
  elements (Text.stripPair '(' ')' (Text.trimChars text))

/-- Whether the components of a vector are finite numbers: whole ones always are, and others
if they are finite when they are rounded to single precision. -/
def HasFiniteComponents (kind : CompositeKind) (text : List Char) : Prop :=
  kind.isIntegral = false → ∀ part ∈ components text, ∀ numeral,
    FloatNumeral.read? part = some numeral → numeral.toSingle.isFinite = true

/-- Whether the components of all vectors in a cell for a type are finite numbers. -/
def HasFiniteVectors (type : ValueType) (cell : String) : Prop :=
  ∀ kind, type.scalar = .composite kind →
    ∀ text ∈ scalarTexts type cell.toList, HasFiniteComponents kind text

/-- A component is finite if it is a whole number or rounds to a finite number. -/
theorem isFinite_component?_iff {kind : CompositeKind} {part : List Char} {number : Double}
    (read : component? kind part = some number) :
    number.isFinite = true ↔ (kind.isIntegral = false → ∀ numeral,
      FloatNumeral.read? part = some numeral → numeral.toSingle.isFinite = true) := by
  rw [component?] at read
  split at read
  · next whole =>
      rcases Option.map_eq_some_iff.mp read with ⟨value, integer, rfl⟩
      have inside := Range.holds_of_read? integer
      rw [Range.holds_iff, Range.signed32] at inside
      have finite : (Double.ofInt value).isFinite = true := by
        apply Double.isFinite_ofInt
        dsimp only at inside
        omega
      simp [finite, whole]
  · next fractional =>
      rcases Option.map_eq_some_iff.mp read with ⟨numeral, found, rfl⟩
      simp [found, fractional]

/-- The numbers of a vector are finite if its components are. -/
theorem floats_composite?_iff {kind : CompositeKind} {text : List Char} {value : Value}
    (read : composite? kind (String.ofList text) = some value) :
    (∀ number ∈ value.floats, number.isFinite = true) ↔ HasFiniteComponents kind text := by
  simp only [composite?, String.toList_ofList] at read
  split at read
  · rcases Option.map_eq_some_iff.mp read with ⟨numbers, mapped, rfl⟩
    have each : (∀ number ∈ numbers, number.isFinite = true)
        ↔ ∀ part ∈ components text, kind.isIntegral = false → ∀ numeral,
          FloatNumeral.read? part = some numeral → numeral.toSingle.isFinite = true :=
      forall_mem_iff_of_forall₂ (forall₂_of_mapM mapped) fun _ _ => isFinite_component?_iff
    rw [Value.floats, each, HasFiniteComponents]
    constructor
    · intro finite fractional part member
      exact finite part member fractional
    · intro finite part member fractional
      exact finite fractional part member
  · cases read

theorem isFinite_float? {type : ValueType} {text : String} {value : Value}
    (read : float? type text = some value) : ∀ number ∈ value.floats, number.isFinite = true := by
  rcases Option.map_eq_some_iff.mp read with ⟨number, found, rfl⟩
  intro other member
  obtain rfl := List.mem_singleton.mp member
  exact (Option.filter_eq_some_iff.mp found).2

end Literal

namespace Registry

variable {registry : Registry} {type : ValueType} {value : Value}

/-- The numbers of an element are finite unless it is a vector with a component that is not. -/
theorem floats_convertSimple?_iff {text : List Char}
    (converted : registry.convertSimple? type text = some value) :
    (∀ number ∈ value.floats, number.isFinite = true)
      ↔ ∀ kind, type = .composite kind → Literal.HasFiniteComponents kind text := by
  have accepted := accepts_convertSimple? converted
  cases type with
  | composite kind =>
      simp only [convertSimple?] at converted
      rw [Literal.floats_composite?_iff converted]
      simp
  | float | double =>
      simp only [convertSimple?] at converted
      exact iff_of_true (Literal.isFinite_float? converted) (by simp)
  | array element => simp [convertSimple?] at converted
  | record name => simp [convertSimple?] at converted
  | _ =>
      refine iff_of_true ?_ (by simp)
      rw [Value.floats_eq_nil_of_accepts accepted] <;> simp

/-- The numbers of a converted cell are finite if the components of all vectors in it are. -/
theorem floats_convert?_iff {cell : String} (converted : registry.convert? type cell = some value) :
    (∀ number ∈ value.floats, number.isFinite = true) ↔ Literal.HasFiniteVectors type cell := by
  have each : (∀ leaf ∈ value.leaves, ∀ number ∈ leaf.floats, number.isFinite = true)
      ↔ ∀ text ∈ Literal.scalarTexts type cell.toList, ∀ kind, type.scalar = .composite kind →
        Literal.HasFiniteComponents kind text := by
    apply forall_mem_iff_of_forall₂ (forall₂_leaves converted)
    rintro text leaf (simple | ⟨isText, content, rfl⟩)
    · exact floats_convertSimple?_iff simple
    · simp [isText, Value.floats]
  rw [Value.floats_eq_flatMap_leaves, List.forall_mem_flatMap, each]
  constructor
  · intro finite kind vectors text member
    exact finite text member kind vectors
  · intro finite text member kind vectors
    exact finite kind vectors text member

/-- No cell is converted to a value with records in it. -/
theorem rows_convertChars? {raw : List Char}
    (converted : registry.convertChars? type raw = some value) : value.rows = [] := by
  have accepted := accepts_convertChars? converted
  induction type generalizing raw value with
  | array element ih =>
      rcases exists_items_of_convertChars? converted with ⟨items, rfl, parts⟩
      rw [Value.rows, Value.rowsOfItems_eq_flatMap, List.flatMap_eq_nil_iff]
      intro item member
      rcases exists_of_mem_forall₂ parts member with ⟨part, _, ⟨_, rfl⟩ | ⟨_, made⟩⟩
      · rfl
      · exact ih made (accepts_convertChars? made)
  | record name => simp [convertChars?, convertSimple?] at converted
  | _ => exact Value.rows_eq_nil_of_accepts accepted (by simp) (by simp)

/-- The numbers of a converted cell are finite exactly if the components of all vectors in it
are, and a cell for another type has finite numbers only. Exactly then the value is also read
back from both of its JSON texts, where those of finite numbers are and arrays do not lie too
deep in each other. -/
theorem finite_convert?_iff {cell : String} (converted : registry.convert? type cell = some value) :
    ((∀ number ∈ value.floats, number.isFinite = true) ↔ Literal.HasFiniteVectors type cell)
      ∧ ((∀ number ∈ value.floats, number.isFinite = true → (JsonNumber.real number).ReadsBack) →
        value.toJson.depth ≤ Json.depthLimit →
        (Value.parse? value.toJson.compact = some value
            ∧ Value.parse? value.toJson.pretty = some value
          ↔ Literal.HasFiniteVectors type cell)) := by
  have finite := floats_convert?_iff converted
  refine ⟨finite, ?_⟩
  intro inverse shallow
  rw [← finite]
  constructor
  · rintro ⟨compact, _⟩
    exact Value.isFinite_parse? compact
  · intro every
    have noRows : value.rows = [] := rows_convertChars? converted
    exact Value.parse?_texts ⟨every, inverse, by simp [noRows], shallow⟩

/-- The numbers of a list of points are finite, and the list is read back. -/
theorem samplePoints_finite :
    ∃ value, Registry.empty.convert? (.array (.composite .vector2)) "[(1, 2), (0, -1.5e3)]" = some value
      ∧ value.floats.length = 4
      ∧ (∀ number ∈ value.floats, number.isFinite = true)
      ∧ Value.parse? value.toJson.compact = some value := by
  have evaluated : (Registry.empty.convert? (.array (.composite .vector2)) "[(1, 2), (0, -1.5e3)]").map
      (fun value => (value.floats, value.toJson.depth))
      = some ([⟨0x3FF0000000000000⟩, ⟨0x4000000000000000⟩, ⟨0⟩, ⟨0xC097700000000000⟩], 4) := by
    decide +kernel
  have parts : ∀ text ∈ Literal.scalarTexts (.array (.composite .vector2)) "[(1, 2), (0, -1.5e3)]".toList,
      ∀ part ∈ Literal.components text,
        (FloatNumeral.read? part).all (fun numeral => numeral.toSingle.isFinite) = true := by
    decide +kernel
  have vectors : Literal.HasFiniteVectors (.array (.composite .vector2)) "[(1, 2), (0, -1.5e3)]" := by
    rintro _ ⟨⟩ text listed _ part member numeral found
    have whole := parts text listed part member
    rw [found] at whole
    exact whole
  rcases Option.map_eq_some_iff.mp evaluated with ⟨value, converted, same⟩
  rcases Prod.mk.inj same with ⟨numbers, depth⟩
  rcases finite_convert?_iff converted with ⟨finite, readsBack⟩
  refine ⟨value, converted, by rw [numbers]; rfl, finite.mpr vectors, ?_⟩
  refine ((readsBack ?_ ?_).mpr vectors).1
  · rw [numbers]
    decide +kernel
  · rw [depth]
    decide

/-- Infinity is a component of a vector but not a single number, and a vector with it is not
read back from its text. -/
theorem endlessPoint_not_finite :
    Registry.empty.resolve? "Vector2" = some (.composite .vector2)
      ∧ Registry.empty.convert? .float "inf" = none
      ∧ Registry.empty.convert? (.composite .vector2) "(inf, -inf)"
        = some (.vector [Double.infinity false, Double.infinity true])
      ∧ (Double.infinity false).isFinite = false
      ∧ Value.parse? (Value.vector [Double.infinity false, Double.infinity true]).toJson.compact = none :=
  ⟨by cbv, by cbv, by cbv, by cbv, by cbv⟩

end Registry

end TypedSheets
