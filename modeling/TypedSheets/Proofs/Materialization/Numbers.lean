import TypedSheets.Proofs.Materialization.Typing

/-!
# Fields that hold whole numbers

Integers and values of enumerations are told apart by their texts among the values of one type. A
field has such a value in all records of a sheet when its class declares it with such a type, and
in none of them otherwise.
-/

namespace TypedSheets

open Numeral

/-! ## Numbers in fields -/

namespace Value

variable {value : Value} {word : Int64}

theorem keyText_of_asWord? (number : value.asWord? = some word) : value.keyText = wordText word := by
  cases value with
  | int held => rw [keyText, Option.some.inj number]
  | enum typeName held => rw [keyText, Option.some.inj number]
  | _ => cases number

/-- Of the values of one type only one has a given number. -/
theorem eq_rebox_of_asWord? {type : ValueType} (accepted : type.accepts value = true)
    (number : value.asWord? = some word) : value = type.rebox (.int word) := by
  cases value with
  | int held =>
      obtain rfl := Option.some.inj number
      cases type with
      | enum name => cases accepted
      | _ => rfl
  | enum typeName held =>
      obtain rfl := Option.some.inj number
      rw [ValueType.accepts, beq_iff_eq] at accepted
      subst accepted
      rfl
  | _ => cases number

end Value

namespace Record

/-- The number in a field, if there is one. -/
def word? (record : Record) (name : String) : Option Int64 :=
  (record.get? name).bind Value.asWord?

/-- Whether a record has all its keys, and they hold integers or values of enumerations. -/
def NumberedBy (record : Record) (keys : List String) : Prop :=
  ∀ key ∈ keys, (record.word? key).isSome = true

/-- Whether two records have the same values in their keys. -/
def SameKeys (keys : List String) (left right : Record) : Prop :=
  ∀ key ∈ keys, left.get? key = right.get? key

theorem keyText_of_word? {record : Record} {name : String} {word : Int64}
    (number : record.word? name = some word) :
    ((record.get? name).map Value.keyText).getD "" = wordText word := by
  rcases Option.bind_eq_some_iff.mp number with ⟨value, held, asWord⟩
  rw [held, Option.map_some, Option.getD_some, Value.keyText_of_asWord? asWord]

/-- In records of one class the same numbers are the same values. -/
theorem WellTyped.get?_eq_of_word? {left right : Record} {type : RecordType} {name : String}
    {word : Int64} (typedLeft : left.WellTyped type) (typedRight : right.WellTyped type)
    (numberLeft : left.word? name = some word) (numberRight : right.word? name = some word) :
    left.get? name = right.get? name := by
  rcases Option.bind_eq_some_iff.mp numberLeft with ⟨valueLeft, heldLeft, wordLeft⟩
  rcases Option.bind_eq_some_iff.mp numberRight with ⟨valueRight, heldRight, wordRight⟩
  rcases typedLeft.accepted name valueLeft heldLeft with ⟨field, found, acceptsLeft⟩
  rcases typedRight.accepted name valueRight heldRight with ⟨other, also, acceptsRight⟩
  obtain rfl : field = other := Option.some.inj (found.symm.trans also)
  rw [heldLeft, heldRight, Value.eq_rebox_of_asWord? acceptsLeft wordLeft,
    Value.eq_rebox_of_asWord? acceptsRight wordRight]

end Record

/-! ## Fields of whole numbers -/

/-- Whether the values of a type are whole numbers or values of an enumeration. -/
def ValueType.isWhole (type : ValueType) : Bool := type.isInteger || type.isEnum

theorem ValueType.isSome_asWord?_zero (type : ValueType) :
    type.zero.asWord?.isSome = type.isWhole := by
  cases type <;> rfl

namespace Registry

variable {registry : Registry} {type : ValueType} {value : Value}

/-- Text has a whole number for its value where the type has such values. -/
theorem isSome_asWord?_of_convertSimple? {text : List Char}
    (converted : registry.convertSimple? type text = some value) :
    value.asWord?.isSome = type.isWhole := by
  cases type with
  | bool =>
      simp only [convertSimple?, Literal.bool?] at converted
      split at converted
      · obtain rfl := Option.some.inj converted
        rfl
      · split at converted
        · obtain rfl := Option.some.inj converted
          rfl
        · cases converted
  | byte | short | int | long =>
      simp only [convertSimple?] at converted
      split at converted
      · next number read =>
          obtain rfl := Option.some.inj converted
          rcases Option.bind_eq_some_iff.mp read with ⟨range, _, read⟩
          rcases Option.map_eq_some_iff.mp read with ⟨integer, _, rfl⟩
          rfl
      · rcases Option.map_eq_some_iff.mp converted with ⟨member, _, rfl⟩
        rfl
  | float | double =>
      rcases Option.map_eq_some_iff.mp converted with ⟨number, _, rfl⟩
      rfl
  | string =>
      obtain rfl := Option.some.inj converted
      rfl
  | composite kind =>
      simp only [convertSimple?, Literal.composite?] at converted
      split at converted
      · rcases Option.map_eq_some_iff.mp converted with ⟨components, _, rfl⟩
        rfl
      · cases converted
  | enum name =>
      simp only [convertSimple?] at converted
      split at converted
      · obtain rfl := Option.some.inj converted
        rfl
      · cases converted
  | reference name =>
      simp only [convertSimple?] at converted
      split at converted
      · obtain rfl := Option.some.inj converted
        rfl
      · cases converted
  | record name => cases converted
  | array element => cases converted

theorem isSome_asWord?_of_convertChars? {text : List Char}
    (converted : registry.convertChars? type text = some value) :
    value.asWord?.isSome = type.isWhole := by
  cases type with
  | array element =>
      rcases exists_items_of_convertChars? converted with ⟨items, rfl, _⟩
      rfl
  | _ =>
      simp only [convertChars?] at converted
      split at converted
      · cases converted
      · exact isSome_asWord?_of_convertSimple? converted

/-- A cell has a whole number for its value where its type has such values. -/
theorem isSome_asWord?_of_convertCell? {raw : String}
    (converted : registry.convertCell? type raw = some value) :
    value.asWord?.isSome = type.isWhole := by
  simp only [convertCell?] at converted
  split at converted
  · next made direct =>
      obtain rfl := Option.some.inj converted
      exact isSome_asWord?_of_convertChars? direct
  · split at converted
    · rcases Option.bind_eq_some_iff.mp converted with ⟨number, _, converted⟩
      rcases Option.bind_eq_some_iff.mp converted with ⟨definition, _, converted⟩
      split at converted
      · obtain rfl := Option.some.inj converted
        rfl
      · cases converted
    · cases converted

end Registry

namespace Record

/-- Whether the fields of a record that hold whole numbers are those that its class declares with
such a type. -/
def WholeAsDeclared (record : Record) (type : RecordType) : Prop :=
  ∀ name value field, record.get? name = some value → type.field? name = some field →
    value.asWord?.isSome = field.type.isWhole

theorem asWord?_grown (item held : Value) : (grown item held).asWord? = none := by
  cases held <;> rfl

theorem wholeAsDeclared_instantiate (type : RecordType) : type.instantiate.WholeAsDeclared type := by
  intro name value field reads found
  rw [RecordType.get?_instantiate, found] at reads
  obtain rfl := Option.some.inj reads
  exact field.type.isSome_asWord?_zero

/-- A change keeps to the class that gives a whole number where the class declares one. -/
theorem WholeAsDeclared.update {record : Record} {type : RecordType} {name : String}
    {change : Value → Value} (whole : record.WholeAsDeclared type)
    (keeps : ∀ held field, type.field? name = some field →
      (change held).asWord?.isSome = field.type.isWhole) :
    (record.update name change).WholeAsDeclared type := by
  intro other value field reads found
  by_cases same : other = name
  · subst same
    rw [get?_update_self] at reads
    rcases Option.map_eq_some_iff.mp reads with ⟨held, _, rfl⟩
    exact keeps held field found
  · rw [get?_update_of_ne record same] at reads
    exact whole other value field reads found

end Record

namespace Materialization

theorem isSome_asWord?_of_readCell {registry : Registry} {binding : Binding} {raw : String}
    {value : Value} (gives : readCell registry binding raw = .value value) :
    value.asWord?.isSome = binding.cellType.isWhole := by
  simp only [readCell] at gives
  split at gives
  · cases gives
  · split at gives
    · next made converted =>
        obtain rfl := CellOutcome.value.inj gives
        exact Registry.isSome_asWord?_of_convertCell? converted
    · cases gives

/-- A cell of a bound column puts a whole number where the class declares one. -/
theorem wholeAsDeclared_assign {recordType : RecordType} {binding : Binding}
    {outcome : CellOutcome} {record : Record} (fits : binding.Fits recordType)
    (gives : ∀ value, outcome = .value value → value.asWord?.isSome = binding.cellType.isWhole)
    (whole : record.WholeAsDeclared recordType) :
    (assign record binding outcome).WholeAsDeclared recordType := by
  rcases fits with ⟨descriptor, found, declared⟩
  cases outcome with
  | empty => exact whole
  | failed => exact whole
  | value value =>
      simp only [assign]
      split
      · next isArray =>
          apply whole.update
          intro held field also
          obtain rfl := Option.some.inj (found.symm.trans also)
          rw [Record.asWord?_grown, declared, isArray]
          rfl
      · next single =>
          apply whole.update
          intro held field also
          obtain rfl := Option.some.inj (found.symm.trans also)
          rw [gives value rfl, declared, Bool.eq_false_iff.mpr single]
          rfl

theorem wholeAsDeclared_fill {plan : Plan}
    (fits : ∀ binding ∈ plan.bindings, binding.Fits plan.recordType) (row : Nat) :
    (plan.fill row).WholeAsDeclared plan.recordType := by
  rw [Plan.fill]
  -- Every cell that is assigned keeps what the record starts with.
  refine List.foldlRecOn (motive := fun record : Record => record.WholeAsDeclared plan.recordType)
    _ _ ?_ ?_
  · exact Record.wholeAsDeclared_instantiate plan.recordType
  · intro record whole binding bound
    exact wholeAsDeclared_assign (fits binding bound) (fun _ => isSome_asWord?_of_readCell) whole

/-- Whether a field of the record of a row has a whole number depends on the class only. -/
theorem isSome_word?_record {plan : Plan}
    (fits : ∀ binding ∈ plan.bindings, binding.Fits plan.recordType) (row : Nat) (name : String) :
    ((plan.record row).word? name).isSome
      = (plan.recordType.field? name).any fun field => field.type.isWhole := by
  have typed := wellTyped_record fits row
  cases held : (plan.record row).get? name with
  | none =>
      have undeclared : plan.recordType.field? name = none := by
        rw [← Option.not_isSome_iff_eq_none]
        intro declared
        rcases typed.hasFields.exists_get? declared with ⟨value, reads⟩
        rw [held] at reads
        cases reads
      simp [Record.word?, held, undeclared]
  | some value =>
      rcases typed.accepted name value held with ⟨field, found, _⟩
      rw [Record.word?, held, found]
      rw [get?_record] at held
      exact wholeAsDeclared_fill fits row name value field held found

/-- Of the records of a sheet either all are numbered by the same keys or none. -/
theorem numberedBy_of_numberedBy {plan : Plan} {keys : List String}
    (fits : ∀ binding ∈ plan.bindings, binding.Fits plan.recordType) {first second : Nat}
    (numbered : (plan.record first).NumberedBy keys) : (plan.record second).NumberedBy keys := by
  intro key member
  rw [isSome_word?_record fits, ← isSome_word?_record fits first]
  exact numbered key member

end Materialization

end TypedSheets
