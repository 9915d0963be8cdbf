import TypedSheets.Conversion.Materialization

/-!
# Registries that know the same types

The order in which names of record classes were registered decides nothing. Registries that
differ only in it resolve the same declarations, convert the same cells and so make the same
records of every sheet.
-/

namespace TypedSheets

namespace Registry

/-- Whether two registries know the same types, the enumerations in the same order. -/
structure SameTypes (left right : Registry) : Prop where
  enums : left.enums = right.enums
  references : left.references = right.references
  records : ∀ name, name ∈ left.records ↔ name ∈ right.records

namespace SameTypes

variable {left right : Registry}

theorem registerEnum (same : left.SameTypes right) (definition : EnumDef) :
    (left.registerEnum definition).SameTypes (right.registerEnum definition) := by
  constructor
  · rw [Registry.registerEnum, Registry.registerEnum, same.enums]
  · exact same.references
  · exact same.records

/-! ## Declarations -/

theorem lookupEnum? (same : left.SameTypes right) : left.lookupEnum? = right.lookupEnum? := by
  funext name
  rw [Registry.lookupEnum?, Registry.lookupEnum?, findEnums, findEnums, same.enums]

theorem resolveSimple? (same : left.SameTypes right) :
    left.resolveSimple? = right.resolveSimple? := by
  funext name
  have listed : left.records.contains name = right.records.contains name := by
    rw [Bool.eq_iff_iff, List.contains_iff_mem, List.contains_iff_mem]
    exact same.records name
  rw [Registry.resolveSimple?, Registry.resolveSimple?, same.lookupEnum?, same.references, listed]

theorem resolveChars? (same : left.SameTypes right) (declared : List Char) :
    left.resolveChars? declared = right.resolveChars? declared := by
  induction declared using Registry.resolveChars?.induct with
  | case1 declared blank => rw [Registry.resolveChars?, Registry.resolveChars?, if_pos blank, if_pos blank]
  | case2 declared visible element found ih =>
      rw [Registry.resolveChars?, Registry.resolveChars?, if_neg visible, if_neg visible]
      split
      · next other also =>
          obtain rfl : element = other := Option.some.inj (found.symm.trans also)
          rw [ih]
      · next absent =>
          rw [found] at absent
          cases absent
  | case3 declared visible absent =>
      rw [Registry.resolveChars?, Registry.resolveChars?, if_neg visible, if_neg visible]
      split
      · next other also =>
          rw [absent] at also
          cases also
      · rw [same.resolveSimple?]

/-- The same declared names stand for the same types. -/
theorem resolve? (same : left.SameTypes right) : left.resolve? = right.resolve? := by
  funext declared
  exact same.resolveChars? declared.toList

/-! ## Cells -/

theorem parseEnum (same : left.SameTypes right) : left.parseEnum = right.parseEnum := by
  funext typeName text
  rw [Registry.parseEnum, Registry.parseEnum, same.lookupEnum?, same.resolve?]

theorem isReference (same : left.SameTypes right) : left.isReference = right.isReference := by
  funext name
  rw [Registry.isReference, Registry.isReference, same.references]

theorem parseQualified? (same : left.SameTypes right) :
    left.parseQualified? = right.parseQualified? := by
  funext text
  rw [Registry.parseQualified?, Registry.parseQualified?, same.lookupEnum?, same.parseEnum]

theorem memberText (same : left.SameTypes right) : left.memberText = right.memberText := by
  funext name text
  rw [Registry.memberText, Registry.memberText, same.lookupEnum?]

theorem convertSimple? (same : left.SameTypes right) :
    left.convertSimple? = right.convertSimple? := by
  funext type text
  simp only [Registry.convertSimple?]
  rw [same.memberText, same.parseEnum, same.isReference, same.parseQualified?]

theorem convertChars? (same : left.SameTypes right) (type : ValueType) (raw : List Char) :
    left.convertChars? type raw = right.convertChars? type raw := by
  induction type generalizing raw with
  | array element ih => simp only [Registry.convertChars?, ih]
  | _ => simp only [Registry.convertChars?, same.convertSimple?]

/-- The same cells have the same values. -/
theorem convert? (same : left.SameTypes right) : left.convert? = right.convert? := by
  funext type raw
  exact same.convertChars? type raw.toList

/-- The same cells have the same values. -/
theorem convertCell? (same : left.SameTypes right) : left.convertCell? = right.convertCell? := by
  funext type raw
  unfold Registry.convertCell?
  rw [same.convert?, same.lookupEnum?]

/-! ## Sheets -/

theorem reconcile (same : left.SameTypes right) : Schema.reconcile left = Schema.reconcile right := by
  have compatible : FieldSchema.isCompatibleWith left = FieldSchema.isCompatibleWith right := by
    funext field other
    rw [FieldSchema.isCompatibleWith, FieldSchema.isCompatibleWith, same.resolve?]
  funext earlier field
  rw [Schema.reconcile, Schema.reconcile, compatible]

/-- The same sheets declare the same columns. -/
theorem derive (same : left.SameTypes right) : Schema.derive left = Schema.derive right := by
  have columns : FieldSchema.ofColumn left = FieldSchema.ofColumn right := by
    funext name declared column
    simp only [FieldSchema.ofColumn]
    rw [same.resolve?]
  funext view
  rw [Schema.derive, Schema.derive, same.reconcile, columns]

theorem ofSchema (same : left.SameTypes right) : RecordType.ofSchema left = RecordType.ofSchema right := by
  have added : RecordType.addColumn left = RecordType.addColumn right := by
    funext fields column
    rw [RecordType.addColumn, RecordType.addColumn, same.resolve?]
  funext name schema isPure
  rw [RecordType.ofSchema, RecordType.ofSchema, added]

theorem plan (same : left.SameTypes right) (view : View) (schema : Schema)
    (recordType : RecordType) (setting : Setting) :
    Materialization.plan left view schema recordType setting
      = { Materialization.plan right view schema recordType setting with registry := left } := by
  have bindings : Materialization.bind? left recordType = Materialization.bind? right recordType := by
    funext field
    rw [Materialization.bind?, Materialization.bind?, same.resolve?]
  rw [Materialization.plan, bindings]
  rfl

/-- The same rows become the same records. -/
theorem row (same : left.SameTypes right) (plan : Materialization.Plan) :
    Materialization.Plan.row { plan with registry := left }
      = Materialization.Plan.row { plan with registry := right } := by
  have cells : Materialization.readCell left = Materialization.readCell right := by
    funext binding raw
    rw [Materialization.readCell, Materialization.readCell, same.convertCell?]
  have outcomes : Materialization.Plan.outcome { plan with registry := left }
      = Materialization.Plan.outcome { plan with registry := right } := by
    funext row binding
    exact congrFun (congrFun cells binding) _
  have filled : Materialization.Plan.fill { plan with registry := left }
      = Materialization.Plan.fill { plan with registry := right } := by
    funext row
    rw [Materialization.Plan.fill, Materialization.Plan.fill, outcomes]
  have records : Materialization.Plan.record { plan with registry := left }
      = Materialization.Plan.record { plan with registry := right } := by
    funext row
    rw [Materialization.Plan.record, Materialization.Plan.record, filled]
  funext row
  rw [Materialization.Plan.row, Materialization.Plan.row, outcomes, records]
  rfl

/-- The same sheets give the same records, problems and messages. -/
theorem run (same : left.SameTypes right) (view : View) (schema : Schema)
    (recordType : RecordType) (setting : Setting) :
    Materialization.run left view schema recordType setting
      = Materialization.run right view schema recordType setting := by
  have mismatches : Materialization.mismatch? left recordType
      = Materialization.mismatch? right recordType := by
    funext field
    rw [Materialization.mismatch?, Materialization.mismatch?, same.resolve?]
  rw [Materialization.run, Materialization.run, mismatches, same.plan, same.row]
  rfl

end SameTypes

end Registry

end TypedSheets
