import Mathlib
import TypedSheets.Proofs.Json.Bounds
import TypedSheets.Proofs.Numeral.Finiteness
import TypedSheets.Proofs.Value.RoundTrip

/-!
# Stored numbers are finite

JSON has no numeral for an infinity or a NaN, and what is read as a floating point number is
a finite one. So a value with another number in it never comes back from its text.
-/

namespace TypedSheets

open Numeral

/-! ## Parts of bounded JSON -/

namespace Json

variable {json part : Json} {names : List String} {name : String} {field : String → Option Json}

theorem IsBounded.isFinite_asDouble? (bounded : json.IsBounded) {number : Double}
    (read : json.asDouble? = some number) : number.isFinite = true := by
  cases bounded with
  | @number value small =>
      cases value with
      | integer value =>
          obtain rfl := Option.some.inj read
          exact Double.isFinite_ofInt (Nat.lt_succ_of_le small)
      | real value =>
          simp only [asDouble?] at read
          split at read
          · next finite =>
              obtain rfl := Option.some.inj read
              exact finite
          · cases read
  | _ => cases read

theorem IsBounded.of_namedFields? (bounded : json.IsBounded)
    (fields : json.namedFields? names = some field) (found : field name = some part) :
    part.IsBounded := by
  cases bounded with
  | object each =>
      simp only [namedFields?] at fields
      split at fields
      · obtain rfl := Option.some.inj fields
        rcases List.lookup_eq_some_iff.mp found with ⟨front, back, rfl, _⟩
        exact each (name, part) (by simp)
      · cases fields
  | _ => cases fields

theorem IsBounded.of_fields? (bounded : json.IsBounded) (fields : json.fields? names = some field)
    (found : field name = some part) : part.IsBounded := by
  cases bounded with
  | array each =>
      simp only [fields?] at fields
      split at fields
      · obtain rfl := Option.some.inj fields
        rcases List.lookup_eq_some_iff.mp found with ⟨front, back, zipped, _⟩
        have listed : (name, part) ∈ front ++ (name, part) :: back := by simp
        exact each part (List.of_mem_zip (zipped ▸ listed)).2
      · cases fields
  | object each => exact IsBounded.of_namedFields? (.object each) fields found
  | _ => cases fields

/-- What a bounded list is read as comes from bounded items. -/
theorem IsBounded.exists_of_mem_asList? {α : Type} {item? : Json → Option α} {values : List α}
    {value : α} (bounded : json.IsBounded) (read : json.asList? item? = some values)
    (member : value ∈ values) : ∃ item, item.IsBounded ∧ item? item = some value := by
  cases bounded with
  | array each =>
      rcases exists_of_mem_mapM read member with ⟨item, listed, made⟩
      exact ⟨item, each item listed, made⟩
  | _ => cases read

end Json

/-- The content of a value that is taken apart is bounded. -/
theorem Value.isBounded_tagged? {json content : Json} {placement : Value.Placement}
    {tagged : Value.Tagged} (bounded : json.IsBounded) (taken : Value.tagged? placement json = some tagged)
    (inside : tagged.content = some content) : content.IsBounded := by
  rw [Value.tagged?.eq_def] at taken
  split at taken
  · rcases Option.bind_eq_some_iff.mp taken with ⟨field, fields, taken⟩
    rcases Option.bind_eq_some_iff.mp taken with ⟨tag, _, taken⟩
    have same : field "value" = some content := by
      dsimp only at taken
      split at taken
      · split at taken
        · cases taken
          exact inside
        · cases taken
      · cases taken
        exact inside
    exact bounded.of_namedFields? fields same
  · rcases Option.map_eq_some_iff.mp taken with ⟨_, _, rfl⟩
    cases inside
    cases bounded with
    | array each => exact each content (by simp)
  · cases taken

/-! ## Numbers that are read -/

theorem Value.floatsOfItems_eq_flatMap (items : List Value) :
    Value.floatsOfItems items = items.flatMap Value.floats := by
  induction items with
  | nil => rfl
  | cons item items ih => rw [floatsOfItems, ih, List.flatMap_cons]

theorem Record.floatsOfFields_eq_flatMap (fields : List (String × Value)) :
    Record.floatsOfFields fields = fields.flatMap fun field => field.2.floats := by
  induction fields with
  | nil => rfl
  | cons field fields ih => rw [floatsOfFields, ih, List.flatMap_cons]

/-- The numbers of a record that is read are finite if those of its values are. -/
theorem Record.isFinite_ofJsonBy? {value? : Json → Option Value} {json : Json} {record : Record}
    (finite : ∀ json value, json.IsBounded → value? json = some value →
      ∀ number ∈ value.floats, number.isFinite = true)
    (bounded : json.IsBounded) (read : Record.ofJsonBy? value? json = some record) :
    ∀ number ∈ record.floats, number.isFinite = true := by
  rcases Option.bind_eq_some_iff.mp read with ⟨field, known, read⟩
  rcases Option.bind_eq_some_iff.mp read with ⟨typeName, _, read⟩
  rcases Option.bind_eq_some_iff.mp read with ⟨assetName, _, read⟩
  rcases Option.bind_eq_some_iff.mp read with ⟨row, _, read⟩
  rcases Option.bind_eq_some_iff.mp read with ⟨fields, listed, read⟩
  obtain rfl := Option.some.inj read
  rcases Option.bind_eq_some_iff.mp listed with ⟨content, found, listed⟩
  rw [Record.floats, floatsOfFields_eq_flatMap, List.forall_mem_flatMap]
  intro own member
  rcases (bounded.of_fields? known found).exists_of_mem_asList? listed member with
    ⟨pair, pairBounded, made⟩
  rw [Record.fieldOfJson?.eq_def] at made
  split at made
  · rcases Option.map_eq_some_iff.mp made with ⟨value, read, rfl⟩
    cases pairBounded with
    | array each => exact finite _ _ (each _ (by simp)) read
  · cases made

theorem Value.floats_enumOfJson? {json : Json} {value : Value}
    (read : Value.enumOfJson? json = some value) : value.floats = [] := by
  rcases Option.bind_eq_some_iff.mp read with ⟨_, _, read⟩
  rcases Option.bind_eq_some_iff.mp read with ⟨_, _, read⟩
  rcases Option.bind_eq_some_iff.mp read with ⟨_, _, read⟩
  cases read
  rfl

theorem Value.floats_referenceOfJson? {json : Json} {value : Value}
    (read : Value.referenceOfJson? json = some value) : value.floats = [] := by
  rcases Option.bind_eq_some_iff.mp read with ⟨_, _, read⟩
  rcases Option.bind_eq_some_iff.mp read with ⟨_, _, read⟩
  rcases Option.bind_eq_some_iff.mp read with ⟨_, _, read⟩
  cases read
  rfl

/-- The numbers of a value that is read are finite. -/
theorem Value.isFinite_ofJsonWithin? {levels : Nat} {placement : Value.Placement} {json : Json}
    {value : Value} (bounded : json.IsBounded)
    (read : Value.ofJsonWithin? levels placement json = some value) :
    ∀ number ∈ value.floats, number.isFinite = true := by
  induction levels generalizing placement json value with
  | zero => cases read
  | succ levels ih =>
      simp only [Value.ofJsonWithin?] at read
      rcases Option.bind_eq_some_iff.mp read with ⟨⟨tag, content, placement⟩, taken, read⟩
      have inside : ∀ part, content = some part → part.IsBounded := fun part here =>
        Value.isBounded_tagged? bounded taken here
      dsimp only at read
      split at read
      · cases read
        simp [Value.floats]
      · split at read <;> cases read
        simp [Value.floats]
      · rcases Option.map_eq_some_iff.mp read with ⟨_, _, rfl⟩
        simp [Value.floats]
      · rcases Option.map_eq_some_iff.mp read with ⟨_, _, rfl⟩
        simp [Value.floats]
      · rcases Option.map_eq_some_iff.mp read with ⟨number, made, rfl⟩
        simpa [Value.floats] using (inside _ rfl).isFinite_asDouble? made
      · rcases Option.map_eq_some_iff.mp read with ⟨_, _, rfl⟩
        simp [Value.floats]
      · simp [floats_enumOfJson? read]
      · rcases Option.map_eq_some_iff.mp read with ⟨numbers, made, rfl⟩
        intro number member
        rcases (inside _ rfl).exists_of_mem_asList? made member with ⟨part, bounded, made⟩
        exact bounded.isFinite_asDouble? made
      · rcases Option.map_eq_some_iff.mp read with ⟨items, made, rfl⟩
        rw [Value.floats, floatsOfItems_eq_flatMap, List.forall_mem_flatMap]
        intro item member
        rcases (inside _ rfl).exists_of_mem_asList? made member with ⟨part, bounded, made⟩
        exact ih bounded made
      · simp [floats_referenceOfJson? read]
      · rcases Option.map_eq_some_iff.mp read with ⟨record, made, rfl⟩
        exact Record.isFinite_ofJsonBy? (fun _ _ => ih) (inside _ rfl) made
      · cases read

/-- A value that is read from a text has finite numbers only. -/
theorem Value.isFinite_parse? {text : String} {value : Value}
    (parsed : Value.parse? text = some value) : ∀ number ∈ value.floats, number.isFinite = true := by
  rcases Option.bind_eq_some_iff.mp parsed with ⟨json, tree, denotes⟩
  exact Value.isFinite_ofJsonWithin? (Json.isBounded_parse? tree) denotes

end TypedSheets
