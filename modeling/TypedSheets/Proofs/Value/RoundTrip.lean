import Mathlib
import TypedSheets.Proofs.Json.RoundTrip
import TypedSheets.Store.Asset

/-!
# Stored data is read back

Values, records and assets come back from both of their JSON texts. A text holds what a
value is made of and nothing else, so the only numbers to care about are the floating
point numbers, which have to be finite and to come back from their numerals, and the rows
of records, which are machine words.
-/

namespace TypedSheets

open Numeral

/-! ## The numbers in stored data -/

mutual

/-- The floating point numbers in a value, at any depth. -/
def Value.floats : Value → List Double
  | .float value => [value]
  | .vector components => components
  | .array items => Value.floatsOfItems items
  | .record record => record.floats
  | _ => []

/-- The floating point numbers in a list of values. -/
def Value.floatsOfItems : List Value → List Double
  | [] => []
  | item :: items => item.floats ++ Value.floatsOfItems items

/-- The floating point numbers in a record. -/
def Record.floats : Record → List Double
  | ⟨_, _, _, fields⟩ => Record.floatsOfFields fields

/-- The floating point numbers in fields. -/
def Record.floatsOfFields : List (String × Value) → List Double
  | [] => []
  | (_, value) :: fields => value.floats ++ Record.floatsOfFields fields

end

mutual

/-- The rows of the records in a value, at any depth. -/
def Value.rows : Value → List Nat
  | .array items => Value.rowsOfItems items
  | .record record => record.rows
  | _ => []

/-- The rows of the records in a list of values. -/
def Value.rowsOfItems : List Value → List Nat
  | [] => []
  | item :: items => item.rows ++ Value.rowsOfItems items

/-- The row of a record and those of the records in it. -/
def Record.rows : Record → List Nat
  | ⟨_, _, row, fields⟩ => row.toList ++ Record.rowsOfFields fields

/-- The rows of the records in fields. -/
def Record.rowsOfFields : List (String × Value) → List Nat
  | [] => []
  | (_, value) :: fields => value.rows ++ Record.rowsOfFields fields

end

/-- What a text needs in order to be read as what it was written from: finite floating
point numbers, for which reading numerals is assumed to invert writing them, rows that are
machine words, and not too many levels. -/
structure Storable (floats : List Double) (rows : List Nat) (json : Json) : Prop where
  finite : ∀ float ∈ floats, float.isFinite = true
  inverse : ∀ float ∈ floats, float.isFinite = true → (JsonNumber.real float).ReadsBack
  words : ∀ row ∈ rows, row < 2 ^ 64
  shallow : json.depth ≤ Json.depthLimit

theorem Storable.readsBack {floats : List Double} {rows : List Nat} {json : Json}
    (storable : Storable floats rows json) :
    ∀ float ∈ floats, (JsonNumber.real float).ReadsBack :=
  fun float member => storable.inverse float member (storable.finite float member)

/-! ## The JSON of stored data comes back from its texts -/

theorem Json.readsBack_tagged {tag : String} {content : Json} (faithful : content.ReadsBack) :
    (Json.tagged tag content).ReadsBack :=
  ⟨trivial, faithful, trivial⟩

theorem Json.readsBack_word (value : Int64) :
    (Json.number (.integer value.toInt)).ReadsBack := by
  have low := Int64.le_toInt value
  have high := Int64.toInt_lt value
  apply JsonNumber.readsBack_integer
  · simp only [JsonNumber.negativeLimit]
    omega
  · simp only [JsonNumber.wordLimit]
    omega

theorem Json.readsBack_row {row : Nat} (word : row < 2 ^ 64) :
    (Json.number (.integer row)).ReadsBack := by
  apply JsonNumber.readsBack_integer
  · omega
  · simp only [JsonNumber.wordLimit]
    omega

theorem Json.readsBack_floats {floats : List Double}
    (faithful : ∀ float ∈ floats, (JsonNumber.real float).ReadsBack) :
    ItemsReadBack (floats.map fun float => .number (.real float)) := by
  induction floats with
  | nil => trivial
  | cons float floats ih =>
      rcases List.forall_mem_cons.mp faithful with ⟨first, others⟩
      exact ⟨first, ih others⟩

theorem Json.entriesReadBack_append {left right : List (String × Json)}
    (first : EntriesReadBack left) (second : EntriesReadBack right) :
    EntriesReadBack (left ++ right) := by
  induction left with
  | nil => exact second
  | cons entry left ih => exact ⟨first.1, ih first.2⟩

mutual

theorem Value.readsBack_toJson (value : Value)
    (floats : ∀ float ∈ value.floats, (JsonNumber.real float).ReadsBack)
    (words : ∀ row ∈ value.rows, row < 2 ^ 64) : value.toJson.ReadsBack := by
  cases value with
  | null => exact ⟨trivial, trivial⟩
  | bool value => exact Json.readsBack_tagged trivial
  | int value => exact Json.readsBack_tagged (Json.readsBack_word value)
  | float value => exact Json.readsBack_tagged (floats value (List.mem_singleton.mpr rfl))
  | text value => exact Json.readsBack_tagged trivial
  | enum typeName value =>
      exact Json.readsBack_tagged ⟨trivial, Json.readsBack_word value, trivial⟩
  | vector components => exact Json.readsBack_tagged (Json.readsBack_floats floats)
  | array items => exact Json.readsBack_tagged (Value.readsBack_itemsToJson items floats words)
  | reference typeName key => exact Json.readsBack_tagged ⟨trivial, trivial, trivial⟩
  | record record => exact Json.readsBack_tagged (Record.readsBack_toJson record floats words)

theorem Value.readsBack_itemsToJson (items : List Value)
    (floats : ∀ float ∈ Value.floatsOfItems items, (JsonNumber.real float).ReadsBack)
    (words : ∀ row ∈ Value.rowsOfItems items, row < 2 ^ 64) :
    Json.ItemsReadBack (Value.itemsToJson items) := by
  cases items with
  | nil => trivial
  | cons item items =>
      rcases List.forall_mem_append.mp floats with ⟨itsFloats, otherFloats⟩
      rcases List.forall_mem_append.mp words with ⟨itsWords, otherWords⟩
      exact ⟨Value.readsBack_toJson item itsFloats itsWords,
        Value.readsBack_itemsToJson items otherFloats otherWords⟩

theorem Record.readsBack_toJson (record : Record)
    (floats : ∀ float ∈ record.floats, (JsonNumber.real float).ReadsBack)
    (words : ∀ row ∈ record.rows, row < 2 ^ 64) : record.toJson.ReadsBack := by
  rcases record with ⟨typeName, assetName, row, fields⟩
  rcases List.forall_mem_append.mp words with ⟨ownWord, fieldWords⟩
  have nameFaithful : Json.EntriesReadBack
      (assetName.toList.map fun name => ("asset_name", .string name)) := by
    cases assetName with
    | none => trivial
    | some name => exact ⟨trivial, trivial⟩
  have rowFaithful : Json.EntriesReadBack
      (row.toList.map fun (row : Nat) => ("row", .number (.integer row))) := by
    cases row with
    | none => trivial
    | some row => exact ⟨Json.readsBack_row (ownWord row (List.mem_singleton.mpr rfl)), trivial⟩
  have fieldsFaithful := Record.readsBack_fieldsToJson fields floats fieldWords
  exact ⟨trivial, Json.entriesReadBack_append
    (Json.entriesReadBack_append nameFaithful rowFaithful) ⟨fieldsFaithful, trivial⟩⟩

theorem Record.readsBack_fieldsToJson (fields : List (String × Value))
    (floats : ∀ float ∈ Record.floatsOfFields fields, (JsonNumber.real float).ReadsBack)
    (words : ∀ row ∈ Record.rowsOfFields fields, row < 2 ^ 64) :
    Json.ItemsReadBack (Record.fieldsToJson fields) := by
  cases fields with
  | nil => trivial
  | cons field fields =>
      rcases field with ⟨name, value⟩
      rcases List.forall_mem_append.mp floats with ⟨itsFloats, otherFloats⟩
      rcases List.forall_mem_append.mp words with ⟨itsWords, otherWords⟩
      exact ⟨⟨trivial, Value.readsBack_toJson value itsFloats itsWords, trivial⟩,
        Record.readsBack_fieldsToJson fields otherFloats otherWords⟩

end

/-! ## Stored data is what its JSON denotes -/

theorem Value.tagged?_tagged (tag : String) (content : Json) :
    Value.tagged? .inPlace (Json.tagged tag content) = some ⟨tag, some content, .inPlace⟩ := by
  rfl

theorem Json.asWord?_word (value : Int64) :
    (Json.number (.integer value.toInt)).asWord? = some value := by
  simp [asWord?, asInteger?, Range.holds_signed64_toInt, -Range.holds_iff]

theorem Json.asNat?_row {row : Nat} (word : row < 2 ^ 64) :
    (Json.number (.integer row)).asNat? = some row := by
  have inRange : Range.unsigned64.holds row = true := by
    rw [Range.holds_iff]
    simp only [Range.unsigned64]
    omega
  simp [asNat?, asInteger?, inRange]

theorem Json.asList?_floats {floats : List Double}
    (finite : ∀ float ∈ floats, float.isFinite = true) :
    (Json.array (floats.map fun float => .number (.real float))).asList? asDouble? = some floats := by
  rw [asList?]
  induction floats with
  | nil => rfl
  | cons float floats ih =>
      rcases List.forall_mem_cons.mp finite with ⟨first, others⟩
      simp [asDouble?, first, ih others]

theorem Json.le_depthOfEntries_append (left right : List (String × Json)) :
    depthOfEntries right ≤ depthOfEntries (left ++ right) := by
  induction left with
  | nil => exact Nat.le_refl _
  | cons entry left ih => exact Nat.le_trans ih (Nat.le_max_right ..)

/-- The fields of a record lie two levels below the record. -/
theorem Record.depthOfItems_lt (typeName : String) (assetName : Option String)
    (row : Option Nat) (fields : List (String × Value)) :
    Json.depthOfItems (Record.fieldsToJson fields) + 2
      ≤ (Record.mk typeName assetName row fields).toJson.depth := by
  have last := Json.le_depthOfEntries_append
    (("type_name", .string typeName)
      :: (assetName.toList.map fun name => ("asset_name", .string name))
      ++ (row.toList.map fun (row : Nat) => ("row", .number (.integer row))))
    [("fields", .array (Record.fieldsToJson fields))]
  simp only [Json.depthOfEntries, Json.depth, Nat.max_zero] at last
  simp only [Record.toJson, Json.depth]
  omega

theorem Value.enumOfJson?_parts (typeName : String) (value : Int64) :
    Value.enumOfJson? (.object
        [("type_name", .string typeName), ("value", .number (.integer value.toInt))])
      = some (.enum typeName value) := by
  have known : ∃ field,
      Json.namedFields? ["type_name", "value"] (.object
          [("type_name", .string typeName), ("value", .number (.integer value.toInt))]) = some field
        ∧ field "type_name" = some (.string typeName)
        ∧ field "value" = some (.number (.integer value.toInt)) :=
    ⟨_, rfl, rfl, rfl⟩
  rcases known with ⟨field, known, typeNameField, valueField⟩
  simp [enumOfJson?, known, typeNameField, valueField, Json.required?, Json.asString?,
    Json.asWord?_word]

/-- A field that is left out where there is no value stands for none. -/
theorem Json.orDefault?_map {α : Type} {value? : Json → Option α} {write : α → Json}
    {optional : Option α}
    (reads : ∀ value ∈ optional, asOptional? value? (write value) = some (some value)) :
    orDefault? none (asOptional? value?) (optional.map write) = some optional := by
  cases optional with
  | none => rfl
  | some value => exact reads value rfl

/-- A record is what its JSON denotes when its fields are what theirs denotes. -/
theorem Record.ofJsonBy?_toJson {value? : Json → Option Value} {record : Record}
    (words : ∀ row ∈ record.rows, row < 2 ^ 64)
    (fields : (Record.fieldsToJson record.fields).mapM (Record.fieldOfJson? value?)
      = some record.fields) :
    Record.ofJsonBy? value? record.toJson = some record := by
  rcases record with ⟨typeName, assetName, row, own⟩
  have known : ∃ field,
      Json.fields? ["type_name", "asset_name", "row", "fields"]
          (Record.mk typeName assetName row own).toJson = some field
        ∧ field "type_name" = some (.string typeName)
        ∧ field "asset_name" = assetName.map Json.string
        ∧ field "row" = row.map (fun row => .number (.integer row))
        ∧ field "fields" = some (.array (Record.fieldsToJson own)) := by
    cases assetName <;> cases row <;> exact ⟨_, rfl, rfl, rfl, rfl, rfl⟩
  rcases known with ⟨field, known, typeNameField, assetNameField, rowField, fieldsField⟩
  have readName : Json.orDefault? none (Json.asOptional? Json.asString?)
      (assetName.map Json.string) = some assetName :=
    Json.orDefault?_map fun name _ => rfl
  have readRow : Json.orDefault? none (Json.asOptional? Json.asNat?)
      (row.map fun (row : Nat) => .number (.integer row)) = some row := by
    apply Json.orDefault?_map
    intro number present
    have word := words number (List.mem_append_left _ (Option.mem_toList.mpr present))
    exact congrArg (Option.map some) (Json.asNat?_row word)
  have readFields : (Json.array (Record.fieldsToJson own)).asList? (Record.fieldOfJson? value?)
      = some own := fields
  simp [Record.ofJsonBy?, known, typeNameField, assetNameField, rowField, fieldsField, readName,
    readRow, readFields, Json.required?, Json.asString?]

mutual

/-- A value is what its JSON denotes. -/
theorem Value.ofJsonWithin?_toJson (value : Value) {levels : Nat}
    (finite : ∀ float ∈ value.floats, float.isFinite = true)
    (words : ∀ row ∈ value.rows, row < 2 ^ 64) (shallow : value.toJson.depth ≤ levels) :
    Value.ofJsonWithin? levels .inPlace value.toJson = some value := by
  cases levels with
  | zero => cases value <;> simp [Value.toJson, Json.tagged, Json.depth] at shallow
  | succ levels =>
      cases value with
      | null => rfl
      | bool value => rfl
      | int value =>
          simp [Value.ofJsonWithin?, Value.toJson, Value.tagged?_tagged, Json.asWord?_word]
      | float value =>
          have itsFinite : value.isFinite = true := finite value (List.mem_singleton.mpr rfl)
          simp [Value.ofJsonWithin?, Value.toJson, Value.tagged?_tagged, Json.asDouble?, itsFinite]
      | text value => rfl
      | enum typeName value =>
          simp [Value.ofJsonWithin?, Value.toJson, Value.tagged?_tagged, Value.enumOfJson?_parts]
      | vector components =>
          have parts : (Json.array (components.map fun component => .number (.real component))).asList?
              Json.asDouble? = some components := Json.asList?_floats finite
          simp [Value.ofJsonWithin?, Value.toJson, Value.tagged?_tagged, parts]
      | array items =>
          simp only [Value.toJson, Json.tagged, Json.depth, Json.depthOfEntries] at shallow
          have parts := Value.mapM_itemsToJson items finite words (show _ ≤ levels by omega)
          simp [Value.ofJsonWithin?, Value.toJson, Value.tagged?_tagged, Json.asList?, parts]
      | reference typeName key => rfl
      | record record =>
          rcases record with ⟨typeName, assetName, row, fields⟩
          -- JSON nests deeper than values do, so the levels last for the fields.
          have deeper := Record.depthOfItems_lt typeName assetName row fields
          simp only [Value.toJson, Json.tagged, Json.depth, Json.depthOfEntries] at shallow
          have ofFields := Record.mapM_fieldsToJson fields finite
            (List.forall_mem_append.mp words).2 (show _ ≤ levels by omega)
          have parts := Record.ofJsonBy?_toJson words ofFields
          simp [Value.ofJsonWithin?, Value.toJson, Value.tagged?_tagged, parts]

theorem Value.mapM_itemsToJson (items : List Value) {levels : Nat}
    (finite : ∀ float ∈ Value.floatsOfItems items, float.isFinite = true)
    (words : ∀ row ∈ Value.rowsOfItems items, row < 2 ^ 64)
    (shallow : Json.depthOfItems (Value.itemsToJson items) ≤ levels) :
    (Value.itemsToJson items).mapM (Value.ofJsonWithin? levels .inPlace) = some items := by
  cases items with
  | nil => rfl
  | cons item items =>
      rcases List.forall_mem_append.mp finite with ⟨itsFinite, otherFinite⟩
      rcases List.forall_mem_append.mp words with ⟨itsWords, otherWords⟩
      rcases Nat.max_le.mp shallow with ⟨itsShallow, otherShallow⟩
      rw [Value.itemsToJson, List.mapM_cons,
        Value.ofJsonWithin?_toJson item itsFinite itsWords itsShallow,
        Value.mapM_itemsToJson items otherFinite otherWords otherShallow]
      rfl

theorem Record.mapM_fieldsToJson (fields : List (String × Value)) {levels : Nat}
    (finite : ∀ float ∈ Record.floatsOfFields fields, float.isFinite = true)
    (words : ∀ row ∈ Record.rowsOfFields fields, row < 2 ^ 64)
    (shallow : Json.depthOfItems (Record.fieldsToJson fields) ≤ levels) :
    (Record.fieldsToJson fields).mapM (Record.fieldOfJson? (Value.ofJsonWithin? levels .inPlace))
      = some fields := by
  cases fields with
  | nil => rfl
  | cons field fields =>
      rcases field with ⟨name, value⟩
      rcases List.forall_mem_append.mp finite with ⟨itsFinite, otherFinite⟩
      rcases List.forall_mem_append.mp words with ⟨itsWords, otherWords⟩
      rcases Nat.max_le.mp shallow with ⟨itsShallow, otherShallow⟩
      simp only [Json.depth, Json.depthOfItems] at itsShallow
      rw [Record.fieldsToJson, List.mapM_cons, Record.fieldOfJson?,
        Value.ofJsonWithin?_toJson value itsFinite itsWords (by omega),
        Record.mapM_fieldsToJson fields otherFinite otherWords otherShallow]
      rfl

end

theorem Record.ofJson?_toJson (record : Record)
    (finite : ∀ float ∈ record.floats, float.isFinite = true)
    (words : ∀ row ∈ record.rows, row < 2 ^ 64)
    (shallow : record.toJson.depth ≤ Json.depthLimit) :
    Record.ofJson? record.toJson = some record := by
  rcases record with ⟨typeName, assetName, row, fields⟩
  have deeper := Record.depthOfItems_lt typeName assetName row fields
  exact Record.ofJsonBy?_toJson words (Record.mapM_fieldsToJson fields finite
    (List.forall_mem_append.mp words).2 (by omega))

namespace Asset

/-- The floating point numbers in the records of an asset. -/
def floats (asset : Asset) : List Double :=
  asset.records.flatMap Record.floats

/-- The rows of the records of an asset. -/
def rows (asset : Asset) : List Nat :=
  asset.records.flatMap Record.rows

theorem readsBack_toJson (asset : Asset)
    (floats : ∀ float ∈ asset.floats, (JsonNumber.real float).ReadsBack)
    (words : ∀ row ∈ asset.rows, row < 2 ^ 64) : asset.toJson.ReadsBack := by
  rcases asset with ⟨name, kind, className, savedAt, records⟩
  have faithful : Json.ItemsReadBack (records.map Record.toJson) := by
    induction records with
    | nil => trivial
    | cons record records ih =>
        rcases List.forall_mem_append.mp floats with ⟨itsFloats, otherFloats⟩
        rcases List.forall_mem_append.mp words with ⟨itsWords, otherWords⟩
        exact ⟨Record.readsBack_toJson record itsFloats itsWords, ih otherFloats otherWords⟩
  exact ⟨trivial, trivial, trivial, trivial, faithful, trivial⟩

theorem mapM_records {records : List Record}
    (finite : ∀ float ∈ records.flatMap Record.floats, float.isFinite = true)
    (words : ∀ row ∈ records.flatMap Record.rows, row < 2 ^ 64)
    (shallow : Json.depthOfItems (records.map Record.toJson) ≤ Json.depthLimit) :
    (records.map Record.toJson).mapM Record.ofJson? = some records := by
  induction records with
  | nil => rfl
  | cons record records ih =>
      rcases List.forall_mem_append.mp finite with ⟨itsFinite, otherFinite⟩
      rcases List.forall_mem_append.mp words with ⟨itsWords, otherWords⟩
      rcases Nat.max_le.mp shallow with ⟨itsShallow, otherShallow⟩
      rw [List.map_cons, List.mapM_cons, Record.ofJson?_toJson record itsFinite itsWords itsShallow,
        ih otherFinite otherWords otherShallow]
      rfl

/-- An asset is what its JSON denotes. -/
theorem ofJson?_toJson (asset : Asset) (finite : ∀ float ∈ asset.floats, float.isFinite = true)
    (words : ∀ row ∈ asset.rows, row < 2 ^ 64) (shallow : asset.toJson.depth ≤ Json.depthLimit) :
    ofJson? asset.toJson = some asset := by
  rcases asset with ⟨name, kind, className, savedAt, records⟩
  have known : ∃ field,
      Json.fields? ["name", "kind", "class_name", "saved_at", "records"]
          (Asset.mk name kind className savedAt records).toJson = some field
        ∧ field "name" = some (.string name)
        ∧ field "kind" = some (.string kind.name)
        ∧ field "class_name" = some (.string className)
        ∧ field "saved_at" = some (.string savedAt)
        ∧ field "records" = some (.array (records.map Record.toJson)) :=
    ⟨_, rfl, rfl, rfl, rfl, rfl, rfl⟩
  rcases known with ⟨field, known, nameField, kindField, classField, timeField, recordsField⟩
  have readKind : AssetKind.ofJson? (.string kind.name) = some kind := by
    cases kind <;> rfl
  simp only [toJson, Json.depth, Json.depthOfEntries, Nat.max_zero] at shallow
  have readRecords : (records.map Record.toJson).mapM Record.ofJson? = some records :=
    mapM_records finite words (by omega)
  simp [ofJson?, known, nameField, kindField, classField, timeField, recordsField, readKind,
    readRecords, Json.required?, Json.asString?, Json.asList?]

end Asset

/-! ## Both texts -/

theorem Value.parse?_texts {value : Value}
    (storable : Storable value.floats value.rows value.toJson) :
    Value.parse? value.toJson.compact = some value
      ∧ Value.parse? value.toJson.pretty = some value := by
  have faithful := value.readsBack_toJson storable.readsBack storable.words
  have denotes : Value.ofJson? value.toJson = some value :=
    value.ofJsonWithin?_toJson storable.finite storable.words (Nat.le_succ_of_le storable.shallow)
  simp [Value.parse?, Json.parse?_compact faithful storable.shallow,
    Json.parse?_pretty faithful storable.shallow, denotes]

theorem Record.ofJson?_texts {record : Record}
    (storable : Storable record.floats record.rows record.toJson) :
    (Json.parse? record.toJson.compact).bind Record.ofJson? = some record
      ∧ (Json.parse? record.toJson.pretty).bind Record.ofJson? = some record := by
  have faithful := record.readsBack_toJson storable.readsBack storable.words
  have denotes := record.ofJson?_toJson storable.finite storable.words storable.shallow
  simp [Json.parse?_compact faithful storable.shallow,
    Json.parse?_pretty faithful storable.shallow, denotes]

theorem Asset.read?_texts {asset : Asset}
    (storable : Storable asset.floats asset.rows asset.toJson) :
    Asset.read? asset.toJson.compact = some asset ∧ Asset.read? asset.write = some asset := by
  have faithful := asset.readsBack_toJson storable.readsBack storable.words
  have denotes := asset.ofJson?_toJson storable.finite storable.words storable.shallow
  simp [Asset.read?, Asset.write, Json.parse?_compact faithful storable.shallow,
    Json.parse?_pretty faithful storable.shallow, denotes]

/-- Values, records and assets are what their texts are read as, whether these are written
without space or indented: with every tag, string and integer, the order and the repetitions
of fields, and the absence of a name or a row. -/
theorem stored_data_reads_back :
    (∀ value : Value, Storable value.floats value.rows value.toJson →
      Value.parse? value.toJson.compact = some value
        ∧ Value.parse? value.toJson.pretty = some value)
    ∧ (∀ record : Record, Storable record.floats record.rows record.toJson →
      (Json.parse? record.toJson.compact).bind Record.ofJson? = some record
        ∧ (Json.parse? record.toJson.pretty).bind Record.ofJson? = some record)
    ∧ (∀ asset : Asset, Storable asset.floats asset.rows asset.toJson →
      Asset.read? asset.toJson.compact = some asset ∧ Asset.read? asset.write = some asset) :=
  ⟨fun _ => Value.parse?_texts, fun _ => Record.ofJson?_texts, fun _ => Asset.read?_texts⟩

/-- A table of two records, one of which lies in the other as well, without its name. -/
def sampleTable : Asset where
  name := "Swords"
  kind := .table
  className := "Sword"
  savedAt := "2024-01-01T00:00:00+00:00"
  records := [
    ⟨"Sword", some "Sword_\"é\"", some 3, [
      ("note", .text "\x01\n\\"),
      ("note", .null),
      ("power", .int (-9223372036854775808)),
      ("weight", .float ⟨0x8000000000000000⟩),
      ("reach", .vector [⟨0x3FE0000000000000⟩, ⟨0x3FB999999999999A⟩]),
      ("marks", .array [.array [.bool true], .enum "Mark" 2, .reference "Item" "1"])]⟩,
    ⟨"Sword", none, none, [("base", .record ⟨"Sword", none, some 3, [("note", .null)]⟩)]⟩]

theorem sampleTable_reads_back :
    Storable sampleTable.floats sampleTable.rows sampleTable.toJson
      ∧ Asset.read? sampleTable.write = some sampleTable := by
  have storable : Storable sampleTable.floats sampleTable.rows sampleTable.toJson :=
    { finite := by decide
      inverse := by decide +kernel
      words := by decide
      shallow := by decide }
  exact ⟨storable, (stored_data_reads_back.2.2 sampleTable storable).2⟩

end TypedSheets
