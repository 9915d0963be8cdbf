import TypedSheets.Proofs.Materialization.Naming
import TypedSheets.Proofs.Materialization.Numbers
import TypedSheets.Proofs.Materialization.Rows
import TypedSheets.Proofs.Materialization.Slugs
import TypedSheets.Proofs.Store.Reopening

/-!
# Records that are told apart by numbers

Where the keys of a record are integers or values of enumerations, the name of the record ends
with their numerals, and where there are no keys it ends with the number of the row. So two
records of a sheet have the same name only where their keys are the same, and without keys never.
-/

namespace TypedSheets

open Numeral

theorem Record.assetName_of_isSome {record : Record} (named : record.assetName.isSome = true) :
    record.assetName = some record.storedName := by
  rcases Option.isSome_iff_exists.mp named with ⟨name, given⟩
  rw [storedName, given, Option.getD_some]

namespace Materialization

variable {keys : List String} {record left right : Record}

/-! ## Names of numbered records -/

/-- The numbers in the name of a record: those of its keys, or that of its row where there are
no keys. -/
def nameWords (record : Record) (keys : List String) (row : Nat) : List Int :=
  if keys = [] then [(row : Int)]
  else keys.map fun key => ((record.word? key).map Int64.toInt).getD 0

theorem nameWords_ne_nil (record : Record) (keys : List String) (row : Nat) :
    nameWords record keys row ≠ [] := by
  rw [nameWords]
  split
  · exact List.cons_ne_nil _ _
  · next some => simpa using some

/-- Texts are joined by a character before each but the first one. -/
theorem intercalate_eq_append_flatMap (separator : Char) (first : List Char)
    (texts : List (List Char)) :
    [separator].intercalate (first :: texts) = first ++ texts.flatMap (separator :: ·) := by
  induction texts generalizing first with
  | nil => simp
  | cons text texts ih => simp [List.intercalate_cons_cons, ih]

/-- The name of a numbered record is its class with the numerals of its numbers. -/
theorem assetName_of_numberedBy (className : String) (numbered : record.NumberedBy keys)
    (row : Nat) :
    assetName className record keys row
      = slug (className ++ String.ofList (numerals (nameWords record keys row))) := by
  have parts : (if keys = [] then [Nat.repr row]
      else keys.map fun key => ((record.get? key).map Value.keyText).getD "")
        = (nameWords record keys row).map fun word => String.ofList (writeInt word) := by
    rw [nameWords]
    split
    · rfl
    · rw [List.map_map]
      apply List.map_congr_left
      intro key member
      rcases Option.isSome_iff_exists.mp (numbered key member) with ⟨word, number⟩
      rw [Record.keyText_of_word? number, Function.comp_apply, number]
      rfl
  have joined : "_".intercalate (className :: (nameWords record keys row).map fun word =>
      String.ofList (writeInt word))
        = className ++ String.ofList (numerals (nameWords record keys row)) := by
    rw [← String.toList_inj, String.toList_intercalate, List.map_cons, List.map_map]
    simp [intercalate_eq_append_flatMap, numerals, List.flatMap_map]
  rw [assetName, parts, joined]

example : assetName "Fire & Ice" ⟨"Item", none, none, [("id", .int (-12)), ("kind", .enum "Kind" 3)]⟩
    ["kind", "id"] 7 = "Fire-Ice_3_-12" := by decide +kernel

/-- Names of numbered records are the same for the same numbers only. -/
theorem assetName_eq_iff (className : String) (numberedLeft : left.NumberedBy keys)
    (numberedRight : right.NumberedBy keys) (rowLeft rowRight : Nat) :
    assetName className left keys rowLeft = assetName className right keys rowRight
      ↔ nameWords left keys rowLeft = nameWords right keys rowRight := by
  rw [assetName_of_numberedBy className numberedLeft, assetName_of_numberedBy className numberedRight]
  exact slug_numerals_inj className (nameWords_ne_nil left keys rowLeft)
    (nameWords_ne_nil right keys rowRight)

/-- Numbered records of one class with the same name have the same keys, and are from the same row
where there are no keys. -/
theorem sameKeys_of_assetName_eq {type : RecordType} {className : String} {rowLeft rowRight : Nat}
    (typedLeft : left.WellTyped type) (typedRight : right.WellTyped type)
    (numberedLeft : left.NumberedBy keys) (numberedRight : right.NumberedBy keys)
    (same : assetName className left keys rowLeft = assetName className right keys rowRight) :
    (keys = [] → rowLeft = rowRight) ∧ Record.SameKeys keys left right := by
  have words := (assetName_eq_iff className numberedLeft numberedRight rowLeft rowRight).mp same
  rw [nameWords, nameWords] at words
  constructor
  · intro none
    rw [if_pos none, if_pos none] at words
    exact Int.ofNat.inj (List.singleton_inj.mp words)
  · intro key member
    rw [if_neg (List.ne_nil_of_mem member), if_neg (List.ne_nil_of_mem member)] at words
    have number := List.map_inj_left.mp words key member
    rcases Option.isSome_iff_exists.mp (numberedLeft key member) with ⟨wordLeft, holdsLeft⟩
    rcases Option.isSome_iff_exists.mp (numberedRight key member) with ⟨wordRight, holdsRight⟩
    rw [holdsLeft, holdsRight] at number
    obtain rfl : wordLeft = wordRight := Int64.toInt_inj.mp number
    exact typedLeft.get?_eq_of_word? typedRight holdsLeft holdsRight

/-! ## Names of the records of a sheet -/

section Sheet

variable {registry : Registry} {view : View} {schema : Schema} {recordType : RecordType}
  {setting : Setting} {name : String}

theorem assetName_record {plan : Plan} {index : Nat}
    (named : (plan.record index).assetName = some name) :
    assetName plan.className (plan.record index) plan.keys (Schema.firstDataRow + index) = name := by
  rcases exists_fields_fill plan index with ⟨fields, filled⟩
  rw [Plan.record] at named ⊢
  split at named
  · rw [filled] at named
    cases named
  · next stored =>
      rw [if_neg stored]
      exact Option.some.inj named

/-- The records of two rows of a sheet. -/
theorem sameKeys_of_record {plan : Plan}
    (fits : ∀ binding ∈ plan.bindings, binding.Fits plan.recordType) {first second : Nat}
    (namedFirst : (plan.record first).assetName = some name)
    (namedSecond : (plan.record second).assetName = some name)
    (numberedFirst : (plan.record first).NumberedBy plan.keys)
    (numberedSecond : (plan.record second).NumberedBy plan.keys) :
    (plan.keys = [] → first = second)
      ∧ Record.SameKeys plan.keys (plan.record first) (plan.record second) := by
  have same := (assetName_record namedFirst).trans (assetName_record namedSecond).symm
  rcases sameKeys_of_assetName_eq (wellTyped_record fits first) (wellTyped_record fits second)
    numberedFirst numberedSecond same with ⟨rows, keys⟩
  exact ⟨fun none => Nat.add_left_cancel (rows none), keys⟩

/-- Two records of a sheet are from different rows. -/
theorem exists_rows_of_sublist
    (listed : [left, right].Sublist (run registry view schema recordType setting).records) :
    ∃ first second, first ≠ second
      ∧ left = (plan registry view schema recordType setting).record first
      ∧ right = (plan registry view schema recordType setting).record second := by
  rw [records_run, List.sublist_map_iff] at listed
  rcases listed with ⟨rows, within, records⟩
  have distinct : rows.Nodup :=
    (within.trans List.filter_sublist).nodup List.nodup_range
  match rows, records, distinct with
  | [first, second], records, distinct =>
      simp only [List.map_cons, List.map_nil, List.cons.injEq, and_true] at records
      refine ⟨first, second, ?_, records.1, records.2⟩
      simpa using distinct

theorem numberedBy_of_sublist
    (listed : [left, right].Sublist (run registry view schema recordType setting).records)
    (numbered : right.NumberedBy keys) : left.NumberedBy keys := by
  rcases exists_rows_of_sublist listed with ⟨first, second, _, rfl, rfl⟩
  exact numberedBy_of_numberedBy (fun _ bound => fits_of_mem_plan bound) numbered

/-- Numbered records of a sheet have a name in common only where they have keys, and the same. -/
theorem sameKeys_of_sublist
    (listed : [left, right].Sublist (run registry view schema recordType setting).records)
    (numberedLeft : left.NumberedBy setting.keys) (numberedRight : right.NumberedBy setting.keys)
    (namedLeft : left.assetName = some name) (namedRight : right.assetName = some name) :
    setting.keys ≠ [] ∧ Record.SameKeys setting.keys left right := by
  rcases exists_rows_of_sublist listed with ⟨first, second, different, rfl, rfl⟩
  rcases sameKeys_of_record (fun _ bound => fits_of_mem_plan bound) namedLeft namedRight numberedLeft
    numberedRight with ⟨rows, keys⟩
  exact ⟨fun none => different (rows none), keys⟩

end Sheet

/-! ## Warnings -/

/-- The message of a warning tells the name and the row. -/
theorem duplicateWarning_inj {name other : String} {row otherRow : Nat} :
    duplicateWarning name row = duplicateWarning other otherRow ↔ name = other ∧ row = otherRow := by
  constructor
  · intro same
    have messages := congrArg (fun entry : LogEntry => Text.splitLast? ' ' entry.message.toList) same
    have cut : ∀ (name : String) (row : Nat),
        Text.splitLast? ' ' (duplicateWarning name row).message.toList
          = some ("Duplicate asset name '".toList ++ (name.toList ++ "' at row".toList),
              Nat.toDigits 10 row) := by
      intro name row
      have spelled : (duplicateWarning name row).message.toList
          = ("Duplicate asset name '".toList ++ (name.toList ++ "' at row".toList))
            ++ ' ' :: Nat.toDigits 10 row := by
        simp [duplicateWarning, LogEntry.warning, Nat.toList_repr]
      rw [spelled]
      exact Text.splitLast?_append_cons _ (notMem_toDigits (by decide))
    simp only [cut, Option.some.injEq, Prod.mk.injEq, List.append_cancel_left_eq,
      List.append_cancel_right_eq, String.toList_inj] at messages
    refine ⟨messages.1, Nat.repr_inj.mp ?_⟩
    rw [Nat.repr_eq_ofList_toDigits, Nat.repr_eq_ofList_toDigits, messages.2]
  · rintro ⟨rfl, rfl⟩
    rfl

/-- A warning is about a record whose name was there before. -/
theorem exists_earlier_of_mem_duplicateWarnings {seen : List String} {records : List Record}
    {name : String} {row : Nat} (warned : duplicateWarning name row ∈ duplicateWarnings seen records) :
    ∃ record ∈ records, record.assetName = some name ∧ record.row.getD 0 = row
      ∧ (name ∈ seen
        ∨ ∃ earlier, [earlier, record].Sublist records ∧ earlier.assetName = some name) := by
  induction records generalizing seen with
  | nil => cases warned
  | cons first records ih =>
      have later : duplicateWarning name row ∈ duplicateWarnings seen records →
          ∃ record ∈ first :: records, record.assetName = some name ∧ record.row.getD 0 = row
            ∧ (name ∈ seen ∨ ∃ earlier, [earlier, record].Sublist (first :: records)
              ∧ earlier.assetName = some name) := by
        intro warned
        rcases ih warned with ⟨record, member, named, numbered, before⟩
        refine ⟨record, List.mem_cons_of_mem _ member, named, numbered, before.imp_right ?_⟩
        exact fun ⟨earlier, listed, same⟩ => ⟨earlier, listed.cons _, same⟩
      rw [duplicateWarnings] at warned
      cases named : first.assetName with
      | none =>
          rw [named] at warned
          exact later warned
      | some other =>
          rw [named] at warned
          simp only at warned
          split at warned
          · next held =>
              rcases List.mem_cons.mp warned with here | after
              · obtain ⟨rfl, rfl⟩ := duplicateWarning_inj.mp here
                exact ⟨first, List.mem_cons_self, named, rfl, .inl (List.contains_iff_mem.mp held)⟩
              · exact later after
          · rcases ih warned with ⟨record, member, same, numbered, before⟩
            refine ⟨record, List.mem_cons_of_mem _ member, same, numbered, ?_⟩
            rcases before with seenBefore | ⟨earlier, listed, sameEarlier⟩
            · rcases List.mem_cons.mp seenBefore with rfl | long
              · exact .inr ⟨first, (List.singleton_sublist.mpr member).cons_cons _, named⟩
              · exact .inl long
            · exact .inr ⟨earlier, listed.cons _, sameEarlier⟩

section Sheet

variable {registry : Registry} {view : View} {schema : Schema} {recordType : RecordType}
  {setting : Setting} {name : String} {row : Nat}

/-- The warnings of a sheet about a name are those about its records. -/
theorem mem_duplicateWarnings_of_mem_log
    (warned : duplicateWarning name row ∈ (run registry view schema recordType setting).log) :
    duplicateWarning name row
      ∈ duplicateWarnings [] (run registry view schema recordType setting).records := by
  rcases List.mem_append.mp warned with front | last
  · rcases List.mem_append.mp front with unknown | about
    · rcases List.mem_map.mp unknown with ⟨key, _, same⟩
      have begins := congrArg (fun entry : LogEntry => entry.message.toList.head?) same
      simp [duplicateWarning, LogEntry.warning] at begins
    · exact about
  · have same := congrArg LogEntry.level (List.mem_singleton.mp last)
    cases same

/-- A warning is about two records of the sheet. -/
theorem exists_sublist_of_mem_log
    (warned : duplicateWarning name row ∈ (run registry view schema recordType setting).log) :
    ∃ left right, [left, right].Sublist (run registry view schema recordType setting).records
      ∧ left.assetName = some name ∧ right.assetName = some name ∧ right.row = some row := by
  rcases exists_earlier_of_mem_duplicateWarnings (mem_duplicateWarnings_of_mem_log warned) with
    ⟨record, member, named, numbered, none | ⟨earlier, listed, same⟩⟩
  · cases none
  · rcases exists_row_of_mem_run member with ⟨index, rfl⟩
    rw [row_record, Option.getD_some] at numbered
    exact ⟨earlier, _, listed, same, named, by rw [row_record, numbered]⟩

end Sheet

end Materialization

/-! ## Saves -/

namespace Store

/-- After records are saved, what is stored under the name of one of them is the last of them with
this name. -/
theorem exists_lastSaved (now : String) {chosen : List Record} {record : Record}
    (member : record ∈ chosen) (before : Option Asset) :
    ∃ kept ∈ chosen, kept.storedName = record.storedName
      ∧ Call.lastSaved record.storedName before (chosen.map (Call.saveRecord now))
        = some ⟨kept.storedName, .record, kept.typeName, now, [kept]⟩ := by
  induction chosen using List.reverseRecOn with
  | nil => cases member
  | append_singleton chosen last ih =>
      rw [List.map_append, Call.lastSaved, List.foldl_append]
      by_cases here : record.storedName = last.storedName
      · exact ⟨last, List.mem_concat_self, here.symm, if_pos here⟩
      · have earlier : record ∈ chosen := by
          rcases List.mem_append.mp member with inside | same
          · exact inside
          · exact absurd (congrArg Record.storedName (List.mem_singleton.mp same)) here
        rcases ih earlier with ⟨kept, listed, named, stored⟩
        refine ⟨kept, List.mem_append_left _ listed, named, ?_⟩
        rw [← stored]
        exact if_neg here

/-- The file of an asset lies in the directory of the store. -/
theorem components_pathOf (directory : String) {name : String} (whole : '/' ∉ name.toList) :
    Path.components (pathOf directory name) = Path.components directory ++ [fileOf name] :=
  Path.components_join directory (isPart_fileOf whole)

end Store

namespace Materialization

/-- What the names of the records of a sheet tell about their keys. Plain data has no names, and is
not stored on its own. -/
structure NamesTellKeys (keys : List String) (result : Result) : Prop where
  /-- Two numbered records have a name in common only where their keys are the same. -/
  names : ∀ left right, [left, right].Sublist result.records → left.NumberedBy keys →
    right.NumberedBy keys → ∀ name, left.assetName = some name → right.assetName = some name →
      keys ≠ [] ∧ Record.SameKeys keys left right
  /-- The name of a numbered record is warned of only where an earlier record has its keys. -/
  warnings : ∀ name row, duplicateWarning name row ∈ result.log →
    ∃ left right, [left, right].Sublist result.records
      ∧ left.assetName = some name ∧ right.assetName = some name ∧ right.row = some row
      ∧ (right.NumberedBy keys → keys ≠ [] ∧ Record.SameKeys keys left right)
  /-- Numbered records are stored in different files unless their keys are the same. -/
  files : ∀ left right, [left, right].Sublist result.records → left.NumberedBy keys →
    right.NumberedBy keys → left.assetName.isSome = true → right.assetName.isSome = true →
      ∀ directory, Path.components (Store.pathOf directory left.storedName)
          = Path.components (Store.pathOf directory right.storedName) →
        keys ≠ [] ∧ Record.SameKeys keys left right
  /-- After numbered records were saved, each of them is stored, or the last one with its keys. -/
  saves : ∀ chosen : List Record, (∀ record ∈ chosen, record ∈ result.records
      ∧ record.NumberedBy keys ∧ record.assetName.isSome = true) →
    ∀ now files store after left,
      Store.Call.runAll? files store (chosen.map (Store.Call.saveRecord now)) = some (after, left) →
        ∀ record ∈ chosen, ∃ kept ∈ chosen,
          left.load record.storedName
            = .ok ⟨kept.storedName, .record, kept.typeName, now, [kept]⟩
          ∧ (keys = [] → kept = record) ∧ Record.SameKeys keys kept record

section Sheet

variable {registry : Registry} {view : View} {schema : Schema} {recordType : RecordType}
  {setting : Setting} {record : Record}

theorem slash_notMem_storedName
    (member : record ∈ (run registry view schema recordType setting).records)
    (named : record.assetName.isSome = true) : '/' ∉ record.storedName.toList := by
  rcases exists_row_of_mem_run member with ⟨index, rfl⟩
  rw [← assetName_record (Record.assetName_of_isSome named)]
  exact slash_notMem_slug _

end Sheet

/-- The names of numbered records tell their keys, and the names of records without keys tell the
records. -/
theorem namesTellKeys_run (registry : Registry) (view : View) (schema : Schema)
    (recordType : RecordType) (setting : Setting) :
    NamesTellKeys setting.keys (run registry view schema recordType setting) := by
  constructor
  case names =>
    intro left right listed numberedLeft numberedRight name namedLeft namedRight
    exact sameKeys_of_sublist listed numberedLeft numberedRight namedLeft namedRight
  case warnings =>
    intro name row warned
    rcases exists_sublist_of_mem_log warned with ⟨left, right, listed, namedLeft, namedRight, numbered⟩
    refine ⟨left, right, listed, namedLeft, namedRight, numbered, ?_⟩
    intro numberedRight
    have numberedLeft := numberedBy_of_sublist listed numberedRight
    exact sameKeys_of_sublist listed numberedLeft numberedRight namedLeft namedRight
  case files =>
    intro left right listed numberedLeft numberedRight namedLeft namedRight directory same
    have memberLeft := listed.subset List.mem_cons_self
    have memberRight := listed.subset (List.mem_cons_of_mem _ (List.mem_singleton_self right))
    have wholeLeft := slash_notMem_storedName memberLeft namedLeft
    have wholeRight := slash_notMem_storedName memberRight namedRight
    rw [Store.components_pathOf directory wholeLeft, Store.components_pathOf directory wholeRight,
      List.append_cancel_left_eq, List.singleton_inj, Store.fileOf_inj] at same
    have given := Record.assetName_of_isSome namedLeft
    rw [same] at given
    exact sameKeys_of_sublist listed numberedLeft numberedRight given
      (Record.assetName_of_isSome namedRight)
  case saves =>
    intro chosen suitable now files store after left ran record member
    rcases Store.exists_lastSaved now member (store.assets.get? record.storedName) with
      ⟨kept, listed, named, stored⟩
    rcases suitable record member with ⟨recordListed, recordNumbered, recordNamed⟩
    rcases suitable kept listed with ⟨keptListed, keptNumbered, keptNamed⟩
    rcases exists_row_of_mem_run recordListed with ⟨row, rfl⟩
    rcases exists_row_of_mem_run keptListed with ⟨keptRow, rfl⟩
    have given := Record.assetName_of_isSome keptNamed
    rw [named] at given
    rcases sameKeys_of_record (fun _ bound => fits_of_mem_plan bound) given
      (Record.assetName_of_isSome recordNamed) keptNumbered recordNumbered with ⟨rows, keys⟩
    refine ⟨_, listed, ?_, fun none => congrArg _ (rows none), keys⟩
    rw [Store.load, (Store.Call.get?_runAll ran).2, stored]

end Materialization

end TypedSheets
