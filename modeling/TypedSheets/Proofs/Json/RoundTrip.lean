import Mathlib
import TypedSheets.Json.Reader
import TypedSheets.Proofs.Json.Layout

/-!
# JSON text is read back

Whatever the space between the parts of a value is, the text is read as the value, provided
that every number in the value comes back from its numeral and that containers do not lie
too deep.
-/

namespace TypedSheets

namespace Json

mutual

/-- Whether all parts of a value denote something and every number is what its numeral is
read as. -/
def ReadsBack : Json → Prop
  | .array items => ItemsReadBack items
  | .object entries => EntriesReadBack entries
  | .number value => value.ReadsBack
  | .unreadable => False
  | _ => True

/-- Whether this holds of a list of values. -/
def ItemsReadBack : List Json → Prop
  | [] => True
  | item :: items => item.ReadsBack ∧ ItemsReadBack items

/-- Whether this holds of the values of an object. -/
def EntriesReadBack : List (String × Json) → Prop
  | [] => True
  | (_, value) :: entries => value.ReadsBack ∧ EntriesReadBack entries

end

/-! ## Parts of a text -/

/-- Whether a text begins with a character that is not passed over and ends no
container. -/
def Begins (text : List Char) : Prop :=
  ∃ first others, text = first :: others
    ∧ (first ≠ ' ' ∧ first ≠ '\t' ∧ first ≠ '\n' ∧ first ≠ '\r') ∧ first ≠ ']' ∧ first ≠ '\x7d'

theorem Begins.skipSpace {text : List Char} (begins : Begins text) : skipSpace text = text := by
  rcases begins with ⟨first, others, rfl, visible, -⟩
  exact skipSpace_cons visible others

theorem Begins.append {text : List Char} (begins : Begins text) (rest : List Char) :
    Begins (text ++ rest) := by
  rcases begins with ⟨first, others, rfl, opens⟩
  exact ⟨first, others ++ rest, rfl, opens⟩

theorem Begins.intercalate {text : List Char} (begins : Begins text) (separator : List Char)
    (texts : List (List Char)) : Begins (separator.intercalate (text :: texts)) := by
  cases texts with
  | nil => rwa [List.intercalate_singleton]
  | cons next texts =>
      rw [List.intercalate_cons_cons, List.append_assoc]
      exact begins.append _

theorem begins_writeString (text : String) : Begins (writeString text) :=
  ⟨'"', _, rfl, by decide⟩

theorem begins_numeral {number : JsonNumber} (faithful : number.ReadsBack) :
    Begins number.write := by
  rcases JsonNumber.exists_cons_of_read? faithful with ⟨first, others, numeral, begins⟩
  refine ⟨first, others, numeral, ⟨?_, ?_, ?_, ?_⟩, ?_, ?_⟩ <;> (rintro rfl; simp at begins)

theorem begins_writeWith (layout : Layout) (level : Nat) {json : Json}
    (faithful : json.ReadsBack) : Begins (json.writeWith layout level) := by
  cases json with
  | null => exact ⟨'n', _, rfl, by decide⟩
  | bool value =>
      cases value with
      | true => exact ⟨'t', _, rfl, by decide⟩
      | false => exact ⟨'f', _, rfl, by decide⟩
  | number value => exact begins_numeral faithful
  | string text => exact begins_writeString text
  | array items => cases items <;> exact ⟨'[', _, rfl, by decide⟩
  | object entries => cases entries <;> exact ⟨'\x7b', _, rfl, by decide⟩
  | unreadable => exact False.elim faithful

theorem begins_entriesWith (layout : Layout) (level : Nat) (entry : String × Json)
    (entries : List (String × Json)) :
    Begins ((',' :: layout.apart level).intercalate
      (entriesWith layout level (entry :: entries))) := by
  rw [entriesWith, List.append_assoc]
  exact ((begins_writeString entry.1).append _).intercalate _ _

/-- Neither space nor the end of a container goes on with a numeral. -/
theorem stops_append_closing {space : List Char} (blank : Blank space) {closing : Char}
    (closes : closing = ']' ∨ closing = '\x7d') (rest : List Char) :
    JsonNumber.Stops (space ++ closing :: rest) := by
  cases space with
  | nil =>
      apply JsonNumber.stops_cons
      rcases closes with rfl | rfl <;> decide
  | cons first space =>
      apply JsonNumber.stops_cons
      rcases blank first List.mem_cons_self with rfl | rfl | rfl | rfl <;> decide

section Within

variable {size levels fuel : Nat} {space text : List Char}

theorem readWithin?_skip (blank : Blank space) (rest : List Char) :
    readWithin? size levels (space ++ rest) = readWithin? size levels rest := by
  unfold readWithin?
  rw [skipSpace_append blank]

/-- What begins with none of the opening brackets is read as a scalar. -/
theorem readWithin?_scalar {first : Char} {others : List Char} (begins : Begins (first :: others))
    (noBracket : first ≠ '[' ∧ first ≠ '\x7b') :
    readWithin? size levels (first :: others) = readScalar? (first :: others) := by
  unfold readWithin?
  rw [begins.skipSpace]
  simp [noBracket]

theorem readWithin?_emptyArray (rest : List Char) :
    readWithin? size (levels + 1) ('[' :: ']' :: rest) = some (.array [], rest) := by
  rfl

theorem readWithin?_emptyObject (rest : List Char) :
    readWithin? size (levels + 1) ('\x7b' :: '\x7d' :: rest) = some (.object [], rest) := by
  rfl

variable (size levels) in
theorem readWithin?_array (blank : Blank space) (begins : Begins text) :
    readWithin? size (levels + 1) ('[' :: (space ++ text))
      = (readItems? (readWithin? size levels) size text).map fun (items, rest) =>
          (.array items, rest) := by
  have skipped : skipSpace (space ++ text) = text := by
    rw [skipSpace_append blank, begins.skipSpace]
  rcases begins with ⟨first, others, rfl, opens⟩
  conv => lhs; unfold readWithin?
  rw [skipSpace_cons (by decide)]
  simp only [skipped]
  split
  · next same => exact absurd (List.cons.inj same).1 opens.2.1
  · rfl

variable (size levels) in
theorem readWithin?_object (blank : Blank space) (begins : Begins text) :
    readWithin? size (levels + 1) ('\x7b' :: (space ++ text))
      = (readEntries? (readWithin? size levels) size text).map fun (entries, rest) =>
          (ofEntries entries, rest) := by
  have skipped : skipSpace (space ++ text) = text := by
    rw [skipSpace_append blank, begins.skipSpace]
  rcases begins with ⟨first, others, rfl, opens⟩
  conv => lhs; unfold readWithin?
  rw [skipSpace_cons (by decide)]
  simp only [skipped]
  split
  · next same => exact absurd (List.cons.inj same).1 opens.2.2
  · rfl

theorem readItems?_skip (blank : Blank space) (rest : List Char) :
    readItems? (readWithin? size levels) fuel (space ++ rest)
      = readItems? (readWithin? size levels) fuel rest := by
  cases fuel with
  | zero => rfl
  | succ fuel => simp only [readItems?, readWithin?_skip blank]

theorem readEntries?_skip (blank : Blank space) (rest : List Char) :
    readEntries? (readWithin? size levels) fuel (space ++ rest)
      = readEntries? (readWithin? size levels) fuel rest := by
  cases fuel with
  | zero => rfl
  | succ fuel => simp only [readEntries?, skipSpace_append blank]

end Within

section Parts

variable {read : List Char → Option (Json × List Char)} {fuel : Nat} {value : Json} {key : String}
  {text more rest closing : List Char}

theorem readItems?_last (first : read text = some (value, closing ++ ']' :: rest))
    (blank : Blank closing) : readItems? read (fuel + 1) text = some ([value], rest) := by
  have ends : skipSpace (closing ++ ']' :: rest) = ']' :: rest := by
    rw [skipSpace_append blank, skipSpace_cons (by decide)]
  simp [readItems?, first, ends]

theorem readItems?_more {values : List Json} (first : read text = some (value, ',' :: more))
    (others : readItems? read fuel more = some (values, rest)) :
    readItems? read (fuel + 1) text = some (value :: values, rest) := by
  have goesOn : skipSpace (',' :: more) = ',' :: more := skipSpace_cons (by decide) _
  simp [readItems?, first, goesOn, others]

/-- The entries of an object from the one whose value was just read. -/
def entriesFrom (read : List Char → Option (Json × List Char)) (fuel : Nat) (key : String) :
    Json × List Char → Option (List (Option String × Json) × List Char)
  | (value, rest) =>
      match skipSpace rest with
      | '\x7d' :: rest => some ([(some key, value)], rest)
      | ',' :: rest =>
          (readEntries? read fuel rest).bind fun (entries, rest) =>
            some ((some key, value) :: entries, rest)
      | _ => none

/-- A key and its colon are read before the value of an entry. -/
theorem readEntries?_writeString :
    readEntries? read (fuel + 1) (writeString key ++ ':' :: text)
      = (read text).bind (entriesFrom read fuel key) := by
  have quote : ∀ others, skipSpace ('"' :: others) = '"' :: others := skipSpace_cons (by decide)
  have colon : skipSpace (':' :: text) = ':' :: text := skipSpace_cons (by decide) _
  simp only [readEntries?, writeString, List.cons_append, List.append_assoc, List.nil_append, quote,
    readText?_escaped, Option.bind_eq_bind, Option.bind_some, colon]
  rfl

theorem readEntries?_last (first : read text = some (value, closing ++ '\x7d' :: rest))
    (blank : Blank closing) :
    readEntries? read (fuel + 1) (writeString key ++ ':' :: text)
      = some ([(some key, value)], rest) := by
  have ends : skipSpace (closing ++ '\x7d' :: rest) = '\x7d' :: rest := by
    rw [skipSpace_append blank, skipSpace_cons (by decide)]
  simp [readEntries?_writeString, entriesFrom, first, ends]

theorem readEntries?_more {entries : List (Option String × Json)}
    (first : read text = some (value, ',' :: more))
    (others : readEntries? read fuel more = some (entries, rest)) :
    readEntries? read (fuel + 1) (writeString key ++ ':' :: text)
      = some ((some key, value) :: entries, rest) := by
  have goesOn : skipSpace (',' :: more) = ',' :: more := skipSpace_cons (by decide) _
  simp [readEntries?_writeString, entriesFrom, first, goesOn, others]

end Parts

/-! ## Whole texts -/

theorem length_le_intercalate {separator : List Char} (some : separator ≠ [])
    (texts : List (List Char)) : texts.length ≤ (separator.intercalate texts).length + 1 := by
  have positive := List.length_pos_iff.mpr some
  induction texts with
  | nil => simp
  | cons text texts ih =>
      cases texts with
      | nil => simp
      | cons next texts =>
          rw [List.intercalate_cons_cons]
          simp only [List.length_append, List.length_cons] at ih ⊢
          omega

theorem length_itemsWith (layout : Layout) (level : Nat) (items : List Json) :
    (itemsWith layout level items).length = items.length := by
  induction items with
  | nil => rfl
  | cons item items ih => rw [itemsWith, List.length_cons, List.length_cons, ih]

theorem length_entriesWith (layout : Layout) (level : Nat) (entries : List (String × Json)) :
    (entriesWith layout level entries).length = entries.length := by
  induction entries with
  | nil => rfl
  | cons entry entries ih => rw [entriesWith, List.length_cons, List.length_cons, ih]

theorem intercalate_itemsWith_cons (layout : Layout) (level : Nat) (item next : Json)
    (items : List Json) (separator : List Char) :
    separator.intercalate (itemsWith layout level (item :: next :: items))
      = item.writeWith layout level ++ separator
          ++ separator.intercalate (itemsWith layout level (next :: items)) := by
  rw [itemsWith, itemsWith, List.intercalate_cons_cons]

theorem intercalate_entriesWith_cons (layout : Layout) (level : Nat) (key : String) (value : Json)
    (next : String × Json) (entries : List (String × Json)) (separator : List Char) :
    separator.intercalate (entriesWith layout level ((key, value) :: next :: entries))
      = writeString key ++ ':' :: layout.afterColon ++ value.writeWith layout level ++ separator
          ++ separator.intercalate (entriesWith layout level (next :: entries)) := by
  rw [entriesWith, entriesWith, List.intercalate_cons_cons]

/-- Entries as they are read, all keys being texts. -/
def keyed (entries : List (String × Json)) : List (Option String × Json) :=
  entries.map fun (key, value) => (some key, value)

theorem mapM_keyed (entries : List (String × Json)) :
    (keyed entries).mapM (fun (key, value) => key.map fun key => (key, value)) = some entries := by
  induction entries with
  | nil => rfl
  | cons entry entries ih =>
      rw [keyed] at ih
      simp [keyed, ih]

theorem ofEntries_keyed (entries : List (String × Json)) :
    ofEntries (keyed entries) = .object entries := by
  simp only [ofEntries, mapM_keyed]

theorem exists_succ_eq {count levels : Nat} (below : count + 1 ≤ levels) :
    ∃ left, levels = left + 1 ∧ count ≤ left :=
  ⟨levels - 1, by omega, by omega⟩

variable {size : Nat} {layout : Layout}

mutual

/-- The text of a value is read up to its end. -/
theorem readWithin?_writeWith (json : Json) {levels level : Nat} {rest : List Char}
    (faithful : json.ReadsBack) (shallow : json.depth ≤ levels)
    (sized : (json.writeWith layout level).length ≤ size) (stops : JsonNumber.Stops rest) :
    readWithin? size levels (json.writeWith layout level ++ rest) = some (json, rest) := by
  cases json with
  | null =>
      rw [← readScalar?_null rest]
      exact readWithin?_scalar ⟨_, _, rfl, by decide⟩ (by decide)
  | bool value =>
      rw [← readScalar?_bool value rest]
      cases value <;> exact readWithin?_scalar ⟨_, _, rfl, by decide⟩ (by decide)
  | number value =>
      rw [← readScalar?_number faithful stops]
      have begins := begins_numeral faithful
      rcases JsonNumber.exists_cons_of_read? faithful with ⟨first, others, numeral, digit⟩
      have noBracket : first ≠ '[' ∧ first ≠ '\x7b' := by
        constructor <;> (rintro rfl; simp at digit)
      rw [numeral] at begins
      rw [writeWith, numeral]
      exact readWithin?_scalar (begins.append rest) noBracket
  | string text =>
      rw [← readScalar?_string text rest]
      exact readWithin?_scalar ⟨_, _, rfl, by decide⟩ (by decide)
  | unreadable => exact False.elim faithful
  | array items =>
      rcases exists_succ_eq shallow with ⟨levels, rfl, shallowItems⟩
      cases items with
      | nil => exact readWithin?_emptyArray rest
      | cons item items =>
          have several := length_le_intercalate (List.cons_ne_nil ',' (layout.apart (level + 1)))
            (itemsWith layout (level + 1) (item :: items))
          rw [writeWith_array_cons] at sized ⊢
          simp only [List.length_append, List.length_cons] at sized
          -- There are no more items than characters, so the fuel lasts for all of them.
          replace several : (item :: items).length ≤ size := by
            rw [length_itemsWith] at several
            omega
          have parts := readItems?_itemsWith (item :: items) (List.cons_ne_nil _ _) (level + 1) rest
            faithful shallowItems several (by omega) (layout.blank_apart level)
          have begins := (begins_writeWith layout (level + 1) faithful.1).intercalate
            (',' :: layout.apart (level + 1)) (itemsWith layout (level + 1) items)
          rw [← itemsWith] at begins
          have container := readWithin?_array size levels
            (layout.blank_apart (level + 1)) (begins.append (layout.apart level ++ ']' :: rest))
          rw [parts] at container
          simpa using container
  | object entries =>
      rcases exists_succ_eq shallow with ⟨levels, rfl, shallowEntries⟩
      cases entries with
      | nil => exact readWithin?_emptyObject rest
      | cons entry entries =>
          have several := length_le_intercalate (List.cons_ne_nil ',' (layout.apart (level + 1)))
            (entriesWith layout (level + 1) (entry :: entries))
          rw [writeWith_object_cons] at sized ⊢
          simp only [List.length_append, List.length_cons] at sized
          replace several : (entry :: entries).length ≤ size := by
            rw [length_entriesWith] at several
            omega
          have parts := readEntries?_entriesWith (entry :: entries) (List.cons_ne_nil _ _) (level + 1)
            rest faithful shallowEntries several (by omega) (layout.blank_apart level)
          have begins := begins_entriesWith layout (level + 1) entry entries
          have container := readWithin?_object size levels
            (layout.blank_apart (level + 1)) (begins.append (layout.apart level ++ '\x7d' :: rest))
          rw [parts] at container
          simpa [ofEntries_keyed] using container

/-- The texts of the items of an array are read up to its end. -/
theorem readItems?_itemsWith (items : List Json) (several : items ≠ []) {levels fuel : Nat}
    (level : Nat) {closing : List Char} (rest : List Char) (faithful : ItemsReadBack items)
    (shallow : depthOfItems items ≤ levels) (fueled : items.length ≤ fuel)
    (sized : ((',' :: layout.apart level).intercalate (itemsWith layout level items)).length ≤ size)
    (blank : Blank closing) :
    readItems? (readWithin? size levels) fuel
        ((',' :: layout.apart level).intercalate (itemsWith layout level items)
          ++ (closing ++ ']' :: rest))
      = some (items, rest) := by
  cases items with
  | nil => exact absurd rfl several
  | cons item items =>
      rcases exists_succ_eq fueled with ⟨fuel, rfl, fueledItems⟩
      have shallowItem : item.depth ≤ levels := Nat.le_trans (Nat.le_max_left ..) shallow
      have shallowItems : depthOfItems items ≤ levels := Nat.le_trans (Nat.le_max_right ..) shallow
      cases items with
      | nil =>
          simp only [itemsWith, List.intercalate_singleton] at sized ⊢
          exact readItems?_last (readWithin?_writeWith item faithful.1 shallowItem sized
            (stops_append_closing blank (.inl rfl) rest)) blank
      | cons next items =>
          rw [intercalate_itemsWith_cons] at sized ⊢
          simp only [List.length_append, List.length_cons] at sized
          simp only [List.append_assoc, List.cons_append]
          apply readItems?_more
          · exact readWithin?_writeWith item faithful.1 shallowItem (by omega)
              (JsonNumber.stops_cons (by decide))
          · rw [readItems?_skip (layout.blank_apart level)]
            exact readItems?_itemsWith (next :: items) (List.cons_ne_nil _ _) level rest faithful.2
              shallowItems fueledItems (by omega) blank

/-- The texts of the entries of an object are read up to its end. -/
theorem readEntries?_entriesWith (entries : List (String × Json)) (several : entries ≠ [])
    {levels fuel : Nat} (level : Nat) {closing : List Char} (rest : List Char)
    (faithful : EntriesReadBack entries) (shallow : depthOfEntries entries ≤ levels)
    (fueled : entries.length ≤ fuel)
    (sized : ((',' :: layout.apart level).intercalate
      (entriesWith layout level entries)).length ≤ size)
    (blank : Blank closing) :
    readEntries? (readWithin? size levels) fuel
        ((',' :: layout.apart level).intercalate (entriesWith layout level entries)
          ++ (closing ++ '\x7d' :: rest))
      = some (keyed entries, rest) := by
  cases entries with
  | nil => exact absurd rfl several
  | cons entry entries =>
      rcases exists_succ_eq fueled with ⟨fuel, rfl, fueledEntries⟩
      rcases entry with ⟨key, value⟩
      have shallowValue : value.depth ≤ levels := Nat.le_trans (Nat.le_max_left ..) shallow
      have shallowEntries : depthOfEntries entries ≤ levels :=
        Nat.le_trans (Nat.le_max_right ..) shallow
      cases entries with
      | nil =>
          simp only [entriesWith, List.intercalate_singleton] at sized ⊢
          simp only [List.length_append, List.length_cons] at sized
          simp only [List.append_assoc, List.cons_append]
          apply readEntries?_last _ blank
          rw [readWithin?_skip layout.blank_afterColon]
          exact readWithin?_writeWith value faithful.1 shallowValue (by omega)
            (stops_append_closing blank (.inr rfl) rest)
      | cons next entries =>
          rw [intercalate_entriesWith_cons] at sized ⊢
          simp only [List.length_append, List.length_cons] at sized
          simp only [List.append_assoc, List.cons_append]
          apply readEntries?_more
          · rw [readWithin?_skip layout.blank_afterColon]
            exact readWithin?_writeWith value faithful.1 shallowValue (by omega)
              (JsonNumber.stops_cons (by decide))
          · rw [readEntries?_skip (layout.blank_apart level)]
            exact readEntries?_entriesWith (next :: entries) (List.cons_ne_nil _ _) level rest
              faithful.2 shallowEntries fueledEntries (by omega) blank

end

/-- A text of a value with space between its parts is the text of this value. -/
theorem parse?_writeWith (layout : Layout) {json : Json} (faithful : json.ReadsBack)
    (shallow : json.depth ≤ depthLimit) :
    parse? (String.ofList (json.writeWith layout 0)) = some json := by
  have read : readWithin? (json.writeWith layout 0).length depthLimit
      (json.writeWith layout 0 ++ []) = some (json, []) :=
    readWithin?_writeWith json faithful shallow (Nat.le_refl _) JsonNumber.stops_nil
  rw [List.append_nil] at read
  simp [parse?, readValue?, read, skipSpace]

theorem parse?_compact {json : Json} (faithful : json.ReadsBack)
    (shallow : json.depth ≤ depthLimit) : parse? json.compact = some json := by
  rw [compact, ← writeWith_compact 0]
  exact parse?_writeWith .compact faithful shallow

theorem parse?_pretty {json : Json} (faithful : json.ReadsBack)
    (shallow : json.depth ≤ depthLimit) : parse? json.pretty = some json := by
  rw [pretty, ← writeWith_indented 0]
  exact parse?_writeWith .indented faithful shallow

end Json

end TypedSheets
