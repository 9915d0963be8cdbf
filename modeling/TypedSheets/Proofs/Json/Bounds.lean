import Mathlib
import TypedSheets.Json.Reader
import TypedSheets.Proofs.Lists

/-!
# Numbers that are read from JSON

Every integer in the tree that a JSON text denotes has at most 64 bits: the digits of an
integer are taken as long as their value fits in a word, and a longer numeral denotes a
double.
-/

namespace TypedSheets

namespace JsonNumber

variable {number : JsonNumber} {characters rest : List Char} {negative : Bool}

/-- Whether a number is a 64-bit integer, with a sign or without one, or a double. -/
def IsBounded : JsonNumber → Prop
  | .integer value => value.natAbs ≤ wordLimit
  | .real _ => True

theorem absorb_le {significand : Nat} (word : significand ≤ wordLimit) (digits : List Char) :
    (absorb significand digits).1 ≤ wordLimit := by
  induction digits generalizing significand with
  | nil => exact word
  | cons digit digits ih =>
      simp only [absorb]
      split
      · next fits => exact ih fits
      · exact word

theorem isBounded_ofScientific? {significand : Nat} {exponent : Int}
    (denotes : ofScientific? negative significand exponent = some number) : number.IsBounded := by
  rcases Option.map_eq_some_iff.mp denotes with ⟨value, _, rfl⟩
  trivial

theorem isBounded_ofParts? {whole : List Char} {fraction : Option (List Char)}
    {exponent : Option Int} (denotes : ofParts? negative whole fraction exponent = some number) : number.IsBounded := by
  have word : (absorb 0 whole).1 ≤ wordLimit := absorb_le (Nat.zero_le _) whole
  simp only [ofParts?] at denotes
  split at denotes
  · split at denotes
    · exact isBounded_ofScientific? denotes
    · split at denotes
      · obtain rfl := Option.some.inj denotes
        exact word
      · split at denotes
        · exact isBounded_ofScientific? denotes
        · obtain rfl := Option.some.inj denotes
          simpa [IsBounded] using word
  · exact isBounded_ofScientific? denotes

theorem isBounded_readMagnitude?
    (read : readMagnitude? negative characters = some (some number, rest)) : number.IsBounded := by
  simp only [readMagnitude?] at read
  split at read
  · cases read
  · rcases Option.bind_eq_some_iff.mp read with ⟨_, _, read⟩
    rcases Option.bind_eq_some_iff.mp read with ⟨_, _, read⟩
    exact isBounded_ofParts? (Prod.mk.inj (Option.some.inj read)).1

theorem isBounded_read? (read : read? characters = some (some number, rest)) :
    number.IsBounded := by
  rw [read?.eq_def] at read
  split at read <;> exact isBounded_readMagnitude? read

end JsonNumber

namespace Json

variable {json : Json} {characters rest : List Char} {size fuel levels : Nat}
  {item : List Char → Option (Json × List Char)}

/-- Whether every number in a value is a 64-bit integer or a double. -/
inductive IsBounded : Json → Prop where
  | null : IsBounded .null
  | bool (value : Bool) : IsBounded (.bool value)
  | number {value : JsonNumber} : value.IsBounded → IsBounded (.number value)
  | string (text : String) : IsBounded (.string text)
  | array {items : List Json} : (∀ item ∈ items, IsBounded item) → IsBounded (.array items)
  | object {entries : List (String × Json)} :
      (∀ entry ∈ entries, IsBounded entry.2) → IsBounded (.object entries)
  | unreadable : IsBounded .unreadable

theorem isBounded_readScalar? (read : readScalar? characters = some (json, rest)) :
    json.IsBounded := by
  simp only [readScalar?] at read
  split at read
  · rcases Option.map_eq_some_iff.mp read with ⟨⟨text, _⟩, _, same⟩
    obtain ⟨rfl, rfl⟩ := Prod.mk.inj same
    cases text with
    | none => exact .unreadable
    | some text => exact .string text
  · split at read
    · cases read
      exact .null
    · split at read
      · cases read
        exact .bool true
      · split at read
        · cases read
          exact .bool false
        · rcases Option.map_eq_some_iff.mp read with ⟨⟨number, _⟩, numeral, same⟩
          obtain ⟨rfl, rfl⟩ := Prod.mk.inj same
          cases number with
          | none => exact .unreadable
          | some number => exact .number (JsonNumber.isBounded_read? numeral)

/-- Whether a way of reading values yields bounded ones only. -/
def ReadsBounded (item : List Char → Option (Json × List Char)) : Prop :=
  ∀ characters json rest, item characters = some (json, rest) → json.IsBounded

theorem ReadsBounded.readItems? (bounded : ReadsBounded item) {items : List Json}
    (read : readItems? item fuel characters = some (items, rest)) :
    ∀ value ∈ items, value.IsBounded := by
  induction fuel generalizing characters items rest with
  | zero => cases read
  | succ fuel ih =>
      rcases Option.bind_eq_some_iff.mp read with ⟨⟨value, left⟩, first, read⟩
      have here := bounded _ _ _ first
      dsimp only at read
      split at read
      · cases read
        simpa using here
      · rcases Option.bind_eq_some_iff.mp read with ⟨⟨values, after⟩, others, read⟩
        cases read
        exact List.forall_mem_cons.mpr ⟨here, ih others⟩
      · cases read

theorem ReadsBounded.readEntries? (bounded : ReadsBounded item)
    {entries : List (Option String × Json)}
    (read : readEntries? item fuel characters = some (entries, rest)) :
    ∀ entry ∈ entries, entry.2.IsBounded := by
  induction fuel generalizing characters entries rest with
  | zero => cases read
  | succ fuel ih =>
      simp only [Json.readEntries?] at read
      split at read
      · rcases Option.bind_eq_some_iff.mp read with ⟨⟨key, left⟩, _, read⟩
        dsimp only at read
        split at read
        · rcases Option.bind_eq_some_iff.mp read with ⟨⟨value, left⟩, first, read⟩
          have here := bounded _ _ _ first
          dsimp only at read
          split at read
          · cases read
            simpa using here
          · rcases Option.bind_eq_some_iff.mp read with ⟨⟨others, after⟩, later, read⟩
            cases read
            exact List.forall_mem_cons.mpr ⟨here, ih later⟩
          · cases read
        · cases read
      · cases read

theorem isBounded_ofEntries {entries : List (Option String × Json)}
    (bounded : ∀ entry ∈ entries, entry.2.IsBounded) : (ofEntries entries).IsBounded := by
  rw [ofEntries]
  split
  · next named keyed =>
      apply IsBounded.object
      intro entry member
      rcases exists_of_mem_mapM keyed member with ⟨⟨key, value⟩, listed, same⟩
      rcases Option.map_eq_some_iff.mp same with ⟨_, _, rfl⟩
      exact bounded _ listed
  · exact .unreadable

/-- What is read at a number of levels is bounded if what is read at fewer of them is. -/
theorem readsBounded_readWithin? (size levels : Nat) : ReadsBounded (readWithin? size levels) := by
  -- Where a container opens, the levels show as one more than those that its parts are read at.
  induction levels using Nat.strongRecOn with
  | ind levels deeper =>
      intro characters json rest
      fun_cases readWithin? size levels characters with
      | case1 =>
          rintro ⟨⟩
          exact .array (by simp)
      | case2 characters rest levels _ _ =>
          intro read
          rcases Option.map_eq_some_iff.mp read with ⟨⟨items, _⟩, each, same⟩
          cases same
          exact .array ((deeper levels (Nat.lt_succ_self levels)).readItems? each)
      | case3 =>
          rintro ⟨⟩
          exact .object (by simp)
      | case4 characters rest levels _ _ =>
          intro read
          rcases Option.map_eq_some_iff.mp read with ⟨⟨entries, _⟩, each, same⟩
          cases same
          exact isBounded_ofEntries ((deeper levels (Nat.lt_succ_self levels)).readEntries? each)
      | case5 | case6 =>
          intro read
          rcases Option.map_eq_some_iff.mp read with ⟨_, _, same⟩
          cases same
          exact .unreadable
      | case7 => exact isBounded_readScalar?

/-- A value that a JSON text denotes is bounded. -/
theorem isBounded_parse? {text : String} (parsed : parse? text = some json) : json.IsBounded := by
  rw [parse?] at parsed
  split at parsed
  · next read =>
      split at parsed
      · cases parsed
        exact readsBounded_readWithin? _ _ _ _ _ read
      · cases parsed
  · cases parsed

end Json

end TypedSheets
