import TypedSheets.Json.Scalar
import TypedSheets.Json.Writer
import TypedSheets.Proofs.Json.Number

/-!
# Scalars in a longer text

Strings, literals and numerals as they are written, followed by other characters, are read
as what was written, and the characters that follow are left over.
-/

namespace TypedSheets.Json

/-! ## Strings -/

theorem hexFour?_hexChar {code : Nat} (control : code < 0x20) :
    hexFour? '0' '0' (hexChar (code / 16)) (hexChar code) = some code := by
  have all : ∀ code < 0x20, hexFour? '0' '0' (hexChar (code / 16)) (hexChar code) = some code := by
    decide
  exact all code control

/-- A character is written as one of the simple escapes, by its number or as itself. -/
theorem escapeChar_cases (character : Char) :
    (∃ escape, simpleEscape? escape = some character ∧ escapeChar character = ['\\', escape])
    ∨ (character.toNat < 0x20 ∧ escapeChar character
        = ['\\', 'u', '0', '0', hexChar (character.toNat / 16), hexChar character.toNat])
    ∨ (character ≠ '"' ∧ ¬(character.toNat < 0x20 ∨ character = '\\')
        ∧ escapeChar character = [character]) := by
  unfold escapeChar
  split
  · next same => exact .inl ⟨'"', by rw [same]; rfl, rfl⟩
  · next noQuote =>
      split
      · next same => exact .inl ⟨'\\', by rw [same]; rfl, rfl⟩
      · next noEscape =>
          split
          · next same => exact .inl ⟨'b', by rw [same]; rfl, rfl⟩
          · split
            · next same => exact .inl ⟨'f', by rw [same]; rfl, rfl⟩
            · split
              · next same => exact .inl ⟨'n', by rw [same]; rfl, rfl⟩
              · split
                · next same => exact .inl ⟨'r', by rw [same]; rfl, rfl⟩
                · split
                  · next same => exact .inl ⟨'t', by rw [same]; rfl, rfl⟩
                  · split
                    · next control => exact .inr (.inl ⟨control, rfl⟩)
                    · next visible => exact .inr (.inr ⟨noQuote, not_or.mpr ⟨visible, noEscape⟩, rfl⟩)

/-- A part read in front of others. -/
def withPart (part : StringPart) : List StringPart × List Char → List StringPart × List Char
  | (parts, left) => (part :: parts, left)

theorem readParts?_simple {escape character : Char} (simple : simpleEscape? escape = some character)
    (rest : List Char) :
    readParts? ('\\' :: escape :: rest)
      = (readParts? rest).map (withPart (.character character)) := by
  rw [readParts?.eq_4, simple]
  · cases readParts? rest <;> rfl
  · rintro a b c d after rfl
    simp [simpleEscape?] at simple

theorem readParts?_control {character : Char} (control : character.toNat < 0x20)
    (rest : List Char) :
    readParts? ('\\' :: 'u' :: '0' :: '0' :: hexChar (character.toNat / 16)
        :: hexChar character.toNat :: rest)
      = (readParts? rest).map (withPart (.unit character.toNat)) := by
  rw [readParts?.eq_3, hexFour?_hexChar control]
  cases readParts? rest <;> rfl

theorem readParts?_plain {character : Char} (noQuote : character ≠ '"')
    (plain : ¬(character.toNat < 0x20 ∨ character = '\\')) (rest : List Char) :
    readParts? (character :: rest)
      = (readParts? rest).map (withPart (.character character)) := by
  have noEscape := (not_or.mp plain).2
  rw [readParts?.eq_5 _ _ noQuote (fun _ _ _ _ _ same _ => noEscape same)
    (fun _ _ same _ => noEscape same), if_neg plain]
  cases readParts? rest <;> rfl

/-- A character of a string is read as one part, which denotes this character. -/
theorem exists_part (character : Char) :
    ∃ part,
      (∀ rest, readParts? (escapeChar character ++ rest) = (readParts? rest).map (withPart part))
      ∧ ∀ parts, charactersOf? (part :: parts) = (charactersOf? parts).map (character :: ·) := by
  rcases escapeChar_cases character with ⟨escape, simple, written⟩ | ⟨control, written⟩ |
      ⟨noQuote, plain, written⟩
  · rw [written]
    exact ⟨.character character, readParts?_simple simple, fun _ => rfl⟩
  · rw [written]
    refine ⟨.unit character.toNat, readParts?_control control, ?_⟩
    intro parts
    have single : character.toNat < 0xD800 ∨ 0xDFFF < character.toNat := by omega
    conv => lhs; unfold charactersOf?
    simp only [if_pos single, Char.ofNat_toNat]
  · rw [written]
    exact ⟨.character character, readParts?_plain noQuote plain, fun _ => rfl⟩

/-- The characters of a string are read up to the closing quote. -/
theorem readText?_escaped (text : String) (rest : List Char) :
    readText? (text.toList.flatMap escapeChar ++ '"' :: rest) = some (some text, rest) := by
  have parts : ∀ characters : List Char, ∃ parts,
      readParts? (characters.flatMap escapeChar ++ '"' :: rest) = some (parts, rest)
        ∧ charactersOf? parts = some characters := by
    intro characters
    induction characters with
    | nil => exact ⟨[], rfl, rfl⟩
    | cons character characters ih =>
        rcases ih with ⟨parts, read, denote⟩
        rcases exists_part character with ⟨part, first, means⟩
        refine ⟨part :: parts, ?_, ?_⟩
        · rw [List.flatMap_cons, List.append_assoc, first, read]
          rfl
        · rw [means, denote]
          rfl
  rcases parts text.toList with ⟨parts, read, denote⟩
  simp [readText?, read, denote]

/-! ## Space -/

/-- Whether characters are all passed over between the parts of a value. -/
def Blank (space : List Char) : Prop :=
  ∀ character ∈ space, character = ' ' ∨ character = '\t' ∨ character = '\n' ∨ character = '\r'

theorem blank_nil : Blank [] := by
  intro character member
  simp at member

theorem skipSpace_append {space : List Char} (blank : Blank space) (rest : List Char) :
    skipSpace (space ++ rest) = skipSpace rest := by
  apply List.dropWhile_append_of_pos
  intro character member
  rcases blank character member with rfl | rfl | rfl | rfl <;> rfl

/-- A visible character is not passed over. -/
theorem skipSpace_cons {first : Char}
    (visible : first ≠ ' ' ∧ first ≠ '\t' ∧ first ≠ '\n' ∧ first ≠ '\r') (rest : List Char) :
    skipSpace (first :: rest) = first :: rest := by
  simp [skipSpace, visible]

/-! ## Scalars -/

theorem readScalar?_null (rest : List Char) :
    readScalar? ("null".toList ++ rest) = some (.null, rest) := by
  rfl

theorem readScalar?_bool (value : Bool) (rest : List Char) :
    readScalar? ((if value then "true".toList else "false".toList) ++ rest)
      = some (.bool value, rest) := by
  cases value <;> rfl

theorem readScalar?_string (text : String) (rest : List Char) :
    readScalar? (writeString text ++ rest) = some (.string text, rest) := by
  simp [readScalar?, writeString, readText?_escaped]

/-- A number is read from its numeral when nothing goes on with the numeral. -/
theorem readScalar?_number {number : JsonNumber} (faithful : number.ReadsBack) {rest : List Char}
    (stops : JsonNumber.Stops rest) :
    readScalar? (number.write ++ rest) = some (.number number, rest) := by
  have read := JsonNumber.read?_append faithful stops
  rcases JsonNumber.exists_cons_of_read? faithful with ⟨first, others, numeral, begins⟩
  have noQuote : first ≠ '"' := by
    rintro rfl
    simp at begins
  have noName : first ≠ 'n' ∧ first ≠ 't' ∧ first ≠ 'f' := by
    refine ⟨?_, ?_, ?_⟩ <;> (rintro rfl; simp at begins)
  rw [numeral] at read ⊢
  rw [List.cons_append] at read ⊢
  simp [readScalar?, noQuote, Text.stripPrefix?, Ne.symm noName.1, Ne.symm noName.2.1,
    Ne.symm noName.2.2, read]

end TypedSheets.Json
