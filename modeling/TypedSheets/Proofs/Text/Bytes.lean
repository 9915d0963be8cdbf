import Mathlib
import TypedSheets.Text.Blank
import TypedSheets.Text.Charset

/-!
# Characters and their bytes

In UTF-8 an ASCII character is the byte of its code point. Every other character has several
bytes, all of them beyond ASCII, and the first one tells that more follow.
-/

namespace TypedSheets.Text

/-- Whether a character is beyond ASCII. -/
def isForeign (character : Char) : Bool := decide (0x80 ≤ character.toNat)

/-- Whether a character is ASCII. -/
def isAscii (character : Char) : Bool := !isForeign character

theorem lt_of_isAscii {character : Char} (ascii : isAscii character = true) :
    character.toNat < 0x80 := by
  simpa [isAscii, isForeign] using ascii

/-- Whether a character is beyond ASCII and not blank. -/
def isStriking (character : Char) : Bool := isForeign character && !isBlank character

theorem filter_isStriking_eq (characters : List Char) :
    characters.filter isStriking
      = (characters.filter isForeign).filter fun character => !isBlank character := by
  rw [List.filter_filter]
  exact List.filter_congr fun character _ => Bool.and_comm ..

theorem filter_isStriking {left right : List Char}
    (same : left.filter isForeign = right.filter isForeign) :
    left.filter isStriking = right.filter isStriking := by
  rw [filter_isStriking_eq, filter_isStriking_eq, same]

namespace Utf8

variable {character : Char} {characters : List Char}

/-- The bytes of characters. -/
def bytesOf (characters : List Char) : List UInt8 := characters.flatMap String.utf8EncodeChar

@[simp] theorem bytesOf_nil : bytesOf [] = [] := rfl

@[simp] theorem bytesOf_cons (character : Char) (characters : List Char) :
    bytesOf (character :: characters) = String.utf8EncodeChar character ++ bytesOf characters := rfl

@[simp] theorem bytesOf_append (left right : List Char) :
    bytesOf (left ++ right) = bytesOf left ++ bytesOf right :=
  List.flatMap_append

theorem toList_toUTF8 (text : String) : text.toUTF8.data.toList = bytesOf text.toList := by
  rw [String.toUTF8_eq_toByteArray, ← String.utf8Encode_toList, List.utf8Encode]
  simp [bytesOf]

theorem fromUTF8?_toUTF8 (text : String) : String.fromUTF8? text.toUTF8 = some text := by
  have valid : text.toUTF8.IsValidUTF8 := text.isValidUTF8
  rw [String.fromUTF8?, dif_pos valid]
  rfl

theorem decode?_bytesOf (characters : List Char) :
    decode? (bytesOf characters) = some (String.ofList characters) := by
  have packed : (⟨(bytesOf characters).toArray⟩ : ByteArray) = (String.ofList characters).toUTF8 := by
    rw [← String.toList_ofList (l := characters), ← toList_toUTF8]
    simp
  rw [decode?, packed, fromUTF8?_toUTF8]

/-- Characters whose bytes come first come first. -/
theorem isPrefix_of_bytesOf_append {left right : List Char} {rest : List UInt8}
    (begins : bytesOf left ++ rest = bytesOf right) : left <+: right := by
  apply List.isPrefix_of_utf8Encode_append_eq_utf8Encode rest.toByteArray
  rw [List.utf8Encode, List.utf8Encode, ← List.toByteArray_append]
  exact congrArg List.toByteArray begins

/-- The code point of an ASCII character is its byte. -/
theorem utf8EncodeChar_of_not_foreign (ascii : isForeign character = false) :
    String.utf8EncodeChar character = [UInt8.ofNat character.toNat] := by
  have small : character.val.toNat ≤ 0x7f := by
    have below := of_decide_eq_false ascii
    change ¬0x80 ≤ character.val.toNat at below
    omega
  rw [String.utf8EncodeChar]
  exact if_pos small

theorem toNat_ofNat_of_lt {code : Nat} (small : code < 256) : (UInt8.ofNat code).toNat = code := by
  rw [UInt8.toNat_ofNat', Nat.mod_eq_of_lt small]

/-- A byte of six bits of a character goes on with it. -/
theorem continuation_bounds (code : Nat) :
    0x80 ≤ UInt8.ofNat (code % 0x40 + 0x80) ∧ UInt8.ofNat (code % 0x40 + 0x80) ≤ 0xBF := by
  have bound : code % 0x40 < 0x40 := Nat.mod_lt _ (by decide)
  have value := toNat_ofNat_of_lt (show code % 0x40 + 0x80 < 256 by omega)
  rw [UInt8.le_iff_toNat_le, UInt8.le_iff_toNat_le, value]
  change 0x80 ≤ code % 0x40 + 0x80 ∧ code % 0x40 + 0x80 ≤ 0xBF
  omega

theorem lead_bounds {code : Nat} (least : 0xC2 ≤ code) (greatest : code ≤ 0xF4) :
    0xC2 ≤ UInt8.ofNat code ∧ UInt8.ofNat code ≤ 0xF4 := by
  rw [UInt8.le_iff_toNat_le, UInt8.le_iff_toNat_le,
    toNat_ofNat_of_lt (Nat.lt_of_le_of_lt greatest (by decide))]
  exact ⟨least, greatest⟩

/-- How the bytes of a character beyond ASCII begin and go on. -/
theorem exists_utf8EncodeChar_of_foreign (foreign : isForeign character = true) :
    ∃ lead tail, String.utf8EncodeChar character = lead :: tail
      ∧ (0xC2 ≤ lead ∧ lead ≤ 0xF4) ∧ tail ≠ [] ∧ ∀ byte ∈ tail, 0x80 ≤ byte ∧ byte ≤ 0xBF := by
  have large : 0x80 ≤ character.val.toNat := of_decide_eq_true foreign
  have bounded : character.val.toNat < 0x110000 := by
    rcases character.valid with below | ⟨-, above⟩
    · omega
    · exact above
  simp only [String.utf8EncodeChar]
  rw [if_neg (by omega)]
  split
  · refine ⟨_, _, rfl, lead_bounds ?_ ?_, List.cons_ne_nil _ _, ?_⟩
    · omega
    · omega
    · simp [continuation_bounds, -UInt8.ofNat_add]
  · split
    · refine ⟨_, _, rfl, lead_bounds ?_ ?_, List.cons_ne_nil _ _, ?_⟩
      · omega
      · omega
      · simp [continuation_bounds, -UInt8.ofNat_add]
    · refine ⟨_, _, rfl, lead_bounds ?_ ?_, List.cons_ne_nil _ _, ?_⟩
      · omega
      · omega
      · simp [continuation_bounds, -UInt8.ofNat_add]

theorem high_of_mem_utf8EncodeChar (foreign : isForeign character = true) :
    ∀ byte ∈ String.utf8EncodeChar character, 0x80 ≤ byte := by
  rcases exists_utf8EncodeChar_of_foreign foreign with ⟨lead, tail, bytes, ⟨least, -⟩, -, follow⟩
  rw [bytes]
  exact List.forall_mem_cons.mpr
    ⟨UInt8.le_trans (by decide) least, fun byte member => (follow byte member).1⟩

/-- Bytes that are all ASCII are the code points of the text. -/
theorem toList_of_ascii {text : String}
    (ascii : (text.toUTF8.data.toList.all fun byte => byte < 0x80) = true) :
    text.toList = text.toUTF8.data.toList.map fun byte => Char.ofNat byte.toNat := by
  rw [toList_toUTF8] at ascii ⊢
  generalize text.toList = characters at ascii ⊢
  induction characters with
  | nil => rfl
  | cons character characters ih =>
      rw [bytesOf_cons, List.all_append, Bool.and_eq_true] at ascii
      have plain : isForeign character = false := by
        rw [Bool.eq_false_iff]
        intro foreign
        rcases exists_utf8EncodeChar_of_foreign foreign with ⟨lead, tail, bytes, ⟨least, -⟩, -, -⟩
        rw [bytes, List.all_cons, Bool.and_eq_true] at ascii
        exact absurd (UInt8.lt_of_le_of_lt least (of_decide_eq_true ascii.1.1)) (by decide)
      have small := of_decide_eq_false plain
      rw [bytesOf_cons, List.map_append, ← ih ascii.2, utf8EncodeChar_of_not_foreign plain,
        List.map_singleton, toNat_ofNat_of_lt (by omega), Char.ofNat_toNat, List.singleton_append]

end Utf8

end TypedSheets.Text
