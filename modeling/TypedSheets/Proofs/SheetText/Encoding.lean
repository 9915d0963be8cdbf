import TypedSheets.Proofs.SheetText.Characters

/-!
# Reading text in UTF-8

The encoding of a file is told from its bytes alone. Text in UTF-8 is taken for Latin text when it
has exactly one character beyond ASCII and its bytes fit Latin text: then every byte of this
character is read as a character of its own. Otherwise it is read as it was written. The delimiter
is found in either case, because the ASCII characters are the same.
-/

namespace TypedSheets

namespace Text

open Utf8

variable {text : String} {character : Char} {characters : List Char}

/-- Whether text in UTF-8 is taken for Latin text. -/
def SeemsLatin (text : String) : Prop :=
  (text.toList.filter isForeign).length = 1 ∧ Latin.isLikely (bytesOf text.toList) = true

instance (text : String) : Decidable (SeemsLatin text) := inferInstanceAs (Decidable (_ ∧ _))

/-- What text in UTF-8 is read as when it is taken for Latin text. -/
def asLatin (text : String) : String :=
  String.ofList ((bytesOf text.toList).map Charset.latinNineChar)

/-! ## Telling the encoding -/

theorem le_of_mem_bytesOf {byte : UInt8} (member : byte ∈ bytesOf characters) : byte ≤ 0xF4 := by
  rcases List.mem_flatMap.mp member with ⟨character, -, inside⟩
  cases here : isForeign character with
  | true =>
      rcases exists_utf8EncodeChar_of_foreign here with ⟨lead, tail, bytes, ⟨-, most⟩, -, follow⟩
      rw [bytes] at inside
      rcases List.mem_cons.mp inside with rfl | later
      · exact most
      · exact UInt8.le_trans (follow byte later).2 (by decide)
  | false =>
      rw [utf8EncodeChar_of_not_foreign here, List.mem_singleton] at inside
      have small := of_decide_eq_false here
      rw [inside, UInt8.le_iff_toNat_le, toNat_ofNat_of_lt (by omega)]
      change character.toNat ≤ 0xF4
      omega

/-- The bytes of a text seem to be ASCII exactly when they are. -/
theorem all_bytesOf_iff :
    ((bytesOf characters).all fun byte => byte < 0x80 || byte == 0xA0) = true
      ↔ characters.filter isForeign = [] := by
  rw [List.filter_eq_nil_iff, List.all_eq_true]
  constructor
  · intro ascii character member foreign
    rcases exists_utf8EncodeChar_of_foreign foreign with ⟨lead, tail, bytes, ⟨least, -⟩, -, -⟩
    have inside : lead ∈ bytesOf characters :=
      List.mem_flatMap.mpr ⟨character, member, by rw [bytes]; exact List.mem_cons_self⟩
    have seems := ascii lead inside
    rw [Bool.or_eq_true, decide_eq_true_eq, beq_iff_eq] at seems
    rcases seems with below | rfl
    · exact absurd (UInt8.lt_of_le_of_lt least below) (by decide)
    · exact absurd least (by decide)
  · intro ascii byte member
    rcases List.mem_flatMap.mp member with ⟨character, listed, inside⟩
    have plain : isForeign character = false := by simpa using ascii character listed
    rw [utf8EncodeChar_of_not_foreign plain, List.mem_singleton] at inside
    have small := of_decide_eq_false plain
    rw [inside, Bool.or_eq_true, decide_eq_true_eq, UInt8.lt_iff_toNat_lt,
      toNat_ofNat_of_lt (by omega)]
    left
    change character.toNat < 0x80
    omega

theorem not_seemsLatin_of_ascii (ascii : text.toList.filter isForeign = []) : ¬SeemsLatin text := by
  rintro ⟨single, -⟩
  rw [ascii] at single
  cases single

/-- UTF-8 does not use a byte that is in every mark of a wide encoding. -/
theorem markByte_notMem_toUTF8 (text : String) (bytes : List UInt8)
    (found : text.toUTF8.data.toList = bytes) : 0xFE ∉ bytes := by
  intro member
  rw [← found, toList_toUTF8] at member
  exact absurd (le_of_mem_bytesOf member) (by decide)

theorem head?_of_marked {rest : List UInt8}
    (marked : text.toUTF8.data.toList = 0xEF :: 0xBB :: 0xBF :: rest) :
    text.toList.head? = some '\uFEFF' := by
  have begins : bytesOf ['\uFEFF'] ++ rest = bytesOf text.toList := by
    rw [← toList_toUTF8, marked]
    rfl
  rcases isPrefix_of_bytesOf_append begins with ⟨after, split⟩
  rw [← split]
  rfl

/-- Text in UTF-8 that does not begin with a mark is taken for Latin text or for UTF-8. -/
theorem detect_toUTF8 (unmarked : text.toList.head? ≠ some '\uFEFF') :
    Charset.detect text.toUTF8 = if SeemsLatin text then "iso-8859-1" else "utf-8" := by
  have bytes := toList_toUTF8 text
  have unused := markByte_notMem_toUTF8 text
  unfold Charset.detect
  split
  · next nothing =>
      rw [bytes] at nothing
      rw [if_neg (not_seemsLatin_of_ascii (all_bytesOf_iff.mp (by rw [nothing]; rfl)))]
  · next marked => exact absurd (head?_of_marked marked) unmarked
  · next found => exact absurd (by simp) (unused _ found)
  · next found => exact absurd (by simp) (unused _ found)
  · next found => exact absurd (by simp) (unused _ found)
  · next found => exact absurd (by simp) (unused _ found)
  · next found => exact absurd (by simp) (unused _ found)
  · next found => exact absurd (by simp) (unused _ found)
  · rw [bytes, fromUTF8?_toUTF8]
    split
    · next ascii => rw [if_neg (not_seemsLatin_of_ascii (all_bytesOf_iff.mp ascii))]
    · next someForeign =>
        have count : 0 < (text.toList.filter isForeign).length :=
          List.length_pos_iff.mpr fun none => someForeign (all_bytesOf_iff.mpr none)
        have seems_iff : SeemsLatin text ↔ ¬(2 ≤ (text.toList.filter isForeign).length
            ∨ Latin.isLikely (bytesOf text.toList) = false) := by
          rw [SeemsLatin, not_or, Bool.not_eq_false]
          exact and_congr_left' (by omega)
        rw [if_congr seems_iff rfl rfl, ite_not]
        rfl

/-! ## Decoding -/

theorem forall_of_codes {holds : UInt8 → Prop} (checked : ∀ code < 256, holds (UInt8.ofNat code))
    (byte : UInt8) : holds byte := by
  have own := checked byte.toNat byte.toNat_lt
  rwa [UInt8.ofNat_toNat] at own

theorem latinNineChar_ne_mark : ∀ byte : UInt8, Charset.latinNineChar byte ≠ '\uFEFF' :=
  forall_of_codes (by decide +kernel)

theorem latinNineChar_of_high :
    ∀ byte : UInt8, 0x80 ≤ byte → isForeign (Charset.latinNineChar byte) = true :=
  forall_of_codes (by decide +kernel)

theorem latinNineChar_of_low :
    ∀ byte : UInt8, byte < 0x80 → Charset.latinNineChar byte = Char.ofNat byte.toNat :=
  forall_of_codes (by decide +kernel)

/-- The first byte of a character beyond ASCII is a visible character of the same code point. -/
theorem latinNineChar_of_lead :
    ∀ byte : UInt8, 0xC2 ≤ byte ∧ byte ≤ 0xF4 → isStriking (Charset.latinNineChar byte) = true
      ∧ (Charset.latinNineChar byte).toNat = byte.toNat :=
  forall_of_codes (by decide +kernel)

theorem map_latinNineChar_of_ascii (ascii : isForeign character = false) :
    (String.utf8EncodeChar character).map Charset.latinNineChar = [character] := by
  have small := of_decide_eq_false ascii
  have code := toNat_ofNat_of_lt (show character.toNat < 256 by omega)
  have low : UInt8.ofNat character.toNat < 0x80 := by
    rw [UInt8.lt_iff_toNat_lt, code]
    change character.toNat < 0x80
    omega
  rw [utf8EncodeChar_of_not_foreign ascii, List.map_singleton, latinNineChar_of_low _ low, code,
    Char.ofNat_toNat]

theorem isForeign_of_mem_map_latinNineChar (foreign : isForeign character = true) :
    ∀ other ∈ (String.utf8EncodeChar character).map Charset.latinNineChar, isForeign other = true := by
  intro other member
  rcases List.mem_map.mp member with ⟨byte, listed, rfl⟩
  exact latinNineChar_of_high byte (high_of_mem_utf8EncodeChar foreign byte listed)

/-- The ASCII characters of a text stay when it is taken for Latin text. -/
theorem filter_ascii_asLatin (text : String) :
    (asLatin text).toList.filter isAscii = text.toList.filter isAscii := by
  rw [asLatin, String.toList_ofList]
  generalize text.toList = characters
  induction characters with
  | nil => rfl
  | cons character characters ih =>
      rw [bytesOf_cons, List.map_append, List.filter_append, ih]
      cases here : isForeign character with
      | true =>
          have none : ((String.utf8EncodeChar character).map Charset.latinNineChar).filter isAscii
              = [] := by
            rw [List.filter_eq_nil_iff]
            intro other member
            simp [isAscii, isForeign_of_mem_map_latinNineChar here other member]
          rw [none]
          simp [isAscii, here]
      | false =>
          rw [map_latinNineChar_of_ascii here]
          simp [isAscii, here]

/-- Every byte of a character beyond ASCII is a character of its own. -/
theorem filter_isForeign_asLatin (text : String) :
    (asLatin text).toList.filter isForeign
      = (bytesOf (text.toList.filter isForeign)).map Charset.latinNineChar := by
  rw [asLatin, String.toList_ofList]
  generalize text.toList = characters
  induction characters with
  | nil => rfl
  | cons character characters ih =>
      rw [bytesOf_cons, List.map_append, List.filter_append, ih]
      cases here : isForeign character with
      | true =>
          have all := List.filter_eq_self.mpr (isForeign_of_mem_map_latinNineChar here)
          rw [all, List.filter_cons_of_pos here, bytesOf_cons, List.map_append]
      | false =>
          rw [map_latinNineChar_of_ascii here]
          simp [here]

theorem dropMarks_of_unmarked (unmarked : characters.head? ≠ some '\uFEFF') :
    Charset.dropMarks characters = characters := by
  cases characters with
  | nil => rfl
  | cons first rest =>
      have visible : first ≠ '\uFEFF' := fun same => unmarked (congrArg some same)
      exact List.dropWhile_cons_of_neg (by simpa using visible)

theorem decode_utf8 (unmarked : text.toList.head? ≠ some '\uFEFF') :
    Charset.decode text.toUTF8 "utf-8" = text := by
  have name : String.ofList ("utf-8".toList.map Char.toLower) = "utf-8" := by decide
  have read : Utf8.decode text.toUTF8 = text := by rw [Utf8.decode, fromUTF8?_toUTF8]
  simp only [Charset.decode, name]
  rw [if_neg (by decide), if_neg (by decide), read, dropMarks_of_unmarked unmarked,
    String.ofList_toList]

theorem decodeMarked_toUTF8 (unmarked : text.toList.head? ≠ some '\uFEFF') (decode : UInt8 → Char) :
    Charset.decodeMarked decode text.toUTF8 = (bytesOf text.toList).map decode := by
  have unused := markByte_notMem_toUTF8 text
  unfold Charset.decodeMarked
  split
  · next marked => exact absurd (head?_of_marked marked) unmarked
  · next found => exact absurd (by simp) (unused _ found)
  · next found => exact absurd (by simp) (unused _ found)
  · rw [toList_toUTF8]

/-- No Latin text begins with a mark. -/
theorem head?_asLatin_ne (text : String) : (asLatin text).toList.head? ≠ some '\uFEFF' := by
  rw [asLatin, String.toList_ofList, List.head?_map]
  intro marked
  rcases Option.map_eq_some_iff.mp marked with ⟨byte, -, same⟩
  exact latinNineChar_ne_mark byte same

theorem decode_latin (unmarked : text.toList.head? ≠ some '\uFEFF') :
    Charset.decode text.toUTF8 "iso-8859-1" = asLatin text := by
  have name : String.ofList ("iso-8859-1".toList.map Char.toLower) = "iso-8859-1" := by decide
  have noMark := head?_asLatin_ne text
  rw [asLatin, String.toList_ofList] at noMark
  simp only [Charset.decode, name]
  rw [if_pos (by decide), decodeMarked_toUTF8 unmarked, dropMarks_of_unmarked noMark]
  rfl

/-! ## What is lost -/

/-- The character whose first byte has the same code point. -/
theorem eq_of_lead {lead : UInt8} {tail : List UInt8}
    (bytes : String.utf8EncodeChar character = lead :: tail)
    (bounds : 0xC2 ≤ lead ∧ lead ≤ 0xF4) (same : character.toNat = lead.toNat) :
    character = '\u00C3' := by
  have least := UInt8.le_iff_toNat_le.mp bounds.1
  have most := UInt8.le_iff_toNat_le.mp bounds.2
  change 0xC2 ≤ lead.toNat at least
  change lead.toNat ≤ 0xF4 at most
  have code : character.val.toNat = lead.toNat := same
  simp only [String.utf8EncodeChar] at bytes
  rw [if_neg (by omega), if_pos (by omega)] at bytes
  have first := congrArg UInt8.toNat (List.cons.inj bytes).1
  rw [toNat_ofNat_of_lt (by omega)] at first
  have value : character.toNat = 0xC3 := by
    change character.val.toNat = 0xC3
    omega
  rw [← Char.ofNat_toNat character, value]

/-- A character beyond ASCII is another text when its bytes are taken for characters, blanks
aside. -/
theorem filter_isStriking_map_ne (foreign : isForeign character = true) :
    ((String.utf8EncodeChar character).map Charset.latinNineChar).filter isStriking
      ≠ [character].filter isStriking := by
  rcases exists_utf8EncodeChar_of_foreign foreign with ⟨lead, tail, bytes, bounds, -, -⟩
  rcases latinNineChar_of_lead lead bounds with ⟨striking, code⟩
  intro same
  have alone : character = Charset.latinNineChar lead := by
    rw [bytes, List.map_cons, List.filter_cons_of_pos striking] at same
    cases shown : isStriking character with
    | true =>
        rw [List.filter_cons_of_pos shown] at same
        exact (List.cons.inj same).1.symm
    | false =>
        rw [List.filter_cons_of_neg (by simp [shown])] at same
        cases same
  have exceptional := eq_of_lead bytes bounds (by rw [alone, code])
  rw [exceptional] at same
  exact absurd same (by decide)

/-- Text that is taken for Latin text has other striking characters then. -/
theorem filter_isStriking_asLatin_ne (seems : SeemsLatin text) :
    (asLatin text).toList.filter isStriking ≠ text.toList.filter isStriking := by
  rcases List.length_eq_one_iff.mp seems.1 with ⟨character, single⟩
  have foreign : isForeign character = true :=
    List.of_mem_filter (single ▸ List.mem_singleton_self character)
  have whole := List.filter_eq_self.mpr (isForeign_of_mem_map_latinNineChar foreign)
  have mistaken := filter_isForeign_asLatin text
  rw [single, bytesOf_cons, bytesOf_nil, List.append_nil, ← whole] at mistaken
  have meant : text.toList.filter isForeign = [character].filter isForeign := by
    rw [single, List.filter_cons_of_pos foreign, List.filter_nil]
  rw [filter_isStriking mistaken, filter_isStriking meant]
  exact filter_isStriking_map_ne foreign

end Text

namespace SheetText

open Text Text.Utf8

variable {text : String}

/-! ## The delimiter -/

/-- The first line of a text. -/
def firstLine (text : String) : List Char := text.toList.takeWhile (· ≠ '\n')

/-- The delimiter depends on how often the first line holds each one. -/
theorem detectDelimiter_congr {left right : String}
    (same : ∀ delimiter ∈ delimiters,
      (firstLine left).count delimiter = (firstLine right).count delimiter) :
    detectDelimiter left = detectDelimiter right := by
  simp only [delimiters, List.forall_mem_cons, List.not_mem_nil, false_imp_iff, implies_true,
    and_true] at same
  rcases same with ⟨comma, semicolon, tab, bar⟩
  simp only [firstLine] at comma semicolon tab bar
  simp only [detectDelimiter, delimiters, List.foldl_cons, List.foldl_nil, comma, semicolon, tab, bar]

theorem filter_takeWhile_ascii (characters : List Char) :
    (characters.takeWhile (· ≠ '\n')).filter isAscii
      = (characters.filter isAscii).takeWhile (· ≠ '\n') := by
  induction characters with
  | nil => rfl
  | cons character characters ih =>
      by_cases here : character = '\n'
      · subst here
        rfl
      · cases ascii : isAscii character with
        | true => simpa [List.takeWhile_cons, here, ascii] using ih
        | false => simpa [List.takeWhile_cons, here, ascii] using ih

theorem isAscii_of_mem_delimiters {delimiter : Char} (member : delimiter ∈ delimiters) :
    isAscii delimiter = true := by
  simp only [delimiters, List.mem_cons, List.not_mem_nil, or_false] at member
  rcases member with rfl | rfl | rfl | rfl <;> rfl

/-- The characters beyond ASCII do not matter for the delimiter. -/
theorem detectDelimiter_of_ascii {left right : String}
    (same : left.toList.filter isAscii = right.toList.filter isAscii) :
    detectDelimiter left = detectDelimiter right := by
  apply detectDelimiter_congr
  intro delimiter member
  have ascii := isAscii_of_mem_delimiters member
  rw [← List.count_filter ascii, firstLine, filter_takeWhile_ascii, same, ← filter_takeWhile_ascii,
    List.count_filter ascii]
  rfl

theorem detectDelimiter_mem (text : String) : detectDelimiter text ∈ delimiters := by
  have best : ∀ (others : List Char) (found : Char × Nat), found.1 ∈ delimiters →
      (∀ delimiter ∈ others, delimiter ∈ delimiters) →
      (others.foldl (fun (best : Char × Nat) delimiter =>
        if best.2 < (firstLine text).count delimiter
        then (delimiter, (firstLine text).count delimiter) else best) found).1 ∈ delimiters := by
    intro others
    induction others with
    | nil => exact fun _ known _ => known
    | cons delimiter others ih =>
        intro found known listed
        rcases List.forall_mem_cons.mp listed with ⟨first, rest⟩
        rw [List.foldl_cons]
        apply ih _ _ rest
        split
        · exact first
        · exact known
  exact best delimiters (',', 0) List.mem_cons_self fun _ => id

/-! ## Reading -/

theorem read_of_not_seemsLatin {grid : Grid} (unmarked : text.toList.head? ≠ some '\uFEFF')
    (clear : ¬SeemsLatin text) (parsed : parse text (detectDelimiter text) = .ok grid) :
    read text.toUTF8 = .ok ⟨grid, "utf-8", detectDelimiter text⟩ := by
  have detected := detect_toUTF8 unmarked
  rw [if_neg clear] at detected
  simp only [read, detected, decode_utf8 unmarked, parsed]
  rfl

theorem read_of_seemsLatin {grid : Grid} (unmarked : text.toList.head? ≠ some '\uFEFF')
    (seems : SeemsLatin text) (parsed : parse (asLatin text) (detectDelimiter text) = .ok grid) :
    read text.toUTF8 = .ok ⟨grid, "iso-8859-1", detectDelimiter text⟩ := by
  have detected := detect_toUTF8 unmarked
  rw [if_pos seems] at detected
  simp only [read, detected, decode_latin unmarked,
    detectDelimiter_of_ascii (filter_ascii_asLatin text), parsed]
  rfl

/-- Text in UTF-8 is read as it was written exactly when it is not taken for Latin text. -/
theorem read_toUTF8 (unmarked : text.toList.head? ≠ some '\uFEFF') :
    ∃ grid, parse text (detectDelimiter text) = .ok grid
      ∧ if SeemsLatin text then
          ∃ other, parse (asLatin text) (detectDelimiter text) = .ok other ∧ other ≠ grid
            ∧ read text.toUTF8 = .ok ⟨other, "iso-8859-1", detectDelimiter text⟩
        else read text.toUTF8 = .ok ⟨grid, "utf-8", detectDelimiter text⟩ := by
  have ascii := lt_of_isAscii (isAscii_of_mem_delimiters (detectDelimiter_mem text))
  rcases exists_parse ascii unmarked with ⟨grid, parsed, held⟩
  refine ⟨grid, parsed, ?_⟩
  split
  · next seems =>
      rcases exists_parse ascii (head?_asLatin_ne text) with ⟨other, misread, mistaken⟩
      refine ⟨other, misread, ?_, read_of_seemsLatin unmarked seems misread⟩
      rintro rfl
      exact filter_isStriking_asLatin_ne seems (mistaken.symm.trans held)
  · next clear => exact read_of_not_seemsLatin unmarked clear parsed

/-- A sheet with three characters beyond ASCII. -/
def accentedSheet : String := "Größe;Maß\n1;2"

theorem accentedSheet_read :
    accentedSheet.toList.head? ≠ some '\uFEFF' ∧ ∃ grid, parse accentedSheet ';' = .ok grid
      ∧ read accentedSheet.toUTF8 = .ok ⟨grid, "utf-8", ';'⟩ := by
  have unmarked : accentedSheet.toList.head? ≠ some '\uFEFF' := by decide
  have delimiter : detectDelimiter accentedSheet = ';' := by decide
  have clear : ¬SeemsLatin accentedSheet := by decide +kernel
  rcases read_toUTF8 unmarked with ⟨grid, parsed, result⟩
  rw [delimiter] at parsed result
  rw [if_neg clear] at result
  exact ⟨unmarked, grid, parsed, result⟩

/-- A single accented letter is read as two characters. -/
theorem accent_misread :
    detectDelimiter "é" = ',' ∧ (parse "é" ',').map Grid.rows = .ok [["é"]]
      ∧ (read "é".toUTF8).map (fun sheet => (sheet.grid.rows, sheet.encoding, sheet.delimiter))
          = .ok ([["Ã©"]], "iso-8859-1", ',') := by
  decide +kernel

end SheetText

end TypedSheets
