/-!
# Blank characters

The characters with the Unicode property `White_Space`, and the two uses the
library makes of them: a text of blanks only counts as empty, and the blanks
around a text do not belong to it.
-/

namespace TypedSheets.Text

/-- Membership in the Unicode property `White_Space`. -/
def isBlank (character : Char) : Bool :=
  let code := character.toNat
  (9 ≤ code && code ≤ 13) || code == 0x20 || code == 0x85 || code == 0xA0 || code == 0x1680
    || (0x2000 ≤ code && code ≤ 0x200A) || code == 0x2028 || code == 0x2029 || code == 0x202F
    || code == 0x205F || code == 0x3000

/-- The characters from the first one that is not blank. -/
def trimStart (characters : List Char) : List Char :=
  characters.dropWhile isBlank

/-- The characters up to the last one that is not blank. -/
def trimEnd (characters : List Char) : List Char :=
  (characters.reverse.dropWhile isBlank).reverse

/-- The characters between the first and the last one that is not blank. -/
def trimChars (characters : List Char) : List Char :=
  trimEnd (trimStart characters)

/-- A text without the blanks around it. -/
def trim (text : String) : String :=
  String.ofList (trimChars text.toList)

/-- A text of blanks only, the empty one included. -/
def blank (text : String) : Bool :=
  text.toList.all isBlank

@[simp] theorem toList_trim (text : String) : (trim text).toList = trimChars text.toList := by
  simp [trim]

@[simp] theorem trimStart_nil : trimStart [] = [] := rfl

@[simp] theorem trimEnd_nil : trimEnd [] = [] := rfl

@[simp] theorem trimChars_nil : trimChars [] = [] := rfl

end TypedSheets.Text
