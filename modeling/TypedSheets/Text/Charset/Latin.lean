/-!
# Latin text

How well bytes fit a text in an encoding of Western European languages. Every byte has
a class, every pair of classes a rating, and bytes pass for Latin text when nearly all
of their pairs are common ones.
-/

namespace TypedSheets.Text.Latin

/-- What a byte stands for in Latin text. -/
inductive ByteClass where
  | unassigned
  | other
  | capital
  | small
  | accentedCapitalVowel
  | accentedCapital
  | accentedSmallVowel
  | accentedSmall
deriving DecidableEq

/-- The classes of the bytes from 0x80 on, by a letter each. -/
def upperHalf : String :=
  ".u.c......C.CuCuu.........c.cucC................................"
    ++ "VVVVVVCCVVVVVVVVCCVVVVV.VVVVVCCCvvvvvvccvvvvvvvvccvvvvv.vvvvvccc"

/-- The class that a letter stands for. -/
def ByteClass.ofLetter : Char → ByteClass
  | 'u' => .unassigned
  | 'V' => .accentedCapitalVowel
  | 'C' => .accentedCapital
  | 'v' => .accentedSmallVowel
  | 'c' => .accentedSmall
  | _ => .other

/-- Whether a byte is an ASCII capital. -/
def isCapital (byte : UInt8) : Bool := 0x41 ≤ byte && byte ≤ 0x5A

/-- Whether a byte is an ASCII small letter. -/
def isSmall (byte : UInt8) : Bool := 0x61 ≤ byte && byte ≤ 0x7A

/-- The class of a byte. -/
def ByteClass.ofByte (byte : UInt8) : ByteClass :=
  if isCapital byte then .capital
  else if isSmall byte then .small
  else if byte < 0x80 then .other
  else ByteClass.ofLetter ((upperHalf.toList[byte.toNat - 0x80]?).getD '.')

/-- How usual a pair of classes is in Latin text. -/
inductive Rating where
  | impossible
  | unlikely
  | possible
  | common
deriving DecidableEq

/-- The rating of a class that follows another one. -/
def rating : ByteClass → ByteClass → Rating
  | .unassigned, _ | _, .unassigned => .impossible
  | .other, _ | .capital, _ | .accentedCapital, _ => .common
  | _, .other | _, .small => .common
  | .small, .accentedCapitalVowel | .small, .accentedCapital => .unlikely
  | .small, _ => .common
  | .accentedCapitalVowel, .capital => .common
  | .accentedCapitalVowel, .accentedCapital | .accentedCapitalVowel, .accentedSmall => .possible
  | .accentedCapitalVowel, _ => .unlikely
  | .accentedSmallVowel, .accentedSmall => .common
  | .accentedSmallVowel, _ => .unlikely
  | .accentedSmall, .accentedSmallVowel | .accentedSmall, .accentedSmall => .common
  | .accentedSmall, _ => .unlikely

/-- The words of bytes outside of angle brackets with a space after each but the last:
letters and bytes beyond ASCII. `word` is the reversed word so far. -/
def words (inTag : Bool) (word : List UInt8) : List UInt8 → List UInt8
  | [] => if inTag then [] else word.reverse
  | byte :: bytes =>
      let inTag := if byte = 0x3E then false else if byte = 0x3C then true else inTag
      if byte < 0x80 ∧ !isCapital byte ∧ !isSmall byte then
        if word ≠ [] ∧ inTag = false then word.reverse ++ 0x20 :: words inTag [] bytes
        else words inTag [] bytes
      else words inTag (byte :: word) bytes

/-- The ratings of the classes in a sequence, each after the one before it. -/
def ratings (previous : ByteClass) : List ByteClass → List Rating
  | [] => []
  | next :: rest => rating previous next :: ratings next rest

/-- Whether bytes fit Latin text: no pair is impossible, and more than 101 of 146 are
common, an unlikely pair taking away twenty. -/
def isLikely (bytes : List UInt8) : Bool :=
  let found := ratings .other ((words false [] bytes).map ByteClass.ofByte)
  found.all (· ≠ .impossible)
    && decide (101 * found.length + 146 * (20 * found.count .unlikely) < 146 * found.count .common)

end TypedSheets.Text.Latin
