import TypedSheets.Text.Charset.Latin
import TypedSheets.Text.Utf8

/-!
# Character encodings

Telling the encoding of a byte sequence from its content, and decoding bytes whose
encoding has a name. A byte order mark beats the name of a one-byte encoding.
-/

namespace TypedSheets.Text.Charset

/-- The name of the encoding that bytes seem to be in. A mark at the start decides;
without one, ASCII and texts with several characters beyond it count as UTF-8, and one
such character does not count where the bytes could be Latin text. -/
def detect (bytes : ByteArray) : String :=
  match bytes.data.toList with
  | [] => "utf-8"
  | 0xEF :: 0xBB :: 0xBF :: _ => "utf-8"
  | 0xFE :: 0xFF :: 0x00 :: 0x00 :: _ => "X-ISO-10646-UCS-4-3412"
  | 0xFE :: 0xFF :: _ => "UTF-16BE"
  | 0xFF :: 0xFE :: 0x00 :: 0x00 :: _ => "UTF-32LE"
  | 0xFF :: 0xFE :: _ => "UTF-16LE"
  | 0x00 :: 0x00 :: 0xFE :: 0xFF :: _ => "UTF-32BE"
  | 0x00 :: 0x00 :: 0xFF :: 0xFE :: _ => "X-ISO-100646-UCS-4-2143"
  | list =>
      if list.all fun byte => byte < 0x80 || byte == 0xA0 then "utf-8"
      else
        match String.fromUTF8? bytes with
        | some text =>
            let foreign := (text.toList.filter fun character => 0x80 ≤ character.toNat).length
            if 2 ≤ foreign ∨ Latin.isLikely list = false then "utf-8" else "iso-8859-1"
        | none => "iso-8859-1"

/-- The characters of the bytes from 0x80 to 0x9F in the Windows encoding of Western
European languages. -/
def windowsControls : List Nat := [
  0x20AC, 0x81, 0x201A, 0x192, 0x201E, 0x2026, 0x2020, 0x2021, 0x2C6, 0x2030, 0x160, 0x2039,
  0x152, 0x8D, 0x17D, 0x8F, 0x90, 0x2018, 0x2019, 0x201C, 0x201D, 0x2022, 0x2013, 0x2014,
  0x2DC, 0x2122, 0x161, 0x203A, 0x153, 0x9D, 0x17E, 0x178]

/-- The character of a byte in the Windows encoding of Western European languages. -/
def windowsChar (byte : UInt8) : Char :=
  Char.ofNat ((if 0x80 ≤ byte ∧ byte ≤ 0x9F then windowsControls[byte.toNat - 0x80]? else none).getD
    byte.toNat)

/-- The character of a byte in the ninth Latin alphabet: the first one with eight
characters replaced, the euro sign among them. -/
def latinNineChar (byte : UInt8) : Char :=
  Char.ofNat <|
    match byte with
    | 0xA4 => 0x20AC
    | 0xA6 => 0x160
    | 0xA8 => 0x161
    | 0xB4 => 0x17D
    | 0xB8 => 0x17E
    | 0xBC => 0x152
    | 0xBD => 0x153
    | 0xBE => 0x178
    | other => other.toNat

/-- The 16-bit units of bytes, and whether a byte is left over. -/
def units (bigEndian : Bool) : List UInt8 → List Nat × Bool
  | [] => ([], false)
  | [_] => ([], true)
  | first :: second :: bytes =>
      let (rest, odd) := units bigEndian bytes
      let unit :=
        if bigEndian then first.toNat * 256 + second.toNat else second.toNat * 256 + first.toNat
      (unit :: rest, odd)

/-- Decode 16-bit units after the first half of a pair, if one is `pending`. A half
without its partner stands for one replacement character; a byte left over at the end
counts with the half before it. -/
def decodeUnits (odd : Bool) (pending : Option Nat) : List Nat → List Char
  | [] => if pending.isSome || odd then [replacement] else []
  | unit :: rest =>
      let single : List Char × Option Nat :=
        if 0xD800 ≤ unit ∧ unit ≤ 0xDBFF then ([], some unit)
        else if 0xDC00 ≤ unit ∧ unit ≤ 0xDFFF then ([replacement], none)
        else ([Char.ofNat unit], none)
      match pending with
      | none => single.1 ++ decodeUnits odd single.2 rest
      | some high =>
          if 0xDC00 ≤ unit ∧ unit ≤ 0xDFFF then
            Char.ofNat (0x10000 + (high - 0xD800) * 0x400 + (unit - 0xDC00))
              :: decodeUnits odd none rest
          else replacement :: single.1 ++ decodeUnits odd single.2 rest

/-- The text of bytes in UTF-16. -/
def decodeWide (bigEndian : Bool) (bytes : List UInt8) : List Char :=
  let (units, odd) := units bigEndian bytes
  decodeUnits odd none units

/-- The text of bytes in an encoding of one byte a character, or in the encoding that
a mark at their start names. -/
def decodeMarked (character : UInt8 → Char) (bytes : ByteArray) : List Char :=
  match bytes.data.toList with
  | 0xEF :: 0xBB :: 0xBF :: rest => (Utf8.decode ⟨rest.toArray⟩).toList
  | 0xFF :: 0xFE :: rest => decodeWide false rest
  | 0xFE :: 0xFF :: rest => decodeWide true rest
  | list => list.map character

/-- A text without the byte order marks it begins with. -/
def dropMarks (characters : List Char) : List Char :=
  characters.dropWhile (· == '\uFEFF')

/-- The text of bytes in an encoding given by name; a name that is not known counts
as UTF-8. -/
def decode (bytes : ByteArray) (encoding : String) : String :=
  let name := String.ofList (encoding.toList.map Char.toLower)
  String.ofList <| dropMarks <|
    if name = "iso-8859-1" ∨ name = "latin-1" ∨ name = "latin1" then
      decodeMarked latinNineChar bytes
    else if name = "windows-1252" ∨ name = "cp1252" then decodeMarked windowsChar bytes
    else (Utf8.decode bytes).toList

end TypedSheets.Text.Charset
