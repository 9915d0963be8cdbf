/-!
# Decoding UTF-8

Bytes that form a text are read as that text. In any other bytes every maximal piece
of an interrupted character, and every byte that begins none, stands for one
replacement character.
-/

namespace TypedSheets.Text

/-- What stands for bytes that encode no character. -/
def replacement : Char := '\uFFFD'

namespace Utf8

/-- A character of which some bytes have been read. -/
structure Partial where
  /-- Bits read so far. -/
  code : Nat
  /-- Bytes still to come. -/
  missing : Nat
  /-- Range of the next byte. -/
  low : Nat
  high : Nat

/-- What a first byte gives: a finished character, or one with bytes to come. -/
def first (byte : Nat) : List Char × Option Partial :=
  if byte < 0x80 then ([Char.ofNat byte], none)
  else if 0xC2 ≤ byte ∧ byte ≤ 0xDF then ([], some ⟨byte - 0xC0, 1, 0x80, 0xBF⟩)
  else if byte = 0xE0 then ([], some ⟨0, 2, 0xA0, 0xBF⟩)
  else if byte = 0xED then ([], some ⟨0xD, 2, 0x80, 0x9F⟩)
  else if 0xE1 ≤ byte ∧ byte ≤ 0xEF then ([], some ⟨byte - 0xE0, 2, 0x80, 0xBF⟩)
  else if byte = 0xF0 then ([], some ⟨0, 3, 0x90, 0xBF⟩)
  else if 0xF1 ≤ byte ∧ byte ≤ 0xF3 then ([], some ⟨byte - 0xF0, 3, 0x80, 0xBF⟩)
  else if byte = 0xF4 then ([], some ⟨4, 3, 0x80, 0x8F⟩)
  else ([replacement], none)

/-- The characters a byte completes, and the character it leaves unfinished. -/
def next (pending : Option Partial) (byte : Nat) : List Char × Option Partial :=
  match pending with
  | none => first byte
  | some begun =>
      if begun.low ≤ byte ∧ byte ≤ begun.high then
        let code := begun.code * 64 + (byte - 0x80)
        if begun.missing = 1 then ([Char.ofNat code], none)
        else ([], some ⟨code, begun.missing - 1, 0x80, 0xBF⟩)
      else
        let (characters, pending) := first byte
        (replacement :: characters, pending)

/-- Decode bytes after a character that was left unfinished. -/
def decodeFrom (pending : Option Partial) : List UInt8 → List Char
  | [] => if pending.isSome then [replacement] else []
  | byte :: bytes =>
      let (characters, pending) := next pending byte.toNat
      characters ++ decodeFrom pending bytes

/-- The text of bytes in UTF-8. -/
def decode (bytes : ByteArray) : String :=
  match String.fromUTF8? bytes with
  | some text => text
  | none => String.ofList (decodeFrom none bytes.data.toList)

/-- The text of bytes that are valid UTF-8. -/
def decode? (bytes : List UInt8) : Option String :=
  String.fromUTF8? ⟨bytes.toArray⟩

end Utf8

end TypedSheets.Text
