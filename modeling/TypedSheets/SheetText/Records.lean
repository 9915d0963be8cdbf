/-!
# Separated records

Records of fields in bytes: fields end at a delimiter, records at a line end, and a
field that begins with a quote may hold either until its closing quote. Every byte
moves a reader from one place of a record to another; empty lines hold no record, and
the end of the bytes ends whatever is open.
-/

namespace TypedSheets.SheetText

/-- Where in a record the reader stands. -/
inductive Place where
  /-- Before the first byte of a record. -/
  | recordStart
  /-- Before the first byte of a field that is not the first. -/
  | fieldStart
  /-- Inside of a field, outside of quotes. -/
  | bare
  /-- Between quotes. -/
  | quoted
  /-- After a quote that closes a field or is the first of two. -/
  | afterQuote
deriving DecidableEq

/-- A reader inside of a record: the bytes of the open field and the fields before
it, last ones first. -/
structure OpenRecord where
  place : Place
  field : List UInt8
  fields : List (List UInt8)

namespace OpenRecord

/-- A reader before a record. -/
def start : OpenRecord := ⟨.recordStart, [], []⟩

/-- Add a byte to the open field. -/
def push (state : OpenRecord) (place : Place) (byte : UInt8) : OpenRecord :=
  ⟨place, byte :: state.field, state.fields⟩

/-- Close the open field before another one. -/
def endField (state : OpenRecord) : OpenRecord :=
  ⟨.fieldStart, [], state.field.reverse :: state.fields⟩

/-- All fields, the open one included. -/
def close (state : OpenRecord) : List (List UInt8) :=
  (state.field.reverse :: state.fields).reverse

end OpenRecord

/-- The byte of a quote. -/
def quoteByte : UInt8 := 0x22

/-- Whether a byte ends a record. -/
def isLineEnd (byte : UInt8) : Bool := byte == 0x0A || byte == 0x0D

/-- What a byte does outside of quotes: end the field, end the record, or belong to
the field. -/
def outside (delimiter : UInt8) (state : OpenRecord) (byte : UInt8) :
    Option (List (List UInt8)) × OpenRecord :=
  if byte = delimiter then (none, state.endField)
  else if isLineEnd byte then (some state.close, OpenRecord.start)
  else (none, state.push .bare byte)

/-- What a byte does at the start of a field, where a quote opens a quoted field. -/
def opening (delimiter : UInt8) (state : OpenRecord) (byte : UInt8) :
    Option (List (List UInt8)) × OpenRecord :=
  if byte ≠ delimiter ∧ byte = quoteByte then (none, { state with place := .quoted })
  else outside delimiter state byte

/-- The record a byte completes, if any, and where the reader stands after it. -/
def step (delimiter : UInt8) (state : OpenRecord) (byte : UInt8) :
    Option (List (List UInt8)) × OpenRecord :=
  match state.place with
  | .recordStart =>
      if isLineEnd byte then (none, state) else opening delimiter state byte
  | .fieldStart => opening delimiter state byte
  | .bare => outside delimiter state byte
  | .quoted =>
      if byte = quoteByte then (none, { state with place := .afterQuote })
      else (none, state.push .quoted byte)
  | .afterQuote =>
      if byte = quoteByte then (none, state.push .quoted byte)
      else outside delimiter state byte

/-- The records of the bytes that follow. -/
def recordsFrom (delimiter : UInt8) (state : OpenRecord) : List UInt8 → List (List (List UInt8))
  | [] => if state.place = .recordStart then [] else [state.close]
  | byte :: bytes =>
      let (record, state) := step delimiter state byte
      record.toList ++ recordsFrom delimiter state bytes

/-- Bytes without the UTF-8 byte order mark they may begin with. -/
def dropByteOrderMark : List UInt8 → List UInt8
  | 0xEF :: 0xBB :: 0xBF :: bytes => bytes
  | bytes => bytes

/-- The records of bytes. -/
def records (delimiter : UInt8) (bytes : List UInt8) : List (List (List UInt8)) :=
  recordsFrom delimiter OpenRecord.start (dropByteOrderMark bytes)

end TypedSheets.SheetText
