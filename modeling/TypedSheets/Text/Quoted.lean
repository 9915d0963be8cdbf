import TypedSheets.Text.Class

/-!
# Texts in descriptions

A text between quotes as one-line descriptions show it: quotes, backslashes and
characters without a shape of their own are escaped.
-/

namespace TypedSheets.Text

/-- How a character stands between quotes in a description. -/
def describeChar (character : Char) : List Char :=
  if character = '"' then ['\\', '"']
  else if character = '\\' then ['\\', '\\']
  else if character = '\n' then ['\\', 'n']
  else if character = '\r' then ['\\', 'r']
  else if character = '\t' then ['\\', 't']
  else if character = '\x00' then ['\\', '0']
  else if isConcealed character then
    ['\\', 'u', '\x7b'] ++ Nat.toDigits 16 character.toNat ++ ['\x7d']
  else [character]

/-- A text between quotes. -/
def describe (text : String) : String :=
  String.ofList ('"' :: text.toList.flatMap describeChar ++ ['"'])

/-- Texts between quotes in brackets. -/
def describeList (texts : List String) : String :=
  "[" ++ ", ".intercalate (texts.map describe) ++ "]"

end TypedSheets.Text
