/-!
# Splitting and replacing

Cutting a text at a character, taking a known beginning or end off it, and
replacing every occurrence of a pattern. All of it is structural recursion on the
characters; the functions on `String` only unpack and pack.
-/

namespace TypedSheets.Text

/-- The pieces between the separators, of which there is always at least one. -/
def splitChars (separator : Char) : List Char → List (List Char)
  | [] => [[]]
  | character :: rest =>
      if character = separator then [] :: splitChars separator rest
      else
        match splitChars separator rest with
        | [] => [[character]]
        | piece :: pieces => (character :: piece) :: pieces

/-- The pieces of a text between the separators. -/
def split (separator : Char) (text : String) : List String :=
  (splitChars separator text.toList).map String.ofList

@[simp] theorem splitChars_nil (separator : Char) : splitChars separator [] = [[]] := rfl

theorem splitChars_ne_nil (separator : Char) (characters : List Char) :
    splitChars separator characters ≠ [] := by
  cases characters with
  | nil => simp
  | cons character rest =>
      simp only [splitChars]
      split
      · simp
      · split <;> simp

/-- What is before and after the last separator, if there is one. -/
def splitLast? (separator : Char) : List Char → Option (List Char × List Char)
  | [] => none
  | character :: rest =>
      match splitLast? separator rest with
      | some (before, after) => some (character :: before, after)
      | none => if character = separator then some ([], rest) else none

/-- What is after the last separator, or everything where there is none. -/
def afterLast (separator : Char) (characters : List Char) : List Char :=
  match splitLast? separator characters with
  | some (_, after) => after
  | none => characters

/-- What follows a given beginning. -/
def stripPrefix? : List Char → List Char → Option (List Char)
  | [], characters => some characters
  | _ :: _, [] => none
  | expected :: beginning, character :: rest =>
      if expected = character then stripPrefix? beginning rest else none

/-- What precedes a given ending. -/
def stripSuffix? (ending characters : List Char) : Option (List Char) :=
  (stripPrefix? ending.reverse characters.reverse).map List.reverse

@[simp] theorem stripPrefix?_append (beginning rest : List Char) :
    stripPrefix? beginning (beginning ++ rest) = some rest := by
  induction beginning with
  | nil => rfl
  | cons character beginning ih => simp [stripPrefix?, ih]

theorem eq_append_of_stripPrefix? {beginning characters rest : List Char}
    (found : stripPrefix? beginning characters = some rest) :
    characters = beginning ++ rest := by
  induction beginning generalizing characters with
  | nil => simpa [stripPrefix?] using found
  | cons expected beginning ih =>
      cases characters with
      | nil => simp [stripPrefix?] at found
      | cons character characters =>
          simp only [stripPrefix?] at found
          split at found
          · next equal => subst equal; simp [ih found]
          · simp at found

/-- What is between an opening and a closing character, or everything where the
text does not have both. -/
def stripPair (opening closing : Char) (characters : List Char) : List Char :=
  match stripPrefix? [opening] characters with
  | none => characters
  | some rest => (stripSuffix? [closing] rest).getD characters

/-- Replace occurrences of a pattern from the left, `skip` characters of the one
just replaced being still to be passed over. -/
def replaceFrom (pattern replacement : List Char) : Nat → List Char → List Char
  | _, [] => []
  | skip + 1, _ :: rest => replaceFrom pattern replacement skip rest
  | 0, character :: rest =>
      if pattern.isPrefixOf (character :: rest) then
        replacement ++ replaceFrom pattern replacement (pattern.length - 1) rest
      else character :: replaceFrom pattern replacement 0 rest

/-- A text with every occurrence of a nonempty pattern replaced, from the left and
without overlap. -/
def replaceAll (pattern replacement text : String) : String :=
  String.ofList (replaceFrom pattern.toList replacement.toList 0 text.toList)

/-- Take a nonempty ending off as often as the characters end with it; `count`
bounds how often. -/
def dropEndings (ending : List Char) : Nat → List Char → List Char
  | 0, characters => characters
  | count + 1, characters =>
      match stripSuffix? ending characters with
      | some rest => dropEndings ending count rest
      | none => characters

/-- A text without the copies of a nonempty ending that it closes with. -/
def trimEndings (ending text : String) : String :=
  String.ofList (dropEndings ending.toList text.length text.toList)

end TypedSheets.Text
