import TypedSheets.Files.Basic
import TypedSheets.Text.Blank
import TypedSheets.Text.Class
import TypedSheets.Text.Utf8

/-!
# Environment variables

Variables by name, and the files of assignments that add to them. A variable that is
set keeps its value; an assignment may refer to variables set before it.

    NAME=value            space around the value and a comment after it left out
    export NAME="a b"     quoted, with escapes and references
    NAME='a $b'           quoted, as it stands
-/

namespace TypedSheets

/-- Variables with their values. -/
structure Environment where
  entries : List (String × String)

namespace Environment

/-- The value of a variable. -/
def get? (environment : Environment) (name : String) : Option String :=
  environment.entries.lookup name

/-- Give a variable a value unless it has one. -/
def setDefault (environment : Environment) (name value : String) : Environment :=
  if (environment.get? name).isSome then environment
  else ⟨environment.entries ++ [(name, value)]⟩

/-! ## Lines of a file of assignments -/

/-- Where the characters read so far end. -/
inductive LineState where
  | complete
  | afterSpace
  | escape
  | double
  | doubleEscape
  | single
  | singleEscape
  | comment
deriving DecidableEq

/-- The state after one more character. -/
def LineState.next (state : LineState) (character : Char) : LineState :=
  let opened : LineState :=
    match character with
    | '\\' => .escape
    | '"' => .double
    | '\'' => .single
    | _ => .complete
  match state with
  | .complete =>
      if Text.isBlank character ∧ character ≠ '\n' ∧ character ≠ '\r' then .afterSpace else opened
  | .afterSpace => if character = '#' then .comment else opened
  | .escape => .complete
  | .double =>
      match character with
      | '\\' => .doubleEscape
      | '"' => .complete
      | _ => .double
  | .doubleEscape => .double
  | .single =>
      match character with
      | '\\' => .singleEscape
      | '\'' => .complete
      | _ => .single
  | .singleEscape => .single
  | .comment => .comment

/-- The state after a line, and how many of its characters stand before a comment. -/
def LineState.scan (state : LineState) : List Char → LineState × Nat
  | [] => (state, 0)
  | character :: rest =>
      match state.next character with
      | .comment => (.comment, 0)
      | other =>
          let (final, count) := LineState.scan other rest
          (final, count + 1)

/-- The lines of bytes, each with its line feed. -/
def byteLines : List UInt8 → List (List UInt8)
  | [] => []
  | byte :: rest =>
      if byte = 0x0A then [byte] :: byteLines rest
      else
        match byteLines rest with
        | [] => [[byte]]
        | line :: lines => (byte :: line) :: lines

/-- The lines of a file, a mark of the encoding at its beginning left out. `none` stands
for a line that is not text. -/
def physicalLines (content : ByteArray) : List (Option (List Char)) :=
  let bytes :=
    match content.data.toList with
    | 0xEF :: 0xBB :: 0xBF :: rest => rest
    | all => all
  (byteLines bytes).map fun line => (Text.Utf8.decode? line).map String.toList

/-- A line without its end. -/
def withoutEnd (line : List Char) : List Char :=
  match line.reverse with
  | '\n' :: '\r' :: rest => rest.reverse
  | '\n' :: rest => rest.reverse
  | _ => line

/-- The lines of assignments: those that a quotation or an escape leaves open go on
with the next line, and a comment cuts off what follows. `none` stands for a line that
is not text or is open at the end. -/
def logicalLines (state : LineState) (pending : List Char) :
    List (Option (List Char)) → List (Option (List Char))
  | [] => if state = .complete then [] else [none]
  | none :: _ => [none]
  | some line :: lines =>
      let whole := pending ++ line
      if (Text.trimStart whole).head? = some '#' then
        some [] :: logicalLines .complete [] lines
      else
        match state.scan line with
        | (.complete, _) => some (withoutEnd whole) :: logicalLines .complete [] lines
        | (.comment, count) => some (pending ++ line.take count) :: logicalLines .complete [] lines
        | (unfinished, _) => logicalLines unfinished whole lines

/-! ## Values -/

/-- Where a value is being read. -/
inductive ValueState where
  | plain (quoted : Bool)
  | single
  | escaped (quoted : Bool)
  /-- In a reference; the name is reversed. -/
  | name (quoted : Bool) (reversed : List Char)
  /-- In a reference between braces; the name is reversed. -/
  | braced (quoted : Bool) (reversed : List Char)
  | ended

/-- What a reference stands for; nothing for a variable that is not set. -/
def reference (environment : Environment) (reversed : List Char) : List Char :=
  ((environment.get? (String.ofList reversed.reverse)).getD "").toList

/-- The value that characters denote from a state on. -/
def readValue? (environment : Environment) : ValueState → List Char → Option (List Char)
  | .plain quoted, [] => if quoted then none else some []
  | .escaped quoted, [] => if quoted then none else some []
  | .name quoted reversed, [] => if quoted then none else some (environment.reference reversed)
  | .single, [] | .braced _ _, [] => none
  | .ended, [] => some []
  | .ended, character :: rest =>
      if character = ' ' ∨ character = '\t' then readValue? environment .ended rest
      else if character = '#' then some []
      else none
  | .escaped quoted, character :: rest =>
      if character ∈ ['\\', '\'', '"', '$', ' '] then
        (readValue? environment (.plain quoted) rest).map (character :: ·)
      else if character = 'n' then (readValue? environment (.plain quoted) rest).map ('\n' :: ·)
      else none
  | .single, character :: rest =>
      if character = '\'' then readValue? environment (.plain false) rest
      else (readValue? environment .single rest).map (character :: ·)
  | .name quoted reversed, character :: rest =>
      if Text.isAlphanumeric character then
        readValue? environment (.name quoted (character :: reversed)) rest
      else if character = '\x7b' ∧ reversed = [] then readValue? environment (.braced quoted []) rest
      else
        let value := environment.reference reversed
        if character = '$' then (readValue? environment (.name quoted []) rest).map (value ++ ·)
        else (readValue? environment (.plain quoted) rest).map fun after => value ++ character :: after
  | .braced quoted reversed, character :: rest =>
      if character = '\x7d' then
        (readValue? environment (.plain quoted) rest).map (environment.reference reversed ++ ·)
      else readValue? environment (.braced quoted (character :: reversed)) rest
  | .plain quoted, character :: rest =>
      if character = '$' then readValue? environment (.name quoted []) rest
      else if character = '"' then readValue? environment (.plain !quoted) rest
      else if character = '\\' then readValue? environment (.escaped quoted) rest
      else if quoted then (readValue? environment (.plain true) rest).map (character :: ·)
      else if character = '\'' then readValue? environment .single rest
      else if character = ' ' ∨ character = '\t' then readValue? environment .ended rest
      else (readValue? environment (.plain false) rest).map (character :: ·)

/-! ## Assignments -/

/-- A name at the beginning of characters and what follows it after space. -/
def readName? (characters : List Char) : Option (List Char × List Char) :=
  let inName := fun character : Char => character.isAlphanum || character == '_' || character == '.'
  match characters with
  | first :: _ =>
      if first.isAlpha || first == '_' then
        some (characters.takeWhile inName, Text.trimStart (characters.dropWhile inName))
      else none
  | [] => none

/-- The name of an assignment and what follows the equals sign. A word for exporting
may stand before the name. -/
def readTarget? (characters : List Char) : Option (List Char × List Char) :=
  match readName? characters with
  | some (name, '=' :: rest) => some (name, rest)
  | some (name, rest) =>
      if name = "export".toList then
        match readName? rest with
        | some (name, '=' :: rest) => some (name, rest)
        | _ => none
      else none
  | none => none

/-- What a line assigns: nothing where it is blank or a comment. The outer `none` is
an error. -/
def readAssignment? (environment : Environment) (line : List Char) :
    Option (Option (String × String)) :=
  let line := Text.trimStart (Text.trimEnd line)
  if line = [] ∨ line.head? = some '#' then some none
  else do
    let (name, rest) ← readTarget? line
    let value := Text.trimStart rest
    let text ← if value = [] ∨ value.head? = some '#' then some []
      else readValue? environment (.plain false) value
    some (some (String.ofList name, String.ofList text))

/-- Take over assignments up to the first line that is none. -/
def assignAll (environment : Environment) : List (Option (List Char)) → Environment
  | [] => environment
  | none :: _ => environment
  | some line :: lines =>
      match environment.readAssignment? line with
      | none => environment
      | some none => assignAll environment lines
      | some (some (name, value)) => assignAll (environment.setDefault name value) lines

/-- Take over the assignments in a file. -/
def load (environment : Environment) (content : ByteArray) : Environment :=
  environment.assignAll (logicalLines .complete [] (physicalLines content))

/-- The name of a file of assignments. -/
def fileName : String := ".env"

/-- The file of assignments in a directory or, if it has none, in the nearest directory
above; the directory is given by its reversed parts. -/
def findFile? (files : Files) : List String → Option ByteArray
  | [] => files.content? [fileName]
  | part :: above =>
      match files.content? ((part :: above).reverse ++ [fileName]) with
      | some content => some content
      | none => findFile? files above

/-- The variables with those of the file of assignments that applies to the working
directory. -/
def extended (environment : Environment) (files : Files) : Environment :=
  match findFile? files files.workingDirectory.reverse with
  | some content => environment.load content
  | none => environment

end Environment

end TypedSheets
