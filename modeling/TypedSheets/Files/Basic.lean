import TypedSheets.Files.Path

/-!
# Files

The files and directories that a run can see, as a value: every path by its parts from
the root, and the working directory that relative paths start from. Operations answer
with the new state or with the reason why the path cannot be used.
-/

namespace TypedSheets

/-- Why a path cannot be used as asked. -/
inductive FileError where
  | notFound
  | notADirectory
  | isADirectory
  | alreadyThere
  | nameTooLong
  | invalidPath
  | notText
deriving DecidableEq

/-- The text of an error. -/
def FileError.message : FileError → String
  | .notFound => "No such file or directory (os error 2)"
  | .notADirectory => "Not a directory (os error 20)"
  | .isADirectory => "Is a directory (os error 21)"
  | .alreadyThere => "File exists (os error 17)"
  | .nameTooLong => "File name too long (os error 36)"
  | .invalidPath => "file name contained an unexpected NUL byte"
  | .notText => "stream did not contain valid UTF-8"

/-- The parts of a path from the root. -/
abbrev Parts := List String

/-- Files and directories. -/
structure Files where
  directories : List Parts
  contents : List (Parts × ByteArray)
  workingDirectory : Parts

namespace Files

/-- The most bytes of one part of a path. -/
def partLimit : Nat := 255

/-- The most bytes of a path, the end mark included. -/
def pathLimit : Nat := 4096

/-- An empty working directory with nothing around it. -/
def empty : Files := ⟨[["work"]], [], ["work"]⟩

/-- Whether there is a directory; the root always is one. -/
def hasDirectory (files : Files) (parts : Parts) : Bool :=
  parts == [] || files.directories.contains parts

/-- The content of a file. -/
def content? (files : Files) (parts : Parts) : Option ByteArray :=
  files.contents.lookup parts

/-- Put the content of a file in place of what was there, or at the end. -/
def putContent (parts : Parts) (content : ByteArray) :
    List (Parts × ByteArray) → List (Parts × ByteArray)
  | [] => [(parts, content)]
  | (other, held) :: contents =>
      if other = parts then (parts, content) :: contents
      else (other, held) :: putContent parts content contents

/-- Go down from a directory through directories that exist. -/
def descend (files : Files) (current : Parts) : List String → Except FileError Parts
  | [] => .ok current
  | part :: rest =>
      if part = ".." then descend files current.dropLast rest
      else if partLimit < part.utf8ByteSize then .error .nameTooLong
      else
        let next := current ++ [part]
        if files.hasDirectory next then descend files next rest
        else if (files.content? next).isSome then .error .notADirectory
        else .error .notFound

/-- What a path names. -/
inductive Place where
  | directory (parts : Parts)
  | file (parts : Parts) (content : ByteArray)
  /-- Nothing yet, in a directory that exists. -/
  | free (parts : Parts)

/-- Whether a path can only name a directory. -/
def endsAsDirectory (path : String) : Bool :=
  match path.toList.reverse with
  | '/' :: _ => true
  | '.' :: '/' :: _ => true
  | ['.'] => true
  | _ => false

/-- The directory that a path starts from. -/
def origin (files : Files) (path : String) : Parts :=
  if Path.isAbsolute path then [] else files.workingDirectory

/-- What a path names. -/
def locate (files : Files) (path : String) : Except FileError Place :=
  if path = "" then .error .notFound
  else if path.toList.contains '\x00' then .error .invalidPath
  else if pathLimit ≤ path.utf8ByteSize then .error .nameTooLong
  else
    let parts := Path.components path
    match parts.getLast? with
    | none => .ok (.directory (files.origin path))
    | some last =>
        match files.descend (files.origin path) parts.dropLast with
        | .error error => .error error
        | .ok directory =>
            if last = ".." then .ok (.directory directory.dropLast)
            else if partLimit < last.utf8ByteSize then .error .nameTooLong
            else
              let whole := directory ++ [last]
              if files.hasDirectory whole then .ok (.directory whole)
              else
                match files.content? whole with
                | some content =>
                    if endsAsDirectory path then .error .notADirectory else .ok (.file whole content)
                | none => .ok (.free whole)

/-- Whether a path names a file. -/
def isFile (files : Files) (path : String) : Bool :=
  match files.locate path with
  | .ok (.file _ _) => true
  | _ => false

/-- The bytes of a file. -/
def read (files : Files) (path : String) : Except FileError ByteArray :=
  match files.locate path with
  | .ok (.file _ content) => .ok content
  | .ok (.directory _) => .error .isADirectory
  | .ok (.free _) => .error .notFound
  | .error error => .error error

/-- The text of a file. -/
def readText (files : Files) (path : String) : Except FileError String :=
  match files.read path with
  | .error error => .error error
  | .ok content =>
      match String.fromUTF8? content with
      | some text => .ok text
      | none => .error .notText

/-- Write a file, which is made if need be. -/
def write (files : Files) (path : String) (content : ByteArray) : Except FileError Files :=
  let put := fun parts : Parts =>
    { files with contents := putContent parts content files.contents }
  match files.locate path with
  | .ok (.file parts _) => .ok (put parts)
  | .ok (.free parts) => if endsAsDirectory path then .error .isADirectory else .ok (put parts)
  | .ok (.directory _) => .error .isADirectory
  | .error error => .error error

/-- Write a file of text. -/
def writeText (files : Files) (path text : String) : Except FileError Files :=
  files.write path text.toUTF8

/-- Remove a file. -/
def remove (files : Files) (path : String) : Except FileError Files :=
  match files.locate path with
  | .ok (.file parts _) =>
      .ok { files with contents := files.contents.filter fun entry => entry.1 != parts }
  | .ok (.directory _) => .error .isADirectory
  | .ok (.free _) => .error .notFound
  | .error error => .error error

/-- Go down from a directory, making the directories that are missing. -/
def makeDown (files : Files) (current : Parts) : List String → Except FileError Files
  | [] => .ok files
  | part :: rest =>
      if part = ".." then makeDown files current.dropLast rest
      else if partLimit < part.utf8ByteSize then .error .nameTooLong
      else
        let next := current ++ [part]
        if files.hasDirectory next then makeDown files next rest
        else if (files.content? next).isSome then
          .error (if rest = [] then .alreadyThere else .notADirectory)
        else makeDown { files with directories := files.directories ++ [next] } next rest

/-- Make a directory and those it lies in, as far as they are missing. -/
def makeDirectories (files : Files) (path : String) : Except FileError Files :=
  if path.toList.contains '\x00' then .error .invalidPath
  else if pathLimit ≤ path.utf8ByteSize then .error .nameTooLong
  else makeDown files (files.origin path) (Path.components path)

/-- The name of a path directly in a directory. -/
def childOf? (directory parts : Parts) : Option String :=
  match parts.getLast? with
  | some last => if parts.dropLast = directory then some last else none
  | none => none

/-- The files directly in a directory with their contents, by ascending name. -/
def filesIn (files : Files) (path : String) : Except FileError (List (String × ByteArray)) :=
  match files.locate path with
  | .ok (.directory directory) =>
      let found := files.contents.filterMap fun (parts, content) =>
        (childOf? directory parts).map fun name => (name, content)
      .ok (found.mergeSort fun left right => !decide (right.1 < left.1))
  | .ok (.file _ _) => .error .notADirectory
  | .ok (.free _) => .error .notFound
  | .error error => .error error

/-- The parts of a path below a directory. -/
def below? : Parts → Parts → Option Parts
  | [], parts => some parts
  | _ :: _, [] => none
  | expected :: directory, part :: parts =>
      if expected = part then below? directory parts else none

/-- All files below a directory with their contents, in the order of their parts. -/
def tree (files : Files) (directory : Parts) : List (Parts × ByteArray) :=
  let found := files.contents.filterMap fun (parts, content) =>
    (below? directory parts).map fun rest => (rest, content)
  found.mergeSort fun left right => !Path.lessParts right.1 left.1

/-- All files below the directory that a path names; none where it names none. -/
def treeAt (files : Files) (path : String) : List (Parts × ByteArray) :=
  match files.locate path with
  | .ok (.directory directory) => files.tree directory
  | _ => []

/-- Write a file after making the directories it lies in. -/
def place (files : Files) (path : String) (content : ByteArray) : Except FileError Files :=
  match files.makeDirectories (Path.parent path) with
  | .ok files => files.write path content
  | .error error => .error error

/-- A file holds what was last put into it. -/
theorem lookup_putContent (parts other : Parts) (content : ByteArray)
    (contents : List (Parts × ByteArray)) :
    (putContent parts content contents).lookup other
      = if other = parts then some content else contents.lookup other := by
  induction contents with
  | nil =>
      by_cases same : other = parts <;> simp [putContent, same]
  | cons entry contents ih =>
      obtain ⟨key, held⟩ := entry
      simp only [putContent]
      by_cases here : key = parts
      · subst here
        by_cases same : other = key
        · subst same; simp
        · simp [List.lookup_cons, same, beq_eq_false_iff_ne.mpr same]
      · by_cases same : other = key
        · subst same; simp [here]
        · simp [List.lookup_cons, here, beq_eq_false_iff_ne.mpr same, ih]

end Files

end TypedSheets
