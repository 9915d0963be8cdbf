import TypedSheets.Files.Basic

/-!
# Consoles

What a command has done so far: the files as it left them, its output and its messages.
A job may stop with an error and keeps what was done up to there.
-/

namespace TypedSheets.Command

/-- Files, output and messages. -/
structure Console where
  files : Files
  output : String
  messages : String

/-- A part of a command that may stop with the text of an error. -/
abbrev Job (α : Type) := ExceptT String (StateM Console) α

namespace Job

/-- The files as they are. -/
def files : Job Files := return (← get).files

/-- Put other files in place. -/
def setFiles (files : Files) : Job Unit :=
  modify fun console => { console with files }

/-- Write a line of output. -/
def print (line : String) : Job Unit :=
  modify fun console => { console with output := console.output ++ line ++ "\n" }

/-- Write a line of messages. -/
def note (line : String) : Job Unit :=
  modify fun console => { console with messages := console.messages ++ line ++ "\n" }

/-- The value of a result; its error stops the job. -/
def succeed {ε α : Type} (message : ε → String) : Except ε α → Job α
  | .ok value => return value
  | .error error => throw (message error)

/-- Make a directory and those it lies in. -/
def makeDirectories (path : String) : Job Unit := do
  setFiles (← succeed FileError.message ((← files).makeDirectories path))

/-- Write a file of text. -/
def writeFile (path text : String) : Job Unit := do
  setFiles (← succeed FileError.message ((← files).writeText path text))

end Job

/-- A text with spaces after it up to a number of characters. -/
def padded (width : Nat) (text : String) : String :=
  text ++ String.ofList (List.replicate (width - text.length) ' ')

end TypedSheets.Command
