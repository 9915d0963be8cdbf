import Std.Time.DateTime.Timestamp
import TypedSheets.Command.Reach
import TypedSheets.Timestamp

/-!
# The command line program

Reads what a command line reaches, runs the command on it, and writes back what the
command changed.
-/

namespace TypedSheets.Outside

/-- The path of a file or directory. -/
def pathOf (parts : Parts) : String := "/" ++ "/".intercalate parts

/-- Take over what lies on a path that goes down from a directory. -/
def observeDown (files : Files) (current : Parts) : List String → IO Files
  | [] => return files
  | part :: rest => do
      if part = ".." then observeDown files current.dropLast rest
      else
        let next := current ++ [part]
        let place := (← IO.currentDir) / pathOf next
        if ← place.isDir then
          let known := files.hasDirectory next
          observeDown (if known then files else { files with directories := files.directories ++ [next] })
            next rest
        else
          match ← (IO.FS.readBinFile place).toBaseIO with
          | .ok content => return { files with contents := Files.putContent next content files.contents }
          | .error _ => return files

/-- Take over what lies on a path. -/
def observe (files : Files) (path : String) : IO Files :=
  observeDown files (files.origin path) (Path.components path)

/-- Take over a directory with the assets in it. -/
def observeStore (files : Files) (path : String) : IO Files := do
  let files ← observe files path
  match files.locate path with
  | .ok (.directory parts) =>
      let entries ← ((← IO.currentDir) / pathOf parts).readDir
      let assets := entries.filter fun entry => Path.extension? entry.fileName == some "json"
      assets.foldlM (fun files entry => observe files (pathOf (parts ++ [entry.fileName]))) files
  | _ => return files

/-- The working directory with the files of assignments in it and above it. -/
def surroundings : IO Files := do
  let directory := Path.components (← IO.currentDir).toString
  let files ← observeDown ⟨[], [], directory⟩ [] directory
  let above := (List.range (directory.length + 1)).map directory.take
  above.foldlM (fun files parts => observe files (pathOf (parts ++ [Environment.fileName]))) files

/-- The variables of some names that are set. -/
def environmentOf (names : List String) : IO Environment := do
  let found ← names.filterMapM fun name => do
    return (← IO.getEnv name).map fun value => (name, value)
  return ⟨found⟩

/-- The nanoseconds since the beginning of 1970. -/
def clock : IO Nat := do
  return (← Std.Time.Timestamp.now).toNanosecondsSinceUnixEpoch.val.toNat

/-- Write back what changed. -/
def apply (before after : Files) : IO Unit := do
  for parts in after.directories do
    unless before.hasDirectory parts do IO.FS.createDirAll (pathOf parts)
  for (parts, content) in after.contents do
    unless (before.content? parts).any (·.data == content.data) do
      IO.FS.writeBinFile (pathOf parts) content
  for (parts, _) in before.contents do
    unless (after.content? parts).isSome do IO.FS.removeFile (pathOf parts)

/-- Take over everything that a command line reaches. -/
def reached (context : Command.Context) (arguments : List String) (files : Files) : IO Files := do
  match Command.parse arguments with
  | .error _ => return files
  | .ok command =>
      let files ← command.paths.foldlM observe files
      let files ← command.store?.toList.foldlM observeStore files
      (Command.pathsOfConfig context command files).foldlM observe files

/-- Run a command line and answer with its exit code. -/
def runCommand (arguments : List String) : IO UInt32 := do
  let around ← surroundings
  let content := (Environment.findFile? around around.workingDirectory.reverse).getD .empty
  let words := Environment.words (Text.Utf8.decode content).toList
  let environment ← environmentOf (Command.templateVariable :: words)
  let now := Timestamp.render (← clock)
  let before ← reached ⟨environment.extended around, now⟩ arguments around
  let execution := Command.execute ⟨environment, now⟩ arguments before
  apply before execution.files
  (← IO.getStdout).putStr execution.output
  (← IO.getStderr).putStr execution.messages
  return UInt32.ofNat execution.code

end TypedSheets.Outside

def main (arguments : List String) : IO UInt32 :=
  TypedSheets.Outside.runCommand arguments
