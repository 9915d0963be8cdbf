import TypedSheets.Files.Basic
import TypedSheets.Settings.Encoding

/-!
# Configuration files

Reading a configuration from a file, whose directory the relative paths of its sources
start from.
-/

namespace TypedSheets

/-- The configuration in a file. -/
def Config.load (files : Files) (path : String) : Except ConfigError Config :=
  match files.readText path with
  | .error error => .error (.unreadable error.message)
  | .ok text => (Config.read text).map (Config.relativeTo (Path.parent path))

end TypedSheets
