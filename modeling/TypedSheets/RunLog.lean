/-!
# Run logs

The messages of a conversion in the order in which they came up, each with a level,
and their rendering as lines.
-/

namespace TypedSheets

/-- How important a message is. -/
inductive LogLevel where
  | info
  | success
  | warning
  | error
deriving DecidableEq

namespace LogLevel

/-- The two characters that mark a level. -/
def marker : LogLevel → String
  | .info => "  "
  | .success => "ok"
  | .warning => "!!"
  | .error => "xx"

/-- Whether a message of a level reports a problem. -/
def isProblem : LogLevel → Bool
  | .warning | .error => true
  | .info | .success => false

end LogLevel

/-- One message. -/
structure LogEntry where
  level : LogLevel
  message : String
  indent : Nat
deriving DecidableEq

namespace LogEntry

def info (message : String) : LogEntry := ⟨.info, message, 0⟩
def success (message : String) : LogEntry := ⟨.success, message, 0⟩
def warning (message : String) : LogEntry := ⟨.warning, message, 0⟩
def error (message : String) : LogEntry := ⟨.error, message, 0⟩

@[simp] theorem level_info (message : String) : (info message).level = .info := rfl
@[simp] theorem level_success (message : String) : (success message).level = .success := rfl
@[simp] theorem level_warning (message : String) : (warning message).level = .warning := rfl
@[simp] theorem level_error (message : String) : (error message).level = .error := rfl

/-- The line of a message: its marker between brackets, two spaces for each step of
indentation, and the text. -/
def render (entry : LogEntry) : String :=
  "[" ++ entry.level.marker ++ "] " ++ String.ofList (List.replicate (2 * entry.indent) ' ')
    ++ entry.message

end LogEntry

/-- The messages of a run. -/
abbrev RunLog := List LogEntry

namespace RunLog

/-- How many messages report a problem. -/
def problemCount (log : RunLog) : Nat :=
  (log.filter fun entry => entry.level.isProblem).length

end RunLog

end TypedSheets
