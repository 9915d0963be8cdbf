import TypedSheets.Text.Split

/-!
# Arguments

Options and operands of a command line. An option has a long name and perhaps a letter;
its value is the next argument or follows an equals sign or the letter.

    --config a.json    --config=a.json    -c a.json    -ca.json    -c=a.json

Two dashes alone end the options.
-/

namespace TypedSheets.Command

/-- An option that a command takes. -/
structure OptionSpec where
  name : String
  letter : Option Char
  /-- Whether a value belongs to the option. -/
  takesValue : Bool
deriving DecidableEq

/-- Why arguments cannot be used. -/
inductive UsageError where
  | helpRequested
  | unknownArgument (argument : String)
  | missingValue (option : String)
  | unexpectedValue (option : String)
  | repeatedOption (option : String)
  | missingArgument
deriving DecidableEq

/-- The text of an error. -/
def UsageError.message : UsageError → String
  | .helpRequested => ""
  | .unknownArgument argument => "unexpected argument '" ++ argument ++ "' found"
  | .missingValue option => "a value is required for '--" ++ option ++ "'"
  | .unexpectedValue option => "unexpected value for '--" ++ option ++ "'"
  | .repeatedOption option => "the argument '--" ++ option ++ "' cannot be used multiple times"
  | .missingArgument => "a required argument is missing"

/-- What an argument is. -/
inductive Argument where
  | operand
  | endOfOptions
  | option (spec : OptionSpec) (value : Option String)
  | invalid (error : UsageError)

/-- The option that an equals sign or a value may follow. -/
def withValue (spec : OptionSpec) (value : Option String) : Argument :=
  if spec.takesValue ∨ value.isNone then .option spec value
  else .invalid (.unexpectedValue spec.name)

/-- What a long option is, given what follows its two dashes. -/
def classifyLong (specs : List OptionSpec) (argument : String) (rest : List Char) : Argument :=
  let name := String.ofList (rest.takeWhile (· ≠ '='))
  let value :=
    match rest.dropWhile (· ≠ '=') with
    | '=' :: value => some (String.ofList value)
    | _ => none
  if name = "help" then .invalid .helpRequested
  else
    match specs.find? fun spec => spec.name == name with
    | some spec => withValue spec value
    | none => .invalid (.unknownArgument argument)

/-- What a letter is with what follows it. -/
def classifyLetter (specs : List OptionSpec) (argument : String) (letter : Char)
    (rest : List Char) : Argument :=
  let value :=
    match rest with
    | [] => none
    | '=' :: value => some (String.ofList value)
    | value => some (String.ofList value)
  if letter = 'h' then .invalid .helpRequested
  else
    match specs.find? fun spec => spec.letter == some letter with
    | some spec => withValue spec value
    | none => .invalid (.unknownArgument argument)

/-- What an argument is. A dash alone is an operand. -/
def classify (specs : List OptionSpec) (argument : String) : Argument :=
  match argument.toList with
  | ['-', '-'] => .endOfOptions
  | '-' :: '-' :: rest => classifyLong specs argument rest
  | '-' :: letter :: rest => classifyLetter specs argument letter rest
  | _ => .operand

/-- Whether an argument cannot be the value of an option before it. -/
def looksLikeOption (argument : String) : Bool :=
  match argument.toList with
  | '-' :: _ :: _ => true
  | _ => false

/-- Options with their values, and operands. -/
structure Arguments where
  options : List (String × String)
  operands : List String

namespace Arguments

/-- The value of an option. -/
def value? (arguments : Arguments) (name : String) : Option String :=
  arguments.options.lookup name

/-- Whether an option is given. -/
def has (arguments : Arguments) (name : String) : Bool :=
  (arguments.value? name).isSome

/-- Put an option in front. -/
def addOption (name value : String) (arguments : Arguments) : Except UsageError Arguments :=
  if arguments.has name then .error (.repeatedOption name)
  else .ok { arguments with options := (name, value) :: arguments.options }

/-- Put an operand in front. -/
def addOperand (operand : String) (arguments : Arguments) : Arguments :=
  { arguments with operands := operand :: arguments.operands }

/-- The options and operands of a command line. With `leading`, what stands from the
first operand on is left as it is. -/
def read (leading : Bool) (specs : List OptionSpec) : List String → Except UsageError Arguments
  | [] => .ok ⟨[], []⟩
  | argument :: rest =>
      match classify specs argument with
      | .operand =>
          if leading then .ok ⟨[], argument :: rest⟩
          else (read leading specs rest).map (addOperand argument)
      | .endOfOptions => if leading then .error (.unknownArgument argument) else .ok ⟨[], rest⟩
      | .invalid error => .error error
      | .option spec (some value) => (read leading specs rest).bind (addOption spec.name value)
      | .option spec none =>
          if spec.takesValue then
            match rest with
            | [] => .error (.missingValue spec.name)
            | value :: rest =>
                if looksLikeOption value then .error (.missingValue spec.name)
                else (read leading specs rest).bind (addOption spec.name value)
          else (read leading specs rest).bind (addOption spec.name "")

end Arguments

end TypedSheets.Command
