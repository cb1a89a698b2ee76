import DirectoryRoutes.Text.Numeral
import DirectoryRoutes.Text.Quoted
import DirectoryRoutes.Text.Similarity

/-! Options of a command line. A long option may carry its value after an equals sign and a short
one right after its letter; otherwise the value is the next argument. Short options may share one
dash, two dashes end the options, and a single dash is an argument like any other.
-/

namespace DirectoryRoutes.CommandLine

inductive ValueKind where
  | choice (words : List String)
  /-- The path of something that exists. -/
  | path
  | text
  | integer

/-- An option: its names, its values if it takes any, and what it is for. -/
structure OptionSpec where
  long : String
  short : Option Char := none
  value : Option ValueKind := none
  help : String

def helpOption : OptionSpec where
  long := "--help"
  help := "Show this message and exit."

namespace OptionSpec

/-- The names of an option, the long one first. -/
def names (o : OptionSpec) : List String :=
  match o.short with
  | some c => [o.long, String.ofList ['-', c]]
  | none => [o.long]

end OptionSpec

/-- Why arguments do not fit a command. -/
inductive UsageError where
  /-- No option has the name; others that are similar to it may be meant. -/
  | noSuchOption (name : String) (similar : List String)
  | valueMissing (name : String)
  | valueUnexpected (name : String)
  | invalidValue (option : OptionSpec) (reason : String)
  /-- A path holds a character that ends every path. -/
  | unusablePath
  | argumentMissing (name : String)
  | argumentsUnexpected (arguments : List String)
  /-- No command has the name; others that are similar to it may be meant. -/
  | noSuchCommand (name : String) (similar : List String)
  | commandMissing

/-- The question after a name that is not known, whether a similar one is meant. -/
def suggestion : List String → String
  | [] => ""
  | [name] => " Did you mean " ++ Text.quote name ++ "?"
  | names => " (Did you mean one of: " ++ String.intercalate ", " (names.map Text.quote) ++ "?)"

namespace UsageError

def message : UsageError → String
  | noSuchOption name similar =>
      "No such option " ++ Text.quote name ++ "." ++ suggestion similar
  | valueMissing name => "Option " ++ Text.quote name ++ " requires an argument."
  | valueUnexpected name => "Option " ++ Text.quote name ++ " does not take a value."
  | invalidValue option reason =>
      "Invalid value for "
        ++ String.intercalate " / " (option.names.map fun name => "'" ++ name ++ "'")
        ++ ": " ++ reason
  | unusablePath => "embedded null byte"
  | argumentMissing name => "Missing argument '" ++ name ++ "'."
  | argumentsUnexpected [argument] => "Got unexpected extra argument (" ++ argument ++ ")"
  | argumentsUnexpected arguments =>
      "Got unexpected extra arguments (" ++ String.intercalate " " arguments ++ ")"
  | noSuchCommand name similar =>
      "No such command " ++ Text.quote name ++ "." ++ suggestion similar
  | commandMissing => "Missing command."

/-- The usage of the command is shown with the error. -/
def showsUsage : UsageError → Bool
  | valueMissing _ | valueUnexpected _ => false
  | _ => true

end UsageError

/-- An option as it was given, with its value if it takes one. -/
structure Given where
  option : OptionSpec
  value : Option String

/-- Options in the order in which they were given, and the other arguments. -/
structure Reading where
  given : List Given := []
  arguments : List String := []

def Reading.withArgument (r : Reading) (argument : String) : Reading :=
  { r with arguments := argument :: r.arguments }

/-- What the letters behind one dash come to: the options given, and the option that still waits
for a value, with the name by which it was called.
-/
structure Bundle where
  given : List Given := []
  waiting : Option (OptionSpec × String) := none

/-- Reads the letters behind one dash. The first option that takes a value takes all letters after
its own.
-/
def readBundle (options : List OptionSpec) : List Char → Except UsageError Bundle
  | [] => .ok {}
  | letter :: letters => do
      let name := String.ofList ['-', letter]
      match options.find? (·.short = some letter) with
      | none => .error (.noSuchOption name [])
      | some o =>
          match o.value, letters with
          | none, _ =>
              let rest ← readBundle options letters
              pure { rest with given := ⟨o, none⟩ :: rest.given }
          | some _, [] => pure { waiting := some (o, name) }
          | some _, _ => pure { given := [⟨o, some (String.ofList letters)⟩] }

/-- What one argument that begins with a dash says. -/
def readDashed (options : List OptionSpec) (argument : List Char) : Except UsageError Bundle :=
  let name := String.ofList (argument.takeWhile (· ≠ '='))
  let attached :=
    match argument.dropWhile (· ≠ '=') with
    | _ :: value => some (String.ofList value)
    | [] => none
  match options.find? (·.long = name) with
  | some o =>
      match o.value, attached with
      | some _, some value => .ok { given := [⟨o, some value⟩] }
      | some _, none => .ok { waiting := some (o, name) }
      | none, some _ => .error (.valueUnexpected name)
      | none, none => .ok { given := [⟨o, none⟩] }
  | none =>
      match argument with
      | '-' :: '-' :: _ =>
          .error (.noSuchOption name (Text.similarTo name (options.map (·.long))))
      | _ => readBundle options (argument.drop 1)

/-- Reads the arguments of a command. Unless options may be mixed with other arguments, the first
other argument ends them.
-/
def readArguments (options : List OptionSpec) (mixed : Bool) : List String → Except UsageError Reading
  | [] => .ok {}
  | argument :: rest =>
      match argument.toList with
      | ['-', '-'] => .ok { arguments := rest }
      | '-' :: c :: cs => do
          let bundle ← readDashed options ('-' :: c :: cs)
          match bundle.waiting with
          | none => do
              let reading ← readArguments options mixed rest
              pure { reading with given := bundle.given ++ reading.given }
          | some (o, name) =>
              match rest with
              | [] => .error (.valueMissing name)
              | value :: rest => do
                  let reading ← readArguments options mixed rest
                  pure { reading with given := bundle.given ++ ⟨o, some value⟩ :: reading.given }
      | _ =>
          if mixed then do
            let reading ← readArguments options mixed rest
            pure (reading.withArgument argument)
          else .ok { arguments := argument :: rest }

namespace Reading

def has (r : Reading) (long : String) : Bool :=
  r.given.any (·.option.long = long)

/-- The value of an option, the last one if it was given more than once. -/
def value? (r : Reading) (long : String) : Option String :=
  (r.given.reverse.find? (·.option.long = long)).bind (·.value)

end Reading

/-- Checks the value of an option, given which paths exist. -/
def ValueKind.check (present : String → Bool) (o : OptionSpec) (value : String)
    : ValueKind → Except UsageError Unit
  | choice words =>
      if words.contains value then .ok ()
      else
        .error (.invalidValue o
          (Text.quote value ++ " is not one of "
            ++ String.intercalate ", " (words.map fun word => "'" ++ word ++ "'") ++ "."))
  | path =>
      if value.contains '\x00' then .error .unusablePath
      else if present value then .ok ()
      else .error (.invalidValue o ("Path " ++ Text.quote value ++ " does not exist."))
  | text => .ok ()
  | integer =>
      match Text.integer? value with
      | some _ => .ok ()
      | none => .error (.invalidValue o (Text.quote value ++ " is not a valid integer."))

/-- Checks the values that count, in the order in which their options were first given. -/
def Reading.check (present : String → Bool) (r : Reading) : Except UsageError Unit :=
  r.given.forM fun g =>
    match g.option.value, r.value? g.option.long with
    | some kind, some value => kind.check present g.option value
    | _, _ => .ok ()

end DirectoryRoutes.CommandLine
