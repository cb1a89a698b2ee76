import DirectoryRoutes.CommandLine.Help
import DirectoryRoutes.Config

/-! The program's commands and what its arguments ask for. -/

namespace DirectoryRoutes.CommandLine

def programName : String :=
  "approute"

def programSummary : String :=
  "Approute - route segments for directory-based routers."

def configOption : OptionSpec where
  long := "--config"
  short := 'c'
  value := some .path
  help := "Path to configuration file (default: auto-discover approute.toml)"

def verboseOption : OptionSpec where
  long := "--verbose"
  short := 'v'
  help := "Enable debug logging"

def typeOption : OptionSpec where
  long := "--type"
  value := some (.choice pageTypeChoices)
  help := "Terminal marker to append (overrides config, default: page)"

def jsonOption : OptionSpec where
  long := "--json"
  help := "Print page and path segments as JSON"

def hostOption : OptionSpec where
  long := "--host"
  value := some .text
  help := "Host to bind to (overrides config)"

def portOption : OptionSpec where
  long := "--port"
  short := 'p'
  value := some .integer
  help := "Port to bind to (overrides config)"

def parseCommand : Command where
  name := "parse"
  summary := "Parse a route PATH into its page and URL path."
  options := [typeOption, jsonOption, configOption, verboseOption]
  argument := "PATH"

def serveCommand : Command where
  name := "serve"
  summary := "Start the routes API server."
  options := [configOption, hostOption, portOption, verboseOption]

/-- The commands in the order in which they are listed. -/
def commands : List Command :=
  [parseCommand, serveCommand]

def programUsage : String :=
  "Usage: " ++ programName ++ " [OPTIONS] COMMAND [ARGS]..."

def programHelp : String :=
  programUsage ++ "\n\n  " ++ programSummary ++ "\n\n"
    ++ entries "Options" [(helpOption.term, helpOption.help)] ++ "\n"
    ++ entries "Commands" (commands.map fun c => (c.name, c.summary))

/-- What the command that shows a route is asked for. -/
structure ParseRequest where
  path : String
  /-- The word that chooses the marker. -/
  pageType : Option String := none
  json : Bool := false
  config : Option String := none
  verbose : Bool := false
deriving DecidableEq, Repr

/-- What the command that answers requests is asked for. -/
structure ServeRequest where
  config : Option String := none
  host : Option String := none
  port : Option Int := none
  verbose : Bool := false
deriving DecidableEq, Repr

inductive Invocation where
  | help (text : String)
  | parse (request : ParseRequest)
  | serve (request : ServeRequest)

/-- An error and the command that the arguments were for, if they came to one. -/
structure UsageFault where
  error : UsageError
  command : Option Command

/-- The arguments of a command beside its options; one that takes none refuses them all. -/
def Reading.noArguments (r : Reading) : Except UsageError Unit :=
  match r.arguments with
  | [] => .ok ()
  | arguments => .error (.argumentsUnexpected arguments)

/-- What the arguments of the command that shows a route ask for. -/
def readParse (present : String → Bool) (arguments : List String)
    : Except UsageError Invocation := do
  let r ← readArguments parseCommand.allOptions true arguments
  if r.has helpOption.long then pure (.help (parseCommand.helpText programName))
  else
    r.check present
    match r.arguments with
    | [] => throw (.argumentMissing "PATH")
    | [path] =>
        pure (.parse
          { path
            pageType := r.value? typeOption.long
            json := r.has jsonOption.long
            config := r.value? configOption.long
            verbose := r.has verboseOption.long })
    | _ :: more => throw (.argumentsUnexpected more)

/-- What the arguments of the command that answers requests ask for. -/
def readServe (present : String → Bool) (arguments : List String)
    : Except UsageError Invocation := do
  let r ← readArguments serveCommand.allOptions true arguments
  if r.has helpOption.long then pure (.help (serveCommand.helpText programName))
  else
    r.check present
    r.noArguments
    pure (.serve
      { config := r.value? configOption.long
        host := r.value? hostOption.long
        port := (r.value? portOption.long).bind Text.integer?
        verbose := r.has verboseOption.long })

/-- An error in the arguments of a command. -/
def within {α : Type} (command : Option Command) (result : Except UsageError α)
    : Except UsageFault α :=
  result.mapError fun error => ⟨error, command⟩

/-- What the program's arguments ask for. A name that is no command may still be an option of the
program itself.
-/
def readInvocation (present : String → Bool) (arguments : List String)
    : Except UsageFault Invocation := do
  let r ← within none (readArguments [helpOption] false arguments)
  if r.has helpOption.long then pure (.help programHelp)
  else
    match r.arguments with
    | [] => throw ⟨.commandMissing, none⟩
    | name :: rest =>
        if name = parseCommand.name then within (some parseCommand) (readParse present rest)
        else if name = serveCommand.name then within (some serveCommand) (readServe present rest)
        else
          let again ← within none (readArguments [helpOption] false r.arguments)
          if again.has helpOption.long then pure (.help programHelp)
          else
            let similar := Text.similarTo name (commands.map (·.name))
            throw ⟨.noSuchCommand name similar, none⟩

end DirectoryRoutes.CommandLine
