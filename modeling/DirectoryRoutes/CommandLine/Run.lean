import DirectoryRoutes.CommandLine.Invocation
import DirectoryRoutes.Config.Load
import DirectoryRoutes.Event
import DirectoryRoutes.Json.Printer

/-! Running the program: what it prints, how it ends, and the settings with which it is to answer
requests. What a machine shows of a message that is printed is left to the machine.
-/

namespace DirectoryRoutes.CommandLine

/-- What the program relies on in the machine that runs it. -/
structure Machine where
  /-- The room for what is nested in a document. -/
  nestingRoom : Nat
  /-- What is shown of a message that is printed. -/
  output : String → String
  /-- What is shown of a message that is printed for diagnosis. -/
  errors : String → String

/-- A machine that shows every text as it is. -/
def Machine.verbatim (nestingRoom : Nat) : Machine where
  nestingRoom
  output := id
  errors := id

/-- A piece of what is printed for diagnosis. -/
inductive Notice where
  | message (s : String)
  | event (e : Event)

/-- A notice in print; an event comes with the time at which it happened, and as it is. -/
def Notice.render (machine : Machine) (time : String) : Notice → String
  | message s => machine.errors s
  | event e => time ++ " - " ++ e.source ++ " - " ++ e.level ++ " - " ++ e.message ++ "\n"

/-- Why a run ends without a word about it. -/
inductive Crash where
  | load (reason : LoadError)
  | override (reason : SettingError)
  /-- The path of a document is none. -/
  | unusablePath
  /-- The port has more digits than are written. -/
  | overlongPort

def Crash.message : Crash → String
  | load reason => reason.message
  | override reason => reason.message
  | unusablePath => UsageError.unusablePath.message
  | overlongPort => "the port has too many digits"

/-- How a run ends. -/
structure Outcome where
  exitCode : Nat := 0
  output : String := ""
  notices : List Notice := []
  /-- The failure that no notice describes, if there is one. -/
  crash : Option Crash := none
  /-- The settings with which requests are to be answered. -/
  serving : Option Config := none

/-- Events are shown when the run is verbose. -/
def shown (verbose : Bool) (events : List Event) : List Notice :=
  if verbose then events.map .event else []

def failure (before : List Notice) (message : String) : Outcome where
  exitCode := 1
  notices := before ++ [.message ("Error: " ++ message ++ "\n")]

/-- The end of a run without usable settings. A directory in the place of a document is not
described, nor is a document that cannot be found or one that is nested too deeply.
-/
def loadFailure (e : LoadError) : Outcome :=
  match e with
  | .isDirectory | .notFound _ | .overlongName _ | .notToml ⟨.tooDeep, _⟩ _ =>
      { exitCode := 1, crash := some (.load e) }
  | _ => failure [] ("invalid configuration: " ++ e.message)

def requestedPage (path : String) (marker : Option Marker) : Except SegmentError Page :=
  Page.parse path >>= (·.appendMarker marker)

def describe (page : Page) : Data :=
  .record
    [("page", .text page.render),
     ("path", .text page.urlPath.render),
     ("segments", .list (page.segments.map Segment.toData))]

def printed (machine : Machine) (json : Bool) (page : Page) : String :=
  if json then machine.output (Json.write .indented (describe page) ++ "\n")
  else
    machine.output ("Page: " ++ page.render ++ "\n")
      ++ machine.output ("Path: " ++ page.urlPath.render ++ "\n")

/-- Goes on with the settings that a document and the arguments make up. Overrides are checked
before the run, so that one that fails is not described.
-/
def withSettings (machine : Machine) (fs : FileSystem) (workingDirectory : Place)
    (config : Option String) (overrides : Config.Overrides) (next : Config → Outcome)
    : Outcome :=
  match Config.load machine.nestingRoom fs workingDirectory (config.map PathName.ofText) with
  | .error e => loadFailure e
  | .ok loaded =>
      match loaded.override overrides with
      | .error e => { exitCode := 1, crash := some (.override e) }
      | .ok config => next config

def runParse (machine : Machine) (fs : FileSystem) (workingDirectory : Place)
    (request : ParseRequest)
    : Outcome :=
  withSettings machine fs workingDirectory request.config { pageType := request.pageType }
    fun config =>
      match requestedPage request.path config.marker with
      | .error e => failure (shown request.verbose e.events) e.message
      | .ok page => { output := printed machine request.json page }

/-- Announces that requests are answered. -/
def runServe (machine : Machine) (fs : FileSystem) (workingDirectory : Place)
    (request : ServeRequest)
    : Outcome :=
  withSettings machine fs workingDirectory request.config
    { host := request.host, port := request.port } fun config =>
      let { host, port } := config.server
      let digits := Nat.toDigits 10 port.natAbs
      if digits.length > Decimal.digitLimit then { exitCode := 1, crash := some .overlongPort }
      else
        { output := machine.output ("Starting server on " ++ host ++ ":" ++ toString port ++ "\n")
          notices := shown request.verbose [.serving host port]
          serving := some config }

/-- The notices of arguments that make no sense: how the command is used, if that helps, and the
error. Without any argument the help text stands in for both.
-/
def usageNotices (arguments : List String) (fault : UsageFault) : List Notice :=
  let (usage, called) :=
    match fault.command with
    | some c => (c.usage programName, programName ++ " " ++ c.name)
    | none => (programUsage, programName)
  let head :=
    if fault.error.showsUsage then
      [.message (usage ++ "\nTry '" ++ called ++ " --help' for help.\n\n")]
    else []
  if arguments.isEmpty then [.message programHelp]
  else head ++ [.message ("Error: " ++ fault.error.message ++ "\n")]

/-- The end of a run whose arguments make no sense. -/
def usageFailure (arguments : List String) (fault : UsageFault) : Outcome :=
  match fault.error with
  | .unusablePath => { exitCode := 1, crash := some .unusablePath }
  | _ => { exitCode := 2, notices := usageNotices arguments fault }

/-- Runs the program with arguments in a working directory. -/
def run (machine : Machine) (fs : FileSystem) (workingDirectory : Place) (arguments : List String)
    : Outcome :=
  match readInvocation (fs.names workingDirectory) arguments with
  | .error fault => usageFailure arguments fault
  | .ok (.help text) => { output := machine.output text }
  | .ok (.parse request) => runParse machine fs workingDirectory request
  | .ok (.serve request) => runServe machine fs workingDirectory request

end DirectoryRoutes.CommandLine
