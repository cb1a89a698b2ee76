import DirectoryRoutes.CommandLine.Run

/-! The command line program: it takes a snapshot of the files that a run may look at, runs on it
and prints the outcome. Listening for requests is left to a host that calls `Api.respond`.
-/

namespace DirectoryRoutes

def placeOf (path : String) : Place :=
  (Text.names path).reverse

/-- A place and all places above it. -/
def withAncestors : Place → List Place
  | [] => [[]]
  | name :: parent => (name :: parent) :: withAncestors parent

/-- The paths that lead to the end of a path, one name longer each. -/
def leads (before : String) : List String → List String
  | [] => []
  | name :: names => (before ++ name) :: leads (before ++ name ++ "/") names

/-- What lies at a path: a file, a directory, or nothing. -/
def look (path : String) : IO (List (Place × List UInt8) × List Place) :=
  try
    let real ← IO.FS.realPath path
    let place := placeOf real.toString
    if ← real.isDir then pure ([], [place])
    else pure ([(place, (← IO.FS.readBinFile real).toList)], [])
  catch _ => pure ([], [])

/-- The configuration path in the arguments, if they make sense. -/
def namedConfig (arguments : List String) : Option String :=
  match CommandLine.readInvocation (fun _ => true) arguments with
  | .ok (.parse request) => request.config
  | .ok (.serve request) => request.config
  | _ => none

/-- A snapshot of the file system as far as a run may look at it. -/
def snapshot (workingDirectory : Place) (arguments : List String) : IO FileSystem := do
  let near := (withAncestors workingDirectory).map fun place => Place.text (configName :: place)
  let named := ((namedConfig arguments).map fun path => leads "" (Text.components path)).getD []
  let seen ← (near ++ named).mapM look
  pure (.ofLists (seen.flatMap Prod.fst) (workingDirectory :: seen.flatMap Prod.snd))

/-- The room for what is nested in a document, which the program's own machine has to spare. -/
def nestingRoom : Nat :=
  970

def runProgram (arguments : List String) : IO UInt32 := do
  let workingDirectory := placeOf (← IO.currentDir).toString
  let fs ← snapshot workingDirectory arguments
  let machine := CommandLine.Machine.verbatim nestingRoom
  let outcome := CommandLine.run machine fs workingDirectory arguments
  IO.print outcome.output
  for notice in outcome.notices do
    IO.eprint (notice.render machine (toString (← IO.monoMsNow)))
  if let some crash := outcome.crash then IO.eprintln crash.message
  pure (UInt32.ofNat outcome.exitCode)

end DirectoryRoutes

def main (arguments : List String) : IO UInt32 :=
  DirectoryRoutes.runProgram arguments
