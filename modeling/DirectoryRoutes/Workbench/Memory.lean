import DirectoryRoutes.Workbench

/-! Pages in memory. A page has a place of its own and is changed there, so whatever refers to the
place sees the change; paths never change. A step that fails may leave a page behind to which
nothing refers.
-/

namespace DirectoryRoutes

/-- What a name stands for. -/
inductive Reference where
  /-- The page at a place. -/
  | page (place : Nat)
  | path (u : UrlPath)
deriving DecidableEq, Repr

structure Memory where
  /-- The pages that have been made, each at the place at which it was made. -/
  pages : List Page := []
  names : Table Reference := []

namespace Memory

def pageAt (pages : List Page) (place : Nat) : Page :=
  pages.getD place .empty

def pieceOf (pages : List Page) : Reference → Piece
  | .page place => .page (pageAt pages place)
  | .path u => .path u

/-- The workbench of the values that the names stand for. -/
def view (m : Memory) : Workbench :=
  m.names.mapValues (pieceOf m.pages)

-----------------------------------------------------------------------------------------
-- Work on pages
-----------------------------------------------------------------------------------------

/-- Work on the pages. What is done before a failure stays done. -/
abbrev Work (ε α : Type) :=
  EStateM ε (List Page) α

/-- Reads what is in memory, which may fail. -/
def reading {ε α : Type} (f : List Page → Except ε α) : Work ε α := do
  MonadExcept.ofExcept (f (← get))

/-- Puts a page at the next place. -/
def make {ε : Type} (p : Page) : Work ε Nat := do
  let pages ← get
  set (pages ++ [p])
  pure pages.length

/-- Changes the page at a place, unless the change fails. -/
def change (place : Nat) (f : Page → Except SegmentError Page) : Work SegmentError Unit := do
  let q ← reading fun pages => f (pageAt pages place)
  modify (·.set place q)

/-- Makes a page and adds items to it one after another. -/
def build {α : Type} (add : Page → α → Except SegmentError Page) (items : List α)
    : Work SegmentError Nat := do
  let place ← make .empty
  forM items fun item => change place (add · item)
  pure place

def copyOf {ε : Type} (place : Nat) : Work ε Nat := do
  make (pageAt (← get) place)

/-- Copies a page and changes the copy. -/
def changedCopy (place : Nat) (f : Page → Except SegmentError Page) : Work SegmentError Nat := do
  let copied ← copyOf place
  change copied f
  pure copied

/-- The segments that the record of a page lists. -/
def listedSegments (d : Data) : Except PageRecordError (List Segment) :=
  match d with
  | .record _ =>
      match d.field? "segments" with
      | some (.list items) => (items.mapM Segment.ofData).mapError .segment
      | _ => .error .segmentsNotList
  | _ => .error .notRecord

/-- Makes the page of a record once all its segments are read. -/
def buildOfData (d : Data) : Work PageRecordError Nat := do
  let segments ← reading fun _ => listedSegments d
  (build Page.append segments).adaptExcept .order

-----------------------------------------------------------------------------------------
-- Steps
-----------------------------------------------------------------------------------------

/-- The place of the page that a name stands for, for an operation that only pages know. -/
def placeOf (names : Table Reference) (name operation : String) : Except StepError Nat :=
  match Table.get? name names with
  | some (.page place) => .ok place
  | some (.path u) => .error (.unsupported (.path u) operation)
  | none => .error (.unbound name)

/-- The work of a step: the name that it gives and what the name then stands for, if there is one,
and what the step answers.
-/
abbrev StepWork :=
  Work StepError (Option (String × Reference) × Answer)

/-- Gives a name to the page that some work makes. -/
def naming (name : String) (work : Work StepError Nat) : StepWork := do
  let place ← work
  pure (some (name, .page place), .done)

/-- Changes the page of a name, which keeps its name. -/
def extend (names : Table Reference) (name operation : String)
    (f : Page → Except SegmentError Page)
    : StepWork := do
  let place ← reading fun _ => placeOf names name operation
  (change place f).adaptExcept .segment
  pure (none, .done)

/-- Changes a copy of the page of a name. -/
def extendCopy (names : Table Reference) (name operation : String)
    (f : Page → Except SegmentError Page)
    : Work StepError Nat := do
  let place ← reading fun _ => placeOf names name operation
  (changedCopy place f).adaptExcept .segment

def perform (names : Table Reference) : Step → StepWork
  | .new on segments => naming on ((build Page.append segments).adaptExcept .segment)
  | .parse on path =>
      naming on ((build Page.appendToken (Text.components path)).adaptExcept .segment)
  | .ofData on record => naming on ((buildOfData record).adaptExcept .record)
  | .append on segment => extend names on "append" (·.append segment)
  | .appendToken on token => extend names on "append_token" (·.appendToken token)
  | .appendCopy on result segment =>
      naming result (extendCopy names on "append_segment_copy" (·.append segment))
  | .appendTokenCopy on result token =>
      naming result (extendCopy names on "append_token_copy" (·.appendToken token))
  | .copy on result =>
      naming result do
        let place ← reading fun _ => placeOf names on "copy"
        copyOf place
  | .roundTrip on result =>
      naming result do
        let x ← reading fun pages => (view ⟨pages, names⟩).piece on
        (buildOfData x.toData).adaptExcept .record
  | .derivePath on result => do
      let p ← reading fun pages => (view ⟨pages, names⟩).page on "to_path"
      pure (some (result, .path p.urlPath), .done)
  | .filterPath on result => do
      let x ← reading fun pages => (view ⟨pages, names⟩).piece on
      pure (some (result, .path (.ofSegments x.segments)), .done)
  | .ask on query => do
      let a ← reading fun pages => (view ⟨pages, names⟩).answer on query
      pure (none, a)

def take (m : Memory) (step : Step) : Memory × Except StepError Answer :=
  match (perform m.names step).run m.pages with
  | .ok (some (name, r), a) pages => (⟨pages, Table.set name r m.names⟩, .ok a)
  | .ok (none, a) pages => (⟨pages, m.names⟩, .ok a)
  | .error e pages => (⟨pages, m.names⟩, .error e)

/-- The memory after a program of steps. -/
def run (m : Memory) (program : List Step) : Memory :=
  program.foldl (fun m step => (m.take step).1) m

end Memory

end DirectoryRoutes
