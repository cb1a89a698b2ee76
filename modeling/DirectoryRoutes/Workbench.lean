import DirectoryRoutes.Event
import DirectoryRoutes.Page.Record
import DirectoryRoutes.Segment.Operand

/-! Workbenches: pages and paths under names, and the steps that build, extend, derive and inspect
them. A step that fails changes nothing, and the steps after it go on.
-/

namespace DirectoryRoutes

/-- What a name on a workbench stands for. -/
inductive Piece where
  | page (p : Page)
  | path (u : UrlPath)
deriving DecidableEq, Repr

namespace Piece

def segments : Piece → List Segment
  | page p => p.segments
  | path u => u.segments

def render (x : Piece) : String :=
  Segment.renderAll x.segments

/-- A page or path as diagnostics show it. -/
def literal : Piece → String
  | page p => p.literal
  | path u => u.literal

def toData : Piece → Data
  | page p => p.toData
  | path u => u.toData

/-- The segment at a position; negative positions count from the end. -/
def at? (x : Piece) (index : Int) : Option Segment :=
  let position := if index < 0 then index + x.segments.length else index
  if position < 0 then none else x.segments[position.toNat]?

end Piece

def Piece.kind : Piece → String
  | page _ => "AppPage"
  | path _ => "AppPath"

/-- The names in use and what they stand for. -/
abbrev Workbench := Table Piece

/-- A question about one piece. -/
inductive Query where
  | render
  /-- Whether the text reads back to the same page. -/
  | reparses
  | at (index : Int)
  | length
  | nonempty
  | segments
  | contains (element : Operand)
  | marker
  | isDynamic
  | record
  | equals (other : String)
  | equalsData (value : Data)

inductive Step where
  | new (on : String) (segments : List Segment)
  | parse (on : String) (path : String)
  | ofData (on : String) (record : Data)
  | append (on : String) (segment : Segment)
  | appendToken (on : String) (token : String)
  | appendCopy (on result : String) (segment : Segment)
  | appendTokenCopy (on result : String) (token : String)
  | copy (on result : String)
  | roundTrip (on result : String)
  /-- The path of a page. -/
  | derivePath (on result : String)
  /-- The path of the segments of a page or path. -/
  | filterPath (on result : String)
  | ask (on : String) (query : Query)

/-- Why a step fails. -/
inductive StepError where
  | segment (reason : SegmentError)
  | record (reason : PageRecordError)
  | outOfRange
  /-- The position does not fit into a machine word. -/
  | unaddressable
  | unbound (name : String)
  /-- The piece is not of the kind that knows the operation. -/
  | unsupported (piece : Piece) (operation : String)

namespace StepError

def message : StepError → String
  | segment reason => reason.message
  | record reason => reason.message
  | outOfRange => "tuple index out of range"
  | unaddressable => "cannot fit 'int' into an index-sized integer"
  | unbound name => Text.quote name
  | unsupported piece operation =>
      Text.quote piece.kind ++ " object has no attribute " ++ Text.quote operation

def events : StepError → List Event
  | segment reason => reason.events
  | record (.order reason) => reason.events
  | _ => []

end StepError

/-- What a step that succeeds answers. -/
inductive Answer where
  | done
  | text (s : String)
  | flag (b : Bool)
  | count (n : Nat)
  | segment (s : Segment)
  | segments (list : List Segment)
  | marker (kind : Option Marker)
  | data (d : Data)
  | comparison (equal : Bool) (distinct : Nat)

namespace Workbench

/-- A position fits into a signed machine word. -/
def isAddressable (index : Int) : Bool :=
  -0x8000000000000000 ≤ index && index < 0x8000000000000000

def piece (w : Workbench) (name : String) : Except StepError Piece :=
  match Table.get? name w with
  | some x => .ok x
  | none => .error (.unbound name)

/-- The page of a name, for an operation that only pages know. -/
def page (w : Workbench) (name operation : String) : Except StepError Page := do
  match ← w.piece name with
  | .page p => .ok p
  | .path u => .error (.unsupported (.path u) operation)

/-- The answer to a question about the piece of a name. -/
def answer (w : Workbench) (on : String) (query : Query) : Except StepError Answer := do
  let x ← w.piece on
  match query with
  | .render => pure (.text x.render)
  | .reparses => do
      let p ← (Page.parse x.render).mapError .segment
      pure (.flag (x = .page p))
  | .at index =>
      if isAddressable index then
        match x.at? index with
        | some s => pure (.segment s)
        | none => throw .outOfRange
      else throw .unaddressable
  | .length => pure (.count x.segments.length)
  | .nonempty => pure (.flag !x.segments.isEmpty)
  | .segments => pure (.segments x.segments)
  | .contains element => pure (.flag (x.segments.any fun s => element.same (.segment s)))
  | .marker =>
      match x with
      | .page p => pure (.marker p.marker?)
      | .path _ => throw (.unsupported x "page_type")
  | .isDynamic =>
      match x with
      | .path u => pure (.flag u.isDynamic)
      | .page _ => throw (.unsupported x "is_dynamic")
  | .record => pure (.data x.toData)
  | .equals other => do
      let y ← w.piece other
      pure (if x = y then .comparison true 1 else .comparison false 2)
  | .equalsData _ => pure (.flag false)

/-- The name that a step gives a value to and its new value, if it gives one. -/
def outcome (w : Workbench) : Step → Except StepError (Option (String × Piece) × Answer)
  | .new on segments => do
      let p ← (Page.ofSegments segments).mapError .segment
      pure (some (on, .page p), .done)
  | .parse on path => do
      let p ← (Page.parse path).mapError .segment
      pure (some (on, .page p), .done)
  | .ofData on record => do
      let p ← (Page.ofData record).mapError .record
      pure (some (on, .page p), .done)
  | .append on segment => do
      let p ← w.page on "append"
      let q ← (p.append segment).mapError .segment
      pure (some (on, .page q), .done)
  | .appendToken on token => do
      let p ← w.page on "append_token"
      let q ← (p.appendToken token).mapError .segment
      pure (some (on, .page q), .done)
  | .appendCopy on result segment => do
      let p ← w.page on "append_segment_copy"
      let q ← (p.append segment).mapError .segment
      pure (some (result, .page q), .done)
  | .appendTokenCopy on result token => do
      let p ← w.page on "append_token_copy"
      let q ← (p.appendToken token).mapError .segment
      pure (some (result, .page q), .done)
  | .copy on result => do
      let p ← w.page on "copy"
      pure (some (result, .page p), .done)
  | .roundTrip on result => do
      let x ← w.piece on
      let q ← (Page.ofData x.toData).mapError .record
      pure (some (result, .page q), .done)
  | .derivePath on result => do
      let p ← w.page on "to_path"
      pure (some (result, .path p.urlPath), .done)
  | .filterPath on result => do
      let x ← w.piece on
      pure (some (result, .path (.ofSegments x.segments)), .done)
  | .ask on query => do
      let a ← w.answer on query
      pure (none, a)

/-- Takes a step: the workbench after it, and what it answers. -/
def take (w : Workbench) (step : Step) : Workbench × Except StepError Answer :=
  match w.outcome step with
  | .ok (some (name, x), a) => (Table.set name x w, .ok a)
  | .ok (none, a) => (w, .ok a)
  | .error e => (w, .error e)

/-- The workbench after a program of steps. -/
def run (w : Workbench) (program : List Step) : Workbench :=
  program.foldl (fun w step => (w.take step).1) w

end Workbench

end DirectoryRoutes
