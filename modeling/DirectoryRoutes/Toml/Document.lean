import DirectoryRoutes.Data
import DirectoryRoutes.Toml.Fault

/-! TOML documents under construction. A table may be opened once by a header; one that dotted
keys have made may be extended by the section that made it and by no other; arrays and tables that
are written as values are complete; of an array of tables only the last one is open.
-/

namespace DirectoryRoutes.Toml

/-- How a table came about. -/
inductive Origin where
  /-- On the way to a table below it. -/
  | implied
  /-- By its own header. -/
  | header
  /-- By dotted keys in the section of a number. -/
  | dotted (sectionNumber : Nat)
deriving DecidableEq, Repr

inductive Node where
  | value (d : Data)
  | table (origin : Origin) (entries : List (String × Node))
  /-- An array of tables, the last one apart from those before it. -/
  | tables (before : List (List (String × Node))) (last : List (String × Node))

abbrev Entries := List (String × Node)

mutual

def Node.toData : Node → Data
  | .value d => d
  | .table _ entries => .record (entriesToData entries)
  | .tables before last => .list (tablesToData before ++ [.record (entriesToData last)])

def entriesToData : List (String × Node) → List (String × Data)
  | [] => []
  | (name, node) :: entries => (name, node.toData) :: entriesToData entries

def tablesToData : List (List (String × Node)) → List Data
  | [] => []
  | entries :: more => .record (entriesToData entries) :: tablesToData more

end

/-- A value that is complete although it could hold names: an array or an inline table. -/
def isFrozen : Data → Bool
  | .list _ => true
  | .record _ => true
  | _ => false

/-- A table of this origin is closed to a section. -/
def Origin.closedTo (origin : Origin) (sectionNumber : Nat) : Bool :=
  match origin with
  | .implied => false
  | .header => true
  | .dotted n => n ≠ sectionNumber

/-- A way into a node: the entries to go on with and how they are put back. -/
structure Way where
  entries : Entries
  close : Entries → Node

/-- Changes the entries at the end of a path. Each step finds its way into the node behind a name,
given the path up to that name.
-/
def alter (enter : Key → Option Node → Except Cause Way) (change : Entries → Except Cause Entries)
    (path : Key) : Key → Entries → Except Cause Entries
  | [], entries => change entries
  | name :: names, entries => do
      let way ← enter (path ++ [name]) (Table.get? name entries)
      let inner ← alter enter change (path ++ [name]) names way.entries
      pure (Table.set name (way.close inner) entries)

/-- The way of a header through the tables above its own. -/
def enterAbove (blocked : Cause) (_ : Key) : Option Node → Except Cause Way
  | none => .ok ⟨[], .table .implied⟩
  | some (.table origin entries) => .ok ⟨entries, .table origin⟩
  | some (.tables before last) => .ok ⟨last, .tables before⟩
  | some (.value d) => .error (if isFrozen d then blocked else .overwritten)

def openTable (key : Key) (root : Entries) : Except Cause Entries :=
  let blocked := Cause.declaredTwice key
  let declare (name : String) (entries : Entries) : Except Cause Entries :=
    match Table.get? name entries with
    | none => .ok (Table.set name (.table .header []) entries)
    | some (.table .implied inner) => .ok (Table.set name (.table .header inner) entries)
    | some (.table _ _) => .error blocked
    | some (.tables _ _) => .error blocked
    | some (.value d) => .error (if isFrozen d then blocked else .overwritten)
  match key.getLast? with
  | some name => alter (enterAbove blocked) (declare name) [] key.dropLast root
  | none => .ok root

/-- Opens one more table of an array of tables. -/
def addTable (key : Key) (root : Entries) : Except Cause Entries :=
  let blocked := Cause.immutable key
  let add (name : String) (entries : Entries) : Except Cause Entries :=
    match Table.get? name entries with
    | none => .ok (Table.set name (.tables [] []) entries)
    | some (.tables before last) => .ok (Table.set name (.tables (before ++ [last]) []) entries)
    | some (.table _ _) => .error .overwritten
    | some (.value d) => .error (if isFrozen d then blocked else .overwritten)
  match key.getLast? with
  | some name => alter (enterAbove blocked) (add name) [] key.dropLast root
  | none => .ok root

/-- The way of a dotted key in a section through the tables that it names. -/
def enterDotted (sectionNumber : Nat) (blocked : Cause) (path : Key)
    : Option Node → Except Cause Way
  | none => .ok ⟨[], .table (.dotted sectionNumber)⟩
  | some (.table origin entries) =>
      if origin.closedTo sectionNumber then .error (.redefined path)
      else .ok ⟨entries, .table (.dotted sectionNumber)⟩
  | some (.tables _ _) => .error (.redefined path)
  | some (.value d) => .error (if isFrozen d then blocked else .overwritten)

/-- Adds a value that has no name yet. -/
def addValue (name : String) (d : Data) (taken : Cause) (entries : Entries)
    : Except Cause Entries :=
  match Table.get? name entries with
  | none => .ok (Table.set name (.value d) entries)
  | some _ => .error taken

/-- Adds a pair to the open table of a header. -/
def addPair (sectionNumber : Nat) (header key : Key) (d : Data) (root : Entries)
    : Except Cause Entries :=
  let blocked := Cause.immutable (header ++ key.dropLast)
  match key.getLast? with
  | some name =>
      alter (enterAbove blocked)
        (alter (enterDotted sectionNumber blocked) (addValue name d .overwritten) header
          key.dropLast)
        [] header root
  | none => .ok root

def addInline (key : Key) (d : Data) (entries : Entries) : Except Cause Entries :=
  let blocked := Cause.immutable key
  let add (name : String) (entries : Entries) : Except Cause Entries :=
    match Table.get? name entries with
    | some (.value old) =>
        .error (if isFrozen old then blocked else .duplicateInlineKey name)
    | _ => addValue name d (.duplicateInlineKey name) entries
  match key.getLast? with
  | some name => alter (enterDotted 0 blocked) (add name) [] key.dropLast entries
  | none => .ok entries

end DirectoryRoutes.Toml
