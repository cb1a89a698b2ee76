import DirectoryRoutes.Data.Comparison
import DirectoryRoutes.Data.Literal
import DirectoryRoutes.Segment

/-! Segments beside plain values. Segments of different shapes are never the same, and no value is
the same as a segment, except that a marker is its word.
-/

namespace DirectoryRoutes

/-- A segment or a plain value in its place. -/
inductive Operand where
  | segment (s : Segment)
  | data (d : Data)

inductive OperandError where
  | notSegment (d : Data)
  | notHashable (d : Data)

def OperandError.message : OperandError → String
  | notSegment d => "Not a route segment: " ++ d.literal
  | notHashable (.record _) => "unhashable type: 'dict'"
  | notHashable _ => "unhashable type: 'list'"

namespace Operand

def same : Operand → Operand → Bool
  | segment a, segment b => a = b
  | segment (.marker kind), data (.text word) => kind.word = word
  | data (.text word), segment (.marker kind) => kind.word = word
  | data a, data b => a.same b
  | _, _ => false

/-- The operand can be an element of a set. -/
def hashable (o : Operand) : Except OperandError Unit :=
  match o with
  | data d => if d.isContainer then .error (.notHashable d) else .ok ()
  | segment _ => .ok ()

/-- The size of the set of two operands. -/
def distinct (a b : Operand) : Except OperandError Nat := do
  a.hashable
  b.hashable
  pure (if a.same b then 1 else 2)

def toSegment : Operand → Except OperandError Segment
  | segment s => .ok s
  | data d => .error (.notSegment d)

end Operand

end DirectoryRoutes
