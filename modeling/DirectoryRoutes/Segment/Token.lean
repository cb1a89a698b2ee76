import DirectoryRoutes.Segment.Error

/-! Tokens: the names of directories, read as segments. The forms share their openings, so they
are tried from the most to the least specific; a token of no form is static as a whole.
-/

namespace DirectoryRoutes.Segment

/-- The text between an opening and a closing, if the token has both and they do not overlap. -/
def between? (opening closing token : List Char) : Option (List Char) :=
  if opening.isPrefixOf token then
    let inner := token.drop opening.length
    if closing.isSuffixOf inner then some (inner.take (inner.length - closing.length)) else none
  else none

/-- A way to write a segment: an opening, a name and a closing. -/
structure Form where
  opening : List Char
  closing : List Char
  build : String → Segment

/-- The written forms, the more specific ones first. -/
def forms : List Form :=
  [⟨['('], [')'], group⟩,
   ⟨['@'], [], parallel⟩,
   ⟨['[', '[', '.', '.', '.'], [']', ']'], optionalCatchAll⟩,
   ⟨['[', '.', '.', '.'], [']'], catchAll⟩,
   ⟨['['], [']'], dynamic⟩]

def Form.read? (form : Form) (token : String) : Option Segment :=
  (between? form.opening form.closing token.toList).map fun name => form.build (String.ofList name)

/-- The segment of a token, by the first form that fits. -/
def classify (token : String) : Segment :=
  (forms.findSome? (·.read? token)).getD (static token)

/-- Reads a token. It must hold at least one character and no separator. -/
def parse (token : String) : Except SegmentError Segment :=
  if token = "" then .error .emptySegment
  else if '/' ∈ token.toList then .error (.illegalSlash token)
  else .ok (classify token)

end DirectoryRoutes.Segment
