import DirectoryRoutes.Text.Hex
import DirectoryRoutes.Text.Printable

/-! Quoted texts, as diagnostics show them. A text stands between single quotes, unless it holds
a single quote and no double one; what has no printed shape is written by its code point.
-/

namespace DirectoryRoutes.Text

/-- The quotation mark that leaves the fewest characters of the text to escape. -/
def quotationMark (s : List Char) : Char :=
  if s.contains '\'' && !s.contains '"' then '"' else '\''

/-- One character of a text that stands between the given marks. Code points without a printed
shape take the shortest of the two-, four- and eight-digit forms.
-/
def escapeQuoted (mark c : Char) : List Char :=
  if c = mark || c = '\\' then ['\\', c]
  else if c = '\n' then ['\\', 'n']
  else if c = '\r' then ['\\', 'r']
  else if c = '\t' then ['\\', 't']
  else if isPrintable c then [c]
  else if c.toNat < 0x100 then '\\' :: 'x' :: Hex.padded 2 c.toNat
  else if c.toNat < 0x10000 then '\\' :: 'u' :: Hex.padded 4 c.toNat
  else '\\' :: 'U' :: Hex.padded 8 c.toNat

def quote (s : String) : String :=
  let mark := quotationMark s.toList
  String.ofList (mark :: s.toList.flatMap (escapeQuoted mark) ++ [mark])

end DirectoryRoutes.Text
