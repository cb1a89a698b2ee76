import DirectoryRoutes.Text.Hex
import DirectoryRoutes.Text.Utf8

/-! Percent-encoded request paths. Escapes are octets of UTF-8; a sign that begins no escape and
escapes that spell no character stay as they are written. An escaped slash or percent sign stays
escaped while the path is matched, so that it can neither end a component nor form an escape, and
is resolved only in the text of a parameter.
-/

namespace DirectoryRoutes.Text.Percent

open Utf8

/-- Characters of which the octets were escaped, as the matched path shows them. -/
def shown (c : Char) : List Char :=
  if c = '/' then "%2F".toList else if c = '%' then "%25".toList else [c]

/-- Escapes that may still grow into a character: the octets' state and their text, latest
character first.
-/
structure Held where
  begun : Begun
  written : List Char

/-- The text that held escapes leave behind when they grow into nothing. -/
def Held.release : Option Held → List Char
  | none => []
  | some h => h.written.reverse

/-- One escaped octet, first after the escapes held and, if they refuse it, on its own. -/
def takeOctet (held : Option Held) (octet : UInt8) (written : List Char)
    : List Char × Option Held :=
  let alone (before : List Char) : List Char × Option Held :=
    match start octet with
    | .character c => (before ++ shown c, none)
    | .begun b => (before, some ⟨b, written.reverse⟩)
    | .refused => (before ++ written, none)
  match held with
  | none => alone []
  | some h =>
      match h.begun.next octet with
      | .character c => (shown c, none)
      | .begun b => ([], some ⟨b, written.reverse ++ h.written⟩)
      | .refused => alone h.written.reverse

/-- The octet of an escape, given the two characters after its sign. -/
def octet? (a b : Char) : Option UInt8 :=
  (Hex.read? [a, b]).map UInt8.ofNat

/-- Decodes a path after the escapes held, keeping slashes and percent signs escaped. -/
def matchedFrom (held : Option Held) : List Char → List Char
  | [] => Held.release held
  | '%' :: a :: b :: rest =>
      match octet? a b with
      | some octet =>
          let (out, held) := takeOctet held octet ['%', a, b]
          out ++ matchedFrom held rest
      | none => Held.release held ++ '%' :: matchedFrom none (a :: b :: rest)
  | c :: rest => Held.release held ++ c :: matchedFrom none rest

/-- The decoded path on which requests are matched. -/
def matched (path : List Char) : List Char :=
  matchedFrom none path

/-- Replaces one escape throughout a text. -/
def resolve (a b meant : Char) : List Char → List Char
  | '%' :: x :: y :: rest =>
      if x = a && y = b then meant :: resolve a b meant rest else '%' :: resolve a b meant (x :: y :: rest)
  | c :: rest => c :: resolve a b meant rest
  | [] => []

/-- The text of a parameter: its slashes, then its percent signs, are resolved once. -/
def parameter (text : List Char) : List Char :=
  resolve '2' '5' '%' (resolve '2' 'F' '/' text)

end DirectoryRoutes.Text.Percent
