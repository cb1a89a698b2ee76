import DirectoryRoutes.CommandLine.Options

/-! Help texts: a usage line, a summary, and lists of terms with their descriptions in two columns
of a page that is 78 characters wide.
-/

namespace DirectoryRoutes.CommandLine

def pageWidth : Nat :=
  78

/-- The widest first column to which a list is aligned. -/
def termLimit : Nat :=
  30

/-- Fills lines with words up to a width; a word that is too long has a line of its own. -/
def fill (width : Nat) (line : String) : List String → List String
  | [] => [line]
  | word :: words =>
      if line.length + 1 + word.length ≤ width then fill width (line ++ " " ++ word) words
      else line :: fill width word words

def wrap (width : Nat) (text : String) : List String :=
  match (text.toList.splitOn ' ').map String.ofList with
  | [] => []
  | word :: words => fill width word words

def spaces (n : Nat) : String :=
  "".pushn ' ' n

/-- One term and its description. A term that is too wide has its first line to itself. -/
def entry (column : Nat) (term description : String) : String :=
  let margin := spaces (column + 2)
  let lines := wrap (max (pageWidth - column - 2) 10) description
  let gap := if term.length + 2 ≤ column then spaces (column - term.length) else "\n" ++ margin
  "  " ++ term ++ gap ++ String.intercalate ("\n" ++ margin) lines ++ "\n"

/-- A list of terms under a heading. -/
def entries (heading : String) (list : List (String × String)) : String :=
  let widest := (list.map fun (term, _) => term.length).foldl max 0
  let column := min widest termLimit + 2
  heading ++ ":\n" ++ String.join (list.map fun (term, description) => entry column term description)

/-- What stands for a value in a help text. -/
def ValueKind.placeholder : ValueKind → String
  | choice words => "[" ++ String.intercalate "|" words ++ "]"
  | path => "PATH"
  | text => "TEXT"
  | integer => "INTEGER"

/-- An option as a help text lists it, the short name first. -/
def OptionSpec.term (o : OptionSpec) : String :=
  let names :=
    match o.short with
    | some c => String.ofList ['-', c] ++ ", " ++ o.long
    | none => o.long
  match o.value with
  | some kind => names ++ " " ++ kind.placeholder
  | none => names

/-- A command: how it is called, what it does and what it takes. -/
structure Command where
  name : String
  summary : String
  options : List OptionSpec
  /-- The placeholder of its argument, if it takes one. -/
  argument : Option String := none

def Command.allOptions (c : Command) : List OptionSpec :=
  c.options ++ [helpOption]

/-- The words that a command is called by after the program's name, in a usage line. -/
def Command.usage (program : String) (c : Command) : String :=
  "Usage: " ++ program ++ " " ++ c.name ++ " [OPTIONS]"
    ++ (match c.argument with
      | some placeholder => " " ++ placeholder
      | none => "")

def Command.helpText (program : String) (c : Command) : String :=
  c.usage program ++ "\n\n  " ++ c.summary ++ "\n\n"
    ++ entries "Options" (c.allOptions.map fun o => (o.term, o.help))

end DirectoryRoutes.CommandLine
