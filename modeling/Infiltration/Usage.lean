import Infiltration.Flag

/-!
What the terminal program tells about itself: its version, and its usage as a table of flags whose second
column begins two blanks after the longest flag.
-/

namespace Infiltration.Usage

def versionText : String := "breach 0.1.0\n"

/-- A flag in both its spellings, with its value. -/
def spelling (flag : Flag) : String :=
  (match flag.letter? with
    | some letter => "  -" ++ String.singleton letter ++ ", "
    | none => "      ") ++
  "--" ++ flag.name ++
  match flag.value? with
    | some value => " <" ++ value ++ ">"
    | none => ""

/-- The width of the first column. -/
def width : Nat := Flag.all.foldl (fun widest flag => max widest (spelling flag).length) 0 + 2

/-- A text with blanks after it up to the width of the first column. -/
def inColumn (text : String) : String := text ++ String.ofList (List.replicate (width - text.length) ' ')

def flagLine (flag : Flag) : String := inColumn (spelling flag) ++ flag.purpose ++ "\n"

def helpText : String :=
  "Compile a security script and simulate it against a level\n\n" ++
    "Usage: breach [OPTIONS] --level <LEVEL>\n\n" ++ "Options:\n" ++
    String.join (Flag.all.map flagLine)

end Infiltration.Usage
