import Permit.Text.Cut
import Permit.Text.Quoted

/-!
# The report on a severed character
-/

namespace Permit.Text

def Edge.name : Edge → String
  | .start => "start"
  | .stop => "end"

/-- Of a long text a report shows what fits into this many bytes. -/
def Severed.shownBytes : Nat := 256

def fitting (room : Nat) : List Char → List Char
  | [] => []
  | c :: rest => if c.utf8Size ≤ room then c :: fitting (room - c.utf8Size) rest else []

/-- The text that the report shows, with a mark when it is not all. -/
def Severed.shown (s : Severed) : String :=
  let start := fitting shownBytes s.text
  "`" ++ String.ofList start ++ "`" ++ if start.length < s.text.length then "[...]" else ""

def Severed.message (s : Severed) : String :=
  s.edge.name ++ " byte index " ++ toString s.offset ++ " is not a char boundary; it is inside " ++
    quotedChar s.char ++ " (bytes " ++ toString s.first ++ ".." ++ toString (s.first + s.char.utf8Size) ++ ") of " ++
    s.shown

end Permit.Text
