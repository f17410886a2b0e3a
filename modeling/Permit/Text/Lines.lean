/-!
# Lines of a text

A line ends at a line feed, or at a carriage return and a line feed; the last line need not end.
-/

namespace Permit.Text

def withoutReturn (line : List Char) : List Char :=
  if line.getLast? = some '\r' then line.dropLast else line

/-- `line` holds the line under way, last character first. -/
def linesFrom (line : List Char) : List Char → List String
  | [] => if line.isEmpty then [] else [String.ofList line.reverse]
  | '\n' :: rest => String.ofList (withoutReturn line.reverse) :: linesFrom [] rest
  | c :: rest => linesFrom (c :: line) rest

def lines (s : String) : List String := linesFrom [] s.toList

end Permit.Text
