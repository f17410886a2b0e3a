import Permit.Log.Record
import Permit.Text.Quoted
import Permit.Text.Lines

/-!
# Log lines

One line for a record: time, level, target if wanted, message, and the fields. With colours, the time, the target and the
marks are dimmed, the level has a colour of its own, and the names of fields are slanted.
-/

namespace Permit.Log

structure Style where
  withTarget : Bool
  ansi : Bool

def look (code : String) : String := "\x1b[" ++ code ++ "m"

/-- Text with a look, when there are colours. -/
def Style.paint (style : Style) (code text : String) : String :=
  if style.ansi then look code ++ text ++ look "0" else text

def Style.dim (style : Style) (text : String) : String := style.paint "2" text

def Level.colour : Level → String
  | .error => "31"
  | .warn => "33"
  | .info => "32"
  | .debug => "34"
  | .trace => "35"

/-- The name of a level, right aligned in five places. -/
def Level.padded (level : Level) : String :=
  String.ofList (List.replicate (5 - level.name.length) ' ') ++ level.name

def Field.text : Field → String
  | .quoted text => Text.quoted text
  | .plain text => text
  | .count n => toString n
  | .flag b => if b then "true" else "false"

def fieldText (style : Style) (name : String) (field : Field) : String :=
  " " ++ style.paint "3" name ++ style.dim "=" ++ field.text

def Record.line (style : Style) (time : String) (r : Record) : String :=
  style.dim time ++ " " ++ style.paint r.level.colour r.level.padded ++ " " ++
    (if style.withTarget then style.dim r.target ++ style.dim ":" ++ " " else "") ++
    r.message ++ String.join (r.fields.map fun (name, field) => fieldText style name field)

end Permit.Log
