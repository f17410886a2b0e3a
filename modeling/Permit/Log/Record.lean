import Permit.Log.Level
import Permit.Json.Basic

/-!
# Log records
-/

namespace Permit.Log

/-- The value of a field: text that a log line quotes, text that it shows as it is, a count, or a flag. -/
inductive Field where
  | quoted (text : String)
  | plain (text : String)
  | count (n : Nat)
  | flag (b : Bool)
deriving DecidableEq, Repr

def Field.value : Field → Json
  | .quoted text | .plain text => .string text
  | .count n => .ofNat n
  | .flag b => .bool b

structure Record where
  level : Level
  target : String
  message : String
  fields : List (String × Field)
deriving DecidableEq, Repr

/-- The message is a field too, the first. -/
def Record.fieldNames (r : Record) : List String := "message" :: r.fields.map Prod.fst

end Permit.Log
