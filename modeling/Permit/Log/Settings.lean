import Permit.Json.Basic
import Permit.Log.Filter
import Permit.Text.Quoted

/-!
# Log settings

Which events are shown, whether lines name the target of their event, and whether they are coloured. Settings come from
code, from two environment variables, or from a document: an object with the members `filter`, `with_target` and `ansi`,
or a list of them in this order. What a document leaves out keeps its default.
-/

namespace Permit.Log

structure Settings where
  filter : String := "info"
  withTarget : Bool := false
  ansi : Bool := true
deriving DecidableEq, Repr

def filterVariable : String := "WARDEN_LOG"

def ansiVariable : String := "WARDEN_LOG_ANSI"

/-- A value in a document that is not of the expected kind, or a list with too many items. -/
inductive Mismatch where
  | kind (found : String) (expected : String)
  | items (count : Nat)
deriving DecidableEq, Repr

def Mismatch.message : Mismatch → String
  | .kind found expected => "invalid type: " ++ found ++ ", expected " ++ expected
  | .items count => "invalid length " ++ toString count ++ ", expected fewer elements in array"

def foundNumber (n : Number) : String :=
  match n with
  | .natural _ | .negative _ => "integer `" ++ n.text ++ "`"
  | .float _ => "floating point `" ++ n.text ++ "`"

def found : Json → String
  | .null => "null"
  | .bool b => "boolean `" ++ (if b then "true" else "false") ++ "`"
  | .number n => foundNumber n
  | .string s => "string " ++ Text.quoted s
  | .array _ => "sequence"
  | .object _ => "map"

namespace Settings

def ofFilter (filter : String) : Settings := { filter }

/-- A blank filter counts as unset; any other is taken with its white space. Colours are off for `0` and `false`, in any
case and between white space. -/
def ofEnvironment (filter ansi : Option String) : Settings where
  filter := match filter with
    | some text => if Text.allBlank text then "info" else text
    | none => "info"
  ansi := match ansi with
    | some text =>
        let word := (Text.trim text.toList).map Char.toLower
        !(word == ['0'] || word == ['f', 'a', 'l', 's', 'e'])
    | none => true

def setTarget (s : Settings) (on : Bool) : Settings := { s with withTarget := on }

def setAnsi (s : Settings) (on : Bool) : Settings := { s with ansi := on }

def text? : Json → Except Mismatch String
  | .string s => .ok s
  | other => .error (.kind (found other) "a string")

def flag? : Json → Except Mismatch Bool
  | .bool b => .ok b
  | other => .error (.kind (found other) "a boolean")

/-- A part of a document, or its default when it is left out. -/
def part {α : Type} (read : Json → Except Mismatch α) (default : α) : Option Json → Except Mismatch α
  | none => .ok default
  | some value => read value

/-- The members of an object are read in the order of their names; others do not matter. -/
def ofMembers (members : Dictionary Json) : Except Mismatch Settings := do
  let ansi ← part flag? true (members.get? "ansi")
  let filter ← part text? "info" (members.get? "filter")
  let withTarget ← part flag? false (members.get? "with_target")
  return { filter, withTarget, ansi }

/-- The items of a list are read in their order; there may be three. -/
def ofItems (items : List Json) : Except Mismatch Settings := do
  let filter ← part text? "info" items[0]?
  let withTarget ← part flag? false items[1]?
  let ansi ← part flag? true items[2]?
  if 3 < items.length then .error (.items items.length)
  else return { filter, withTarget, ansi }

def decode : Json → Except Mismatch Settings
  | .object members => ofMembers members
  | .array items => ofItems items
  | other => .error (.kind (found other) "struct TelemetryConfig")

def encode (s : Settings) : Json :=
  .object (.cons "ansi" (.bool s.ansi) (.cons "filter" (.string s.filter)
    (.cons "with_target" (.bool s.withTarget) .nil)))

@[simp] theorem decode_encode (s : Settings) : decode s.encode = .ok s := by
  cases s; rfl

def read (s : Settings) : Reading Filter := Filter.read s.filter

end Settings

end Permit.Log
