import Permit.Json.Basic

/-!
# Kinds, properties and truth of loose values

What a rule may ask of a value whose shape nobody promised. A value may be absent, which is not the same as `null`.
-/

namespace Permit

inductive Kind where
  | undefined
  | null
  | boolean
  | number
  | string
  | array
  | object
deriving DecidableEq, Repr

def Kind.name : Kind → String
  | .undefined => "undefined"
  | .null => "null"
  | .boolean => "boolean"
  | .number => "number"
  | .string => "string"
  | .array => "array"
  | .object => "object"

/-- The kind of a value; an absent one is undefined. -/
def Kind.of : Option Json → Kind
  | none => .undefined
  | some .null => .null
  | some (.bool _) => .boolean
  | some (.number _) => .number
  | some (.string _) => .string
  | some (.array _) => .array
  | some (.object _) => .object

/-- A property was read from nothing; `target` is undefined or null. -/
structure Unreadable where
  property : String
  target : Kind
deriving DecidableEq, Repr

def Unreadable.message (e : Unreadable) : String :=
  "cannot read property `" ++ e.property ++ "` of " ++ e.target.name

namespace Json

/-- Reading from an absent value or from null fails; what is not there reads as null. -/
def property (target : Option Json) (name : String) : Except Unreadable Json :=
  match target with
  | none | some .null => .error ⟨name, Kind.of target⟩
  | some value => .ok ((value.get? name).getD .null)

/-- Null, false, zero and the empty text count as no; every array and every object counts as yes. -/
def truthy : Json → Bool
  | .null => false
  | .bool b => b
  | .number n => !n.isNothing
  | .string s => !s.isEmpty
  | .array _ | .object _ => true

end Json

end Permit
