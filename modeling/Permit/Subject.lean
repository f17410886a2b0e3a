import Permit.Refusal

/-!
# Subjects

What an action is done to: an entity of a named type, or the bare type. A loose subject is a type name, or an object with
one member whose name is the type; a list of one item is read as an object with the member `0`.
-/

namespace Permit

inductive Subject where
  | entity (type : String) (value : Json)
  | bare (type : String)

namespace Subject

def typeName : Subject → String
  | .entity type _ => type
  | .bare type => type

def value? : Subject → Option Json
  | .entity _ value => some value
  | .bare _ => none

/-- The subject of a type with its entity, or the bare type without one. -/
def of (type : String) : Option Json → Subject
  | some value => .entity type value
  | none => .bare type

def same : Subject → Subject → Bool
  | .entity s a, .entity t b => s == t && a.same b
  | .bare s, .bare t => s == t
  | _, _ => false

def decode : Option Json → Except Refusal Subject
  | some (.string type) => .ok (.bare type)
  | some (.object (.single type value)) => .ok (.entity type value)
  | some (.object members) => .error (.invalidShape members.size)
  | some (.array [value]) => .ok (.entity "0" value)
  | some (.array items) => .error (.invalidShape items.length)
  | other => .error (.invalidArgument .subject (Kind.of other))

def encode : Subject → Json
  | .entity type value => .object (.single type value)
  | .bare type => .string type

@[simp] theorem decode_encode (s : Subject) : decode (some s.encode) = .ok s := by
  cases s <;> rfl

@[simp] theorem typeName_of (type : String) (value : Option Json) : (of type value).typeName = type := by
  cases value <;> rfl

@[simp] theorem value?_of (type : String) (value : Option Json) : (of type value).value? = value := by
  cases value <;> rfl

end Subject

end Permit
