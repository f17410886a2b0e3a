import Permit.Rule.Script

/-!
# Rules

A rule allows, denies, or asks a predicate. A predicate is given the viewer and the entity as the caller passed them. All
copies of a predicate are one predicate: they share the cell in which it keeps its number.
-/

namespace Permit

structure Predicate where
  cell : Nat
  script : Option Json → Option Json → Script

inductive Rule where
  | allow
  | deny
  | predicate (predicate : Predicate)

namespace Rule

inductive Kind where
  | allow
  | deny
  | predicate
deriving DecidableEq, Repr

def Kind.name : Kind → String
  | .allow => "allow"
  | .deny => "deny"
  | .predicate => "predicate"

def kind : Rule → Kind
  | .allow => .allow
  | .deny => .deny
  | .predicate _ => .predicate

def ofBool (allowed : Bool) : Rule := if allowed then .allow else .deny

def isPredicate (r : Rule) : Bool := r.kind == .predicate

/-- The text of a rule for programmers; it does not look into a predicate. -/
def shown : Rule → String
  | .allow => "Allow"
  | .deny => "Deny"
  | .predicate _ => "Predicate(..)"

end Rule

end Permit
