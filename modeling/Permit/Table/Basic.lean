import Permit.Actions
import Permit.Rule.Basic

/-!
# Tables of rules

For each known type a row, in which some actions have a rule. A type may be known without any rule. Two tables are the
same when they know the same types and have the same rule for each type and action.
-/

namespace Permit

abbrev Row := Dictionary Rule

structure Table where
  rows : Dictionary Row

namespace Table

def empty : Table := ⟨.nil⟩

def row? (t : Table) (type : String) : Option Row := t.rows.get? type

def knows (t : Table) (type : String) : Bool := (t.row? type).isSome

def rule? (t : Table) (type action : String) : Option Rule := (t.row? type).bind (·.get? action)

def typeNames (t : Table) : List String := t.rows.keys

def size (t : Table) : Nat := t.rows.size

def isEmpty (t : Table) : Bool := t.rows.isEmpty

/-- The actions of a known type that have a rule. -/
def actionNames? (t : Table) (type : String) : Option (List String) := (t.row? type).map (·.keys)

/-- The same types are known and the same rules are found. -/
def Same (s t : Table) : Prop :=
  (∀ type, s.knows type = t.knows type) ∧ ∀ type action, s.rule? type action = t.rule? type action

/-- The row of a type, empty for a type that is not known. -/
def rowOf (t : Table) (type : String) : Row := (t.row? type).getD .nil

def setRow (t : Table) (type : String) (row : Row) : Table := ⟨t.rows.insert type row⟩

def ensure (t : Table) (type : String) : Table := t.setRow type (t.rowOf type)

/-- Gives one action a rule, and makes its type known. -/
def insert (t : Table) (type action : String) (rule : Rule) : Table :=
  t.setRow type ((t.rowOf type).insert action rule)

/-- Gives each of the actions the rule, and makes the type known even if there are none. -/
def define (t : Table) (type : String) (actions : List String) (rule : Rule) : Table :=
  t.setRow type (actions.foldl (fun row action => row.insert action rule) (t.rowOf type))

/-- Removes the actions one after the other, counting those that had a rule. -/
def removeAll : List String → Row → Row × Nat
  | [], row => (row, 0)
  | action :: actions, row =>
      match row.get? action with
      | none => removeAll actions row
      | some _ =>
          let (rest, removed) := removeAll actions (row.erase action)
          (rest, removed + 1)

/-- Removes the rules of the actions and counts them; the type stays known. Nothing can be removed from a type that is
not known. -/
def undefine? (t : Table) (type : String) (actions : List String) : Option (Table × Nat) :=
  (t.row? type).map fun row =>
    let (rest, removed) := removeAll actions row
    (t.setRow type rest, removed)

/-- How many predicates the table holds. -/
def predicateCount (t : Table) : Nat :=
  t.rows.toList.foldl (fun n (_, row) => n + row.toList.countP fun (_, rule) => rule.isPredicate) 0

@[simp] theorem row?_setRow (t : Table) (type other : String) (row : Row) :
    (t.setRow type row).row? other = if type = other then some row else t.row? other :=
  Dictionary.get?_insert type other row t.rows

end Table

end Permit
