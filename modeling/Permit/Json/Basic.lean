import Permit.Dictionary
import Permit.Json.Number

/-!
# JSON values

The members of an object stand in the order of their names, so two objects with the same members are the same value
whatever order they were written in.
-/

namespace Permit

inductive Json where
  | null
  | bool (value : Bool)
  | number (value : Number)
  | string (value : String)
  | array (items : List Json)
  | object (members : Entries Json none)
deriving Inhabited

namespace Json

/-- The object with these members; of several with one name the last counts. -/
def ofMembers (members : List (String × Json)) : Json := .object (Dictionary.ofList members)

def ofNat (n : Nat) : Json := .number (.natural n.toUInt64)

def get? (name : String) : Json → Option Json
  | .object members => members.get? name
  | _ => none

mutual
/-- Equality of values: numbers as in `Number.same`, texts by code point, arrays and objects item by item. -/
def same : Json → Json → Bool
  | .null, .null => true
  | .bool a, .bool b => a == b
  | .number a, .number b => a.same b
  | .string a, .string b => a == b
  | .array as, .array bs => sameItems as bs
  | .object as, .object bs => sameMembers as bs
  | _, _ => false

def sameItems : List Json → List Json → Bool
  | [], [] => true
  | a :: as, b :: bs => same a b && sameItems as bs
  | _, _ => false

def sameMembers : {low high : Option String} → Entries Json low → Entries Json high → Bool
  | _, _, .nil, .nil => true
  | _, _, .cons m a as _, .cons n b bs _ => m == n && same a b && sameMembers as bs
  | _, _, _, _ => false
end

/-- Equality of values that may be absent: absent equals only absent. -/
def sameOptional : Option Json → Option Json → Bool
  | none, none => true
  | some a, some b => a.same b
  | _, _ => false

end Json

end Permit
