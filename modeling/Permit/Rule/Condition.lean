import Permit.Rule.Basic

/-!
# Written predicates

A condition is a predicate in written form. Conditions are decided from left to right and no further than needed; the
first error ends them all. The flags of all `sequence` conditions of one predicate are drawn with a common count.
-/

namespace Permit

inductive Term where
  | viewer
  | entity
  | absent
  | literal (value : Json)
  | property (target : Term) (name : String)
deriving Inhabited

def Term.value (viewer entity : Option Json) : Term → Except Unreadable (Option Json)
  | .viewer => .ok viewer
  | .entity => .ok entity
  | .absent => .ok none
  | .literal value => .ok (some value)
  | .property target name =>
      match target.value viewer entity with
      | .error e => .error e
      | .ok v => (Json.property v name).map some

inductive Condition where
  | constant (answer : Bool)
  | truthy (term : Term)
  | equal (left right : Term)
  | ofKind (term : Term) (name : String)
  | not (condition : Condition)
  | all (conditions : List Condition)
  | any (conditions : List Condition)
  | fail (text : String)
  | panic (message : String)
  | context (text : String) (condition : Condition)
  | probe (condition : Condition)
  | sequence (flags : List Bool)
  | check (action type : String)
deriving Inhabited

namespace Condition

/-- What comes after a condition: a script that depends on its answer. -/
abbrev After := Except Failure Bool → Script

/-- A test of values, which fails when one of them cannot be read. -/
def tested (test : Except Unreadable Bool) : Except Failure Bool := test.mapError .unreadable

def isEqual (viewer entity : Option Json) (left right : Term) : Except Unreadable Bool := do
  let a ← left.value viewer entity
  let b ← right.value viewer entity
  return Json.sameOptional a b

/-- A sequence without flags cannot be drawn from. -/
def noFlags : String := "attempt to calculate the remainder with a divisor of zero"

def drawn (flags : List Bool) (after : After) : Script :=
  .load fun n => .save (n + 1)
    (match flags[n % flags.length]? with
    | some flag => after (.ok flag)
    | none => .panic noFlags)

mutual
/-- The script that decides a condition and goes on with its answer. -/
def script (viewer entity : Option Json) : Condition → After → Script
  | .constant answer, after => after (.ok answer)
  | .truthy term, after =>
      after (tested ((term.value viewer entity).map fun v => (v.map Json.truthy).getD false))
  | .equal left right, after => after (tested (isEqual viewer entity left right))
  | .ofKind term name, after =>
      after (tested ((term.value viewer entity).map fun v => (Kind.of v).name == name))
  | .not c, after => script viewer entity c fun answer => after (answer.map Bool.not)
  | .all cs, after => allOf viewer entity cs after
  | .any cs, after => anyOf viewer entity cs after
  | .fail text, after => after (.error (.message text))
  | .panic message, _ => .panic message
  | .context text c, after => script viewer entity c fun answer => after (answer.mapError (.context text))
  | .probe c, after => .probe viewer entity (script viewer entity c after)
  | .sequence flags, after => drawn flags after
  | .check action type, after =>
      .check viewer action (Subject.of type entity) fun answer => after (answer.mapError .refused)

def allOf (viewer entity : Option Json) : List Condition → After → Script
  | [], after => after (.ok true)
  | c :: cs, after => script viewer entity c fun
      | .ok true => allOf viewer entity cs after
      | other => after other

def anyOf (viewer entity : Option Json) : List Condition → After → Script
  | [], after => after (.ok false)
  | c :: cs, after => script viewer entity c fun
      | .ok false => anyOf viewer entity cs after
      | other => after other
end

/-- The predicate of a condition, with the cell for its count. -/
def predicate (cell : Nat) (c : Condition) : Predicate :=
  ⟨cell, fun viewer entity => c.script viewer entity .finish⟩

end Condition

end Permit
