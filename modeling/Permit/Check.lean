import Permit.Effect
import Permit.Argument
import Permit.Table.Basic

/-!
# Checks

A check asks a table whether a viewer may do an action to a subject. The rule that it finds may be a predicate, which may
make checks of its own; they see the same table. Each check that gets as far as the table leaves one event, after the
events of the checks that it made.
-/

namespace Permit

abbrev Answer := Except Refusal Bool

/-- Something that answers checks. -/
abbrev Asked := Option Json → String → Subject → Effect Answer

/-- Performs a script for the predicate that keeps its number in `cell`. -/
def Script.perform (ask : Asked) (cell : Nat) : Script → Effect (Except Failure Bool)
  | .finish answer => pure answer
  | .panic message => Effect.panic message
  | .probe viewer entity next => do
      Effect.note (.probed viewer entity)
      next.perform ask cell
  | .load next => do
      let n ← Effect.load cell
      (next n).perform ask cell
  | .save value next => do
      Effect.save cell value
      next.perform ask cell
  | .check viewer action subject next => do
      let answer ← ask viewer action subject
      (next answer).perform ask cell

def Predicate.invoke (ask : Asked) (p : Predicate) (viewer entity : Option Json) : Effect (Except Failure Bool) := do
  Effect.note (.invoked p viewer entity)
  (p.script viewer entity).perform ask p.cell

def Rule.decide (ask : Asked) (rule : Rule) (viewer entity : Option Json) : Effect (Except Failure Bool) :=
  match rule with
  | .allow => pure (.ok true)
  | .deny => pure (.ok false)
  | .predicate p => p.invoke ask viewer entity

namespace Table

/-- Decides by the rule that the table has; without one the answer is no. -/
def decide (ask : Asked) (t : Table) (viewer : Option Json) (action : String) (subject : Subject) : Effect Answer :=
  match t.row? subject.typeName with
  | none => do
      Effect.emit (.checkedUnknown subject.typeName action)
      return .error (.unknownType subject.typeName)
  | some row =>
      match row.get? action with
      | none => do
          Effect.emit (.decided subject.typeName action .deny false)
          return .ok false
      | some rule => do
          match ← rule.decide ask viewer subject.value? with
          | .error failure => do
              Effect.emit (.predicateFailed subject.typeName action failure.text)
              return .error (.rule failure)
          | .ok allowed => do
              Effect.emit (.decided subject.typeName action rule.kind allowed)
              return .ok allowed

/-- Checks the viewer first. Checks may nest up to `depth` levels, the outermost included. -/
def evaluate (t : Table) : Nat → Asked
  | 0, _, _, _ => Effect.exhausted
  | depth + 1, viewer, action, subject =>
      match Argument.checkViewer viewer with
      | .error refusal => pure (.error refusal)
      | .ok () => t.decide (evaluate t depth) viewer action subject

/-- How many levels are allowed for checks that come back to a predicate under way: more than any machine has room for. -/
def returns : Nat := 1000000000000000000

/-- Checks that never come back to a predicate under way nest no deeper than there are predicates. -/
def depth (t : Table) : Nat := returns + t.predicateCount

end Table

end Permit
