import Permit.Check
import Permit.Table.Build

/-!
# Stores

A store owns a table, answers checks and takes changes. Every call has a form with typed arguments and a form with loose
ones; the loose form refuses bad arguments before anything else happens, the first bad one in the order of the arguments.
-/

namespace Permit

structure Store where
  table : Table

namespace Store

def empty : Store := ⟨Table.empty⟩

def knows (s : Store) (type : String) : Bool := s.table.knows type

def rule? (s : Store) (type action : String) : Option Rule := s.table.rule? type action

def evaluate (s : Store) : Asked := s.table.evaluate (s.table.depth + 1)

/-- The arguments of a check, when each of them is what it has to be. -/
def checkArguments (viewer action subject : Option Json) : Except Refusal (String × Subject) := do
  Argument.checkViewer viewer
  let action ← Argument.action.text action
  let subject ← Subject.decode subject
  return (action, subject)

def evaluateLoose (s : Store) (viewer action subject : Option Json) : Effect Answer :=
  match checkArguments viewer action subject with
  | .error refusal => pure (.error refusal)
  | .ok (action, subject) => s.table.decide (s.table.evaluate s.table.depth) viewer action subject

/-- Gives the actions a rule. The event comes before the change. -/
def define (s : Store) (type : String) (actions : Actions) (rule : Rule) : Effect Store := do
  Effect.emit (.defining type actions.size rule.kind)
  return ⟨s.table.define type actions.names rule⟩

/-- Removes the rules of the actions; a type that is not known is refused. -/
def undefine (s : Store) (type : String) (actions : Actions) : Effect (Except Refusal Store) :=
  match s.table.undefine? type actions.names with
  | none => do
      Effect.emit (.undefinedUnknown type)
      return .error (.unknownType type)
  | some (table, removed) => do
      Effect.emit (.undefined type removed actions.size)
      return .ok ⟨table⟩

/-- The arguments of a change, when each of them is what it has to be. -/
def changeArguments (type actions : Option Json) : Except Refusal (String × Actions) := do
  let type ← Argument.type.text type
  let actions ← Actions.decode actions
  return (type, actions)

def defineLoose (s : Store) (type actions : Option Json) (rule : Rule) : Effect (Except Refusal Store) :=
  match changeArguments type actions with
  | .error refusal => pure (.error refusal)
  | .ok (type, actions) => do
      let s ← s.define type actions rule
      return .ok s

def undefineLoose (s : Store) (type actions : Option Json) : Effect (Except Refusal Store) :=
  match changeArguments type actions with
  | .error refusal => pure (.error refusal)
  | .ok (type, actions) => s.undefine type actions

end Store

end Permit
