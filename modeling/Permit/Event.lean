import Permit.Log.Record
import Permit.Rule.Basic

/-!
# Events of a store
-/

namespace Permit

inductive Event where
  /-- Actions of a type are about to get a rule. -/
  | defining (type : String) (actions : Nat) (rule : Rule.Kind)
  /-- Of the requested actions of a type some had a rule. -/
  | undefined (type : String) (removed requested : Nat)
  /-- Rules of a type that nobody defined cannot be removed. -/
  | undefinedUnknown (type : String)
  | decided (type action : String) (rule : Rule.Kind) (allowed : Bool)
  /-- A permission of a type that nobody defined was checked. -/
  | checkedUnknown (type action : String)
  | predicateFailed (type action error : String)
deriving DecidableEq, Repr

namespace Event

def target : String := "warden_policy::store"

def level : Event → Log.Level
  | .defining .. | .undefined .. | .decided .. => .debug
  | .undefinedUnknown _ | .checkedUnknown .. | .predicateFailed .. => .warn

def message : Event → String
  | .defining .. => "defining policy rule"
  | .undefined .. => "undefined policy rules"
  | .undefinedUnknown _ => "cannot undefine actions of unknown type"
  | .decided .. => "policy decision"
  | .checkedUnknown .. => "permission check against unknown type"
  | .predicateFailed .. => "predicate rule failed"

def fields : Event → List (String × Log.Field)
  | .defining type actions rule =>
      [("type_name", .plain type), ("actions", .count actions), ("rule", .plain rule.name)]
  | .undefined type removed requested =>
      [("type_name", .quoted type), ("removed", .count removed), ("requested", .count requested)]
  | .undefinedUnknown type => [("type_name", .quoted type)]
  | .decided type action rule allowed =>
      [("type_name", .quoted type), ("action", .quoted action), ("rule", .plain rule.name), ("allowed", .flag allowed)]
  | .checkedUnknown type action => [("type_name", .quoted type), ("action", .quoted action)]
  | .predicateFailed type action error =>
      [("type_name", .quoted type), ("action", .quoted action), ("error", .plain error)]

def record (e : Event) : Log.Record := ⟨e.level, target, e.message, e.fields⟩

end Event

end Permit
