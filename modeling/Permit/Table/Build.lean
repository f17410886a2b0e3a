import Permit.Table.Basic

/-!
# Building tables

A table is built by steps before a store takes it. Unlike a definition in a store, a step for no actions does not make
the type known.
-/

namespace Permit.Table

inductive Step where
  | withType (type : String)
  | withRule (type action : String) (rule : Rule)
  | withActions (type : String) (actions : Actions) (rule : Rule)
  /-- Starts over with the rows that are given. -/
  | collect (rows : List (String × String × Rule))

def withActions (t : Table) (type : String) (actions : List String) (rule : Rule) : Table :=
  actions.foldl (fun t action => t.insert type action rule) t

/-- The table of some rows; of several for one type and action the last counts. -/
def collect (rows : List (String × String × Rule)) : Table :=
  rows.foldl (fun t row => t.insert row.1 row.2.1 row.2.2) empty

def step (t : Table) : Step → Table
  | .withType type => t.ensure type
  | .withRule type action rule => t.insert type action rule
  | .withActions type actions rule => t.withActions type actions.names rule
  | .collect rows => collect rows

def build (t : Table) (steps : List Step) : Table := steps.foldl step t

end Permit.Table
