import Permit.Store.Call

/-!
# Families of stores

Stores made from clones of each other's tables. Each has a table of its own, but a predicate and its copies keep one
number, whatever stores they are in.
-/

namespace Permit

structure Family where
  stores : List Store
  memory : Memory

namespace Family

def of (s : Store) : Family := ⟨[s], Memory.fresh⟩

/-- The store with a number; there is always a first one, so a number that is not taken gets an empty store. -/
def store (f : Family) (i : Nat) : Store := (f.stores[i]?).getD Store.empty

def set (f : Family) (i : Nat) (s : Store) : Family := { f with stores := f.stores.set i s }

def perform (f : Family) (i : Nat) (c : Call) : Done × Family :=
  let (done, s, m) := (f.store i).turn f.memory c
  (done, { f.set i s with memory := m })

/-- Adds a store with a clone of the table of another, and gives its number. -/
def fork (f : Family) (i : Nat) : Nat × Family :=
  (f.stores.length, { f with stores := f.stores ++ [f.store i] })

/-- Takes the table out of a store, takes one more step with it, and makes a store of it. -/
def rebuild (f : Family) (i : Nat) (step : Table.Step) : Family :=
  f.set i ⟨(f.store i).table.step step⟩

/-- The call that gives actions a copy of a rule; where there is none to copy it denies. -/
def copyCall (f : Family) (i : Nat) (source : String × String) (type : String) (actions : Actions) : Call :=
  .define type actions (((f.store i).rule? source.1 source.2).getD .deny)

/-- What can be done with the store that has a number. -/
inductive Step where
  | call (store : Nat) (call : Call)
  | copy (store : Nat) (source : String × String) (type : String) (actions : Actions)
  | fork (store : Nat)
  | rebuild (store : Nat) (step : Table.Step)

inductive Result where
  | called (done : Done)
  | forked (number : Nat)
  | rebuilt

/-- Only calls leave a trace. -/
def Result.trace : Result → Trace
  | .called done => done.trace
  | .forked _ | .rebuilt => []

def step (f : Family) : Step → Result × Family
  | .call i c =>
      let (done, f') := f.perform i c
      (.called done, f')
  | .copy i source type actions =>
      let (done, f') := f.perform i (f.copyCall i source type actions)
      (.called done, f')
  | .fork i =>
      let (number, f') := f.fork i
      (.forked number, f')
  | .rebuild i step => (.rebuilt, f.rebuild i step)

def runAll (f : Family) : List Step → List Result × Family
  | [] => ([], f)
  | s :: rest =>
      let (result, f') := f.step s
      let (results, f'') := f'.runAll rest
      (result :: results, f'')

end Family

end Permit
