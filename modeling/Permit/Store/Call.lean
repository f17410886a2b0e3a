import Permit.Store.Basic

/-!
# Calls on a store

The calls as data, and what a run of them does. A call that is refused or panics leaves the store as it was.
-/

namespace Permit

/-- A call on a store, typed or loose. -/
inductive Call where
  | evaluate (viewer : Option Json) (action : String) (subject : Subject)
  | evaluateLoose (viewer action subject : Option Json)
  | define (type : String) (actions : Actions) (rule : Rule)
  | defineLoose (type actions : Option Json) (rule : Rule)
  | undefine (type : String) (actions : Actions)
  | undefineLoose (type actions : Option Json)

inductive Reply where
  | allowed (answer : Bool)
  | changed
deriving DecidableEq, Repr

namespace Store

def answered (s : Store) (answer : Answer) : Except Refusal Reply × Store := (answer.map .allowed, s)

def changedTo (s : Store) : Except Refusal Store → Except Refusal Reply × Store
  | .error refusal => (.error refusal, s)
  | .ok s' => (.ok .changed, s')

def perform (s : Store) : Call → Effect (Except Refusal Reply × Store)
  | .evaluate viewer action subject => do return s.answered (← s.evaluate viewer action subject)
  | .evaluateLoose viewer action subject => do return s.answered (← s.evaluateLoose viewer action subject)
  | .define type actions rule => do return s.changedTo (.ok (← s.define type actions rule))
  | .defineLoose type actions rule => do return s.changedTo (← s.defineLoose type actions rule)
  | .undefine type actions => do return s.changedTo (← s.undefine type actions)
  | .undefineLoose type actions => do return s.changedTo (← s.undefineLoose type actions)

end Store

/-- What came of a call, and what it left in the trace. -/
structure Done where
  result : Outcome (Except Refusal Reply)
  trace : Trace

namespace Store

/-- Performs a call on a store with the memory as it is. -/
def turn (s : Store) (m : Memory) (c : Call) : Done × Store × Memory :=
  match s.perform c m with
  | ⟨.returned (reply, s'), m', t⟩ => (⟨.returned reply, t⟩, s', m')
  | ⟨.panicked message, m', t⟩ => (⟨.panicked message, t⟩, s, m')
  | ⟨.exhausted, m', t⟩ => (⟨.exhausted, t⟩, s, m')

def runAll (s : Store) (m : Memory) : List Call → List Done × Store × Memory
  | [] => ([], s, m)
  | c :: cs =>
      let (done, s', m') := s.turn m c
      let (rest, s'', m'') := s'.runAll m' cs
      (done :: rest, s'', m'')

end Store

end Permit
