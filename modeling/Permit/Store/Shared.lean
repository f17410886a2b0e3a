import Permit.Store.Call

/-!
# Shared stores

One store behind a lock, reached through any number of handles. A check holds the lock for reading, a change holds it for
writing, and both convert their arguments while they hold it. A change that panics leaves the lock poisoned, and every
call after it panics; a panic under a lock for reading does no harm.
-/

namespace Permit

/-- An argument that is converted when the call has the lock; the conversion may panic. -/
inductive Conversion (α : Type) where
  | gives (value : α)
  | panics (message : String)

/-- Converts the argument; the trace shows that it was tried. -/
def Conversion.run {α : Type} (c : Conversion α) : Effect α := do
  Effect.note .converted
  match c with
  | .gives value => return value
  | .panics message => Effect.panic message

structure Shared where
  store : Store
  poisoned : Bool
  handles : Nat

namespace Shared

def of (s : Store) : Shared := ⟨s, false, 1⟩

inductive Call where
  | evaluate (viewer : Option Json) (action : String) (subject : Conversion Subject)
  | define (type : Conversion String) (actions : Conversion Actions) (rule : Conversion Rule)
  | undefine (type : String) (actions : Conversion Actions)
  | knows (type : String)
  /-- Makes another handle. This does not take the lock. -/
  | clone

inductive Reply where
  | allowed (answer : Bool)
  | changed
  | known (answer : Bool)
  | handle (number : Nat)
deriving DecidableEq, Repr

/-- What every call that takes a poisoned lock panics with. -/
def poisonMessage : String := "policy store poisoned: PoisonError \x7b .. \x7d"

abbrev Turn := Run (Except Refusal Reply) × Shared

def reading (sh : Shared) (m : Memory) (x : Effect (Except Refusal Reply)) : Turn :=
  if sh.poisoned then (Effect.panic poisonMessage m, sh) else (x m, sh)

/-- Makes a change with the lock held for writing; a panic leaves the lock poisoned and the store as it was. -/
def writing (sh : Shared) (m : Memory) (x : Effect (Except Refusal Permit.Reply × Store)) : Turn :=
  if sh.poisoned then (Effect.panic poisonMessage m, sh)
  else
    match x m with
    | ⟨.returned (reply, s), m', t⟩ => (⟨.returned (reply.map fun _ => .changed), m', t⟩, { sh with store := s })
    | ⟨.panicked message, m', t⟩ => (⟨.panicked message, m', t⟩, { sh with poisoned := true })
    | ⟨.exhausted, m', t⟩ => (⟨.exhausted, m', t⟩, sh)

/-- A check converts its subject once the viewer is accepted. -/
def checking (s : Store) (viewer : Option Json) (action : String) (subject : Conversion Subject) : Effect Answer :=
  match Argument.checkViewer viewer with
  | .error refusal => pure (.error refusal)
  | .ok () => do s.evaluate viewer action (← subject.run)

/-- A definition converts its arguments in their order, and then changes the store. -/
def defining (s : Store) (type : Conversion String) (actions : Conversion Actions) (rule : Conversion Rule) :
    Effect (Except Refusal Permit.Reply × Store) := do
  let type ← type.run
  let actions ← actions.run
  let rule ← rule.run
  s.perform (.define type actions rule)

def undefining (s : Store) (type : String) (actions : Conversion Actions) :
    Effect (Except Refusal Permit.Reply × Store) := do
  let actions ← actions.run
  s.perform (.undefine type actions)

def perform (sh : Shared) (m : Memory) : Call → Turn
  | .evaluate viewer action subject => sh.reading m do return (← checking sh.store viewer action subject).map .allowed
  | .define type actions rule => sh.writing m (defining sh.store type actions rule)
  | .undefine type actions => sh.writing m (undefining sh.store type actions)
  | .knows type => sh.reading m (return .ok (.known (sh.store.knows type)))
  | .clone => (⟨.returned (.ok (.handle sh.handles)), m, []⟩, { sh with handles := sh.handles + 1 })

def runAll (sh : Shared) (m : Memory) : List Call → List (Outcome (Except Refusal Reply) × Trace) × Shared × Memory
  | [] => ([], sh, m)
  | c :: cs =>
      let (run, sh') := sh.perform m c
      let (rest, sh'', m') := sh'.runAll run.memory cs
      ((run.outcome, run.trace) :: rest, sh'', m')

end Shared

end Permit
