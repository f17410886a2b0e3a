import Permit.Event

/-!
# Effects

What a call does besides giving a value: it may panic, it may change the numbers that predicates keep, and it leaves a
trace. `Effect` is the computation, `Run` what comes of it.
-/

namespace Permit

/-- The number that each predicate keeps, by its cell. -/
abbrev Memory := Nat → Nat

namespace Memory

/-- Before the first run every predicate keeps zero. -/
def fresh : Memory := fun _ => 0

def set (m : Memory) (cell value : Nat) : Memory := fun c => if c = cell then value else m c

@[simp] theorem set_self (m : Memory) (cell value : Nat) : m.set cell value cell = value := by
  simp [set]

end Memory

inductive Outcome (α : Type) where
  | returned (value : α)
  | panicked (message : String)
  /-- Checks nested deeper than was allowed. -/
  | exhausted
deriving DecidableEq, Repr

/-- What happened on the way, in order. -/
inductive Entry where
  | emitted (event : Event)
  | invoked (predicate : Predicate) (viewer entity : Option Json)
  | probed (viewer entity : Option Json)
  /-- An argument of a call on a shared store was converted. -/
  | converted

abbrev Trace := List Entry

namespace Trace

def events (t : Trace) : List Event :=
  t.filterMap fun | .emitted e => some e | _ => none

def probes (t : Trace) : List (Option Json × Option Json) :=
  t.filterMap fun | .probed viewer entity => some (viewer, entity) | _ => none

def invocations (t : Trace) : List (Predicate × Option Json × Option Json) :=
  t.filterMap fun | .invoked p viewer entity => some (p, viewer, entity) | _ => none

@[simp] theorem events_append (s t : Trace) : (s ++ t).events = s.events ++ t.events := by
  simp [events]

@[simp] theorem probes_append (s t : Trace) : (s ++ t).probes = s.probes ++ t.probes := by
  simp [probes]

@[simp] theorem invocations_append (s t : Trace) : (s ++ t).invocations = s.invocations ++ t.invocations := by
  simp [invocations]

end Trace

structure Run (α : Type) where
  outcome : Outcome α
  memory : Memory
  trace : Trace

def Effect (α : Type) := Memory → Run α

namespace Effect

variable {α β : Type}

def pure (a : α) : Effect α := fun m => ⟨.returned a, m, []⟩

/-- A panic ends all that would come after it. -/
def bind (x : Effect α) (f : α → Effect β) : Effect β := fun m =>
  match x m with
  | ⟨.returned a, m', t⟩ =>
      let rest := f a m'
      ⟨rest.outcome, rest.memory, t ++ rest.trace⟩
  | ⟨.panicked message, m', t⟩ => ⟨.panicked message, m', t⟩
  | ⟨.exhausted, m', t⟩ => ⟨.exhausted, m', t⟩

instance : Monad Effect where
  pure := Effect.pure
  bind := Effect.bind

def panic (message : String) : Effect α := fun m => ⟨.panicked message, m, []⟩

def exhausted : Effect α := fun m => ⟨.exhausted, m, []⟩

def note (entry : Entry) : Effect Unit := fun m => ⟨.returned (), m, [entry]⟩

def emit (event : Event) : Effect Unit := note (.emitted event)

def load (cell : Nat) : Effect Nat := fun m => ⟨.returned (m cell), m, []⟩

def save (cell value : Nat) : Effect Unit := fun m => ⟨.returned (), m.set cell value, []⟩

@[simp] theorem pure_apply (a : α) (m : Memory) : (Pure.pure a : Effect α) m = ⟨.returned a, m, []⟩ := rfl

theorem bind_apply (x : Effect α) (f : α → Effect β) (m : Memory) : (x >>= f) m = x.bind f m := rfl

@[simp] theorem note_apply (entry : Entry) (m : Memory) : note entry m = ⟨.returned (), m, [entry]⟩ := rfl

theorem pure_bind (a : α) (f : α → Effect β) : (Pure.pure a >>= f) = f a := by
  funext m; rfl

end Effect

end Permit
