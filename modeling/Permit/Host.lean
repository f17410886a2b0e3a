import Permit.Log.Subscriber
import Permit.Store.Family

/-!
# Hosts

A process that has a family of stores and a log. What happens in the stores goes to the log, and nothing comes back.
-/

namespace Permit

structure Host where
  journal : Log.Journal
  family : Family

namespace Host

/-- A process that has one store and no subscriber yet. -/
def of (s : Store) : Host := ⟨.fresh, .of s⟩

def records (t : Trace) : List Log.Record := t.events.map Event.record

@[simp] theorem records_append (s t : Trace) : records (s ++ t) = records s ++ records t := by
  simp [records]

def install (h : Host) (settings : Log.Settings) : Log.Installed × Host :=
  let (installed, journal) := h.journal.install settings
  (installed, { h with journal })

def installAll (h : Host) (all : List Log.Settings) : List Log.Installed × Host :=
  let (installed, journal) := h.journal.installAll all
  (installed, { h with journal })

/-- Performs a call on the store with a number; its events go to the log. -/
def perform (h : Host) (i : Nat) (c : Call) : Done × Host :=
  let (done, family) := h.family.perform i c
  (done, ⟨h.journal.record (records done.trace), family⟩)

def step (h : Host) (s : Family.Step) : Family.Result × Host :=
  let (result, family) := h.family.step s
  (result, ⟨h.journal.record (records result.trace), family⟩)

def runAll (h : Host) : List Family.Step → List Family.Result × Host
  | [] => ([], h)
  | s :: rest =>
      let (result, h') := h.step s
      let (results, h'') := h'.runAll rest
      (result :: results, h'')

end Host

end Permit
