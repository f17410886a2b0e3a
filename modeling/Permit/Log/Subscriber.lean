import Permit.Log.Settings
import Permit.Log.Line

/-!
# Subscribers

A process has at most one subscriber, and the first that is installed stays. Its filter is read before anything else, so
settings with a filter that is not well formed never install anything.
-/

namespace Permit.Log

structure Subscriber where
  settings : Settings
  filter : Filter
deriving DecidableEq, Repr

namespace Subscriber

def style (s : Subscriber) : Style := ⟨s.settings.withTarget, s.settings.ansi⟩

def shows (s : Subscriber) (r : Record) : Bool := s.filter.enables r.level r.target r.fieldNames

def lines (s : Subscriber) (time : String) (records : List Record) : List String :=
  (records.filter s.shows).map (Record.line s.style time)

end Subscriber

inductive InstallError where
  | invalidFilter (filter : String) (fault : Fault)
  | alreadyInstalled
deriving DecidableEq, Repr

namespace InstallError

/-- A process takes one subscriber only. -/
def alreadySet : String := "a global default trace dispatcher has already been set"

def reason : InstallError → String
  | .invalidFilter _ fault => fault.message
  | .alreadyInstalled => alreadySet

def message : InstallError → String
  | .invalidFilter filter fault => "invalid log filter `" ++ filter ++ "`: " ++ fault.message
  | .alreadyInstalled => "tracing subscriber already installed: " ++ alreadySet

end InstallError

/-- The filter of some settings, or what is wrong with it; the text of the filter is part of the error. -/
def Settings.validate (s : Settings) : Except Text.Severed (Except InstallError Filter) :=
  match s.read with
  | .accepted filter => .ok (.ok filter)
  | .rejected fault => .ok (.error (.invalidFilter s.filter fault))
  | .severed cut => .error cut

inductive Installed where
  | done
  | failed (error : InstallError)
  | severed (cut : Text.Severed)
deriving DecidableEq, Repr

/-- The log of a process: its subscriber, if there is one, and the records that were made since. -/
structure Journal where
  subscriber : Option Subscriber
  records : List Record
deriving DecidableEq, Repr

namespace Journal

def fresh : Journal := ⟨none, []⟩

def initialised (filter : String) : Record :=
  ⟨.debug, "warden_telemetry", "tracing initialised", [("filter", .quoted filter)]⟩

/-- Records made before there is a subscriber are lost. -/
def record (j : Journal) (records : List Record) : Journal :=
  match j.subscriber with
  | none => j
  | some _ => { j with records := j.records ++ records }

def install (j : Journal) (settings : Settings) : Installed × Journal :=
  match settings.read with
  | .severed cut => (.severed cut, j)
  | .rejected fault => (.failed (.invalidFilter settings.filter fault), j)
  | .accepted filter =>
      match j.subscriber with
      | some _ => (.failed .alreadyInstalled, j)
      | none => (.done, ⟨some ⟨settings, filter⟩, [initialised settings.filter]⟩)

def installAll (j : Journal) : List Settings → List Installed × Journal
  | [] => ([], j)
  | s :: rest =>
      let (result, j') := j.install s
      let (results, j'') := j'.installAll rest
      (result :: results, j'')

/-- The text of the log; a line for each record that is shown. -/
def log (j : Journal) (time : String) : String :=
  match j.subscriber with
  | none => ""
  | some s => String.join ((s.lines time j.records).map (· ++ "\n"))

end Journal

end Permit.Log
