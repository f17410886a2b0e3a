import Permit.Blog
import Permit.Host
import Permit.Text.Severed

/-!
# The tour

A walk through the blog: checks by the rules it starts with, a rule copied and removed again, and calls that are refused.
The walk tells what it does by records of its own. A report on a check makes the check only if the report is shown, so
the checks that are made depend on the filter.
-/

namespace Permit.Tour

open Blog

inductive Step where
  | say (message : String)
  | report (message : String) (viewer : Option Json) (action : String) (subject : Subject)
  /-- Gives actions a copy of the rule of another action. -/
  | copy (type source : String) (actions : List String)
  | undefine (type : String) (actions : List String)
  /-- Makes a call, and tells why it was refused. -/
  | complain (message : String) (call : Call)

/-- How far a walk has come. -/
structure Visit where
  host : Host
  trace : Trace
  /-- A check that should have had an answer was refused, and the walk is over. -/
  refused : Option Refusal

def target : String := "basic_permissions"

def saying (message : String) : Log.Record := ⟨.info, target, message, []⟩

def reporting (message : String) (allowed : Bool) : Log.Record :=
  ⟨.info, target, message, [("allowed", .flag allowed)]⟩

def complaining (message error : String) : Log.Record := ⟨.warn, target, message, [("err", .plain error)]⟩

namespace Visit

def tell (v : Visit) (r : Log.Record) : Visit :=
  { v with host := { v.host with journal := v.host.journal.record [r] } }

def call (v : Visit) (c : Call) : Outcome (Except Refusal Reply) × Visit :=
  let (done, host) := v.host.perform 0 c
  (done.result, { v with host, trace := v.trace ++ done.trace })

/-- Whether a report is shown; its answer does not matter for that. -/
def shows (v : Visit) (message : String) : Bool :=
  match v.host.journal.subscriber with
  | none => false
  | some s => s.shows (reporting message false)

def step (v : Visit) : Step → Visit
  | .say message => v.tell (saying message)
  | .report message viewer action subject =>
      if v.shows message then
        match v.call (.evaluate viewer action subject) with
        | (.returned (.ok (.allowed b)), v') => v'.tell (reporting message b)
        | (.returned (.error refusal), v') => { v' with refused := some refusal }
        | (_, v') => v'
      else v
  | .copy type source actions => (v.call (v.host.family.copyCall 0 (type, source) type (.many actions))).2
  | .undefine type actions =>
      match v.call (.undefine type (.many actions)) with
      | (.returned (.error refusal), v') => { v' with refused := some refusal }
      | (_, v') => v'
  | .complain message c =>
      match v.call c with
      | (.returned (.error refusal), v') => v'.tell (complaining message refusal.message)
      | (_, v') => v'

/-- Takes the steps one after the other, until a check is refused. -/
def walk (v : Visit) : List Step → Visit
  | [] => v
  | s :: rest =>
      match (v.step s).refused with
      | none => (v.step s).walk rest
      | some _ => v.step s

end Visit

def steps : List Step :=
  [ .say "--- Checking the seeded rules ---"
  , .report "author edits own post" (some author) "edit" post
  , .report "stranger edits post" (some stranger) "edit" post
  , .report "anonymous reads posts" none "see" (.bare "post")
  , .report "stranger deletes post" (some stranger) "delete" (.bare "post")
  , .say "--- Changing the rules at runtime ---"
  , .copy "post" "edit" ["delete", "archive"]
  , .report "author deletes own post" (some author) "delete" post
  , .undefine "post" ["delete", "archive"]
  , .report "author deletes after undefine" (some author) "delete" post
  , .say "--- Calls the store rejects ---"
  , .complain "edit rule needs a post, not just its type" (.evaluate (some author) "edit" (.bare "post"))
  , .complain "subject map without a type"
      (.evaluateLoose (some author) (some (.string "see")) (some (.object .nil)))
  , .complain "type never defined" (.evaluate (some author) "create" (.entity "tweet" (.object .nil))) ]

/-- The walk from the blog as it starts. -/
def visit (j : Log.Journal) : Visit := Visit.walk ⟨⟨j, .of ⟨Blog.table⟩⟩, [], none⟩ steps

structure Ending where
  exit : Nat
  stdout : String
  stderr : String
deriving DecidableEq, Repr

def failed (exit : Nat) (message : String) : Ending := ⟨exit, "", message ++ "\n"⟩

/-- The tour with the two environment variables; times in the log are written as `time`. -/
def run (filter ansi : Option String) (time : String) : Ending :=
  match Log.Journal.fresh.install (Log.Settings.ofEnvironment filter ansi) with
  | (.severed cut, _) => failed 101 cut.message
  | (.failed error, _) => failed 1 ("Error: " ++ error.message)
  | (.done, j) =>
      let v := visit j
      { exit := if v.refused.isSome then 1 else 0
        stdout := v.host.journal.log time
        stderr := match v.refused with
          | none => ""
          | some refusal => "Error: " ++ refusal.message ++ "\n" }

end Permit.Tour
