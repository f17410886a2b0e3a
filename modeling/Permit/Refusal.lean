import Permit.Json.Kind

/-!
# Refusals and failures

A call is refused when an argument is of the wrong kind, the subject has the wrong shape, the type is unknown, or the
rule failed. A rule fails with a message, a property that could not be read, or the refusal of a check of its own, and
each may carry contexts. A failure is told as a chain: its message first, then its causes.
-/

namespace Permit

inductive Argument where
  | viewer
  | action
  | subject
  | type
  | actions
deriving DecidableEq, Repr

namespace Argument

def name : Argument → String
  | .viewer => "viewer"
  | .action => "action"
  | .subject => "subject"
  | .type => "type"
  | .actions => "action(s)"

def expected : Argument → String
  | .viewer => "an object, null, or undefined"
  | .action | .type => "a string"
  | .subject => "an object or a string"
  | .actions => "a string or an array of strings"

def mismatch (argument : Argument) (actual : Kind) : String :=
  "invalid argument `" ++ argument.name ++ "`: expected " ++ argument.expected ++ ", but got " ++ actual.name

end Argument

mutual
inductive Refusal where
  | invalidArgument (argument : Argument) (actual : Kind)
  | invalidShape (members : Nat)
  | unknownType (type : String)
  | rule (failure : Failure)

inductive Failure where
  | message (text : String)
  | unreadable (read : Unreadable)
  | refused (refusal : Refusal)
  | context (text : String) (cause : Failure)
end

deriving instance DecidableEq for Refusal, Failure

def Refusal.shapeMessage (members : Nat) : String :=
  "subject must have exactly one property, but got " ++ toString members

def Refusal.unknownMessage (type : String) : String := "unknown permission type `" ++ type ++ "`"

mutual
/-- A refusal by a rule says what the failure says. -/
def Refusal.message : Refusal → String
  | .invalidArgument argument actual => argument.mismatch actual
  | .invalidShape members => Refusal.shapeMessage members
  | .unknownType type => Refusal.unknownMessage type
  | .rule failure => failure.text

/-- The first message of the chain. -/
def Failure.text : Failure → String
  | .message text => text
  | .unreadable read => read.message
  | .refused refusal => refusal.message
  | .context text _ => text
end

mutual
def Refusal.causes : Refusal → List String
  | .rule failure => failure.causes
  | _ => []

/-- The messages of the chain after the first. The refusal of a check adds no message of its own. -/
def Failure.causes : Failure → List String
  | .message _ | .unreadable _ => []
  | .refused refusal => refusal.causes
  | .context _ cause => cause.text :: cause.causes
end

namespace Failure

/-- All messages, the outermost first. -/
def chain (f : Failure) : List String := f.text :: f.causes

/-- The property read at the root of the failure, under any contexts. -/
def unreadable? : Failure → Option Unreadable
  | .unreadable read => some read
  | .context _ cause => cause.unreadable?
  | _ => none

/-- The refusal at the root of the failure, under any contexts. -/
def refusal? : Failure → Option Refusal
  | .refused refusal => some refusal
  | .context _ cause => cause.refusal?
  | _ => none

/-- Wraps a failure in contexts, the first of them outermost. -/
def within (contexts : List String) (f : Failure) : Failure := contexts.foldr .context f

@[simp] theorem chain_context (text : String) (f : Failure) : (context text f).chain = text :: f.chain := by
  simp [chain, Failure.text, causes]

@[simp] theorem chain_refused_rule (f : Failure) : (refused (.rule f)).chain = f.chain := by
  simp [chain, Failure.text, causes, Refusal.message, Refusal.causes]

theorem chain_within (contexts : List String) (f : Failure) : (f.within contexts).chain = contexts ++ f.chain := by
  induction contexts with
  | nil => rfl
  | cons c cs ih => simpa [within] using ih

end Failure

namespace Refusal

def argument? : Refusal → Option Argument
  | .invalidArgument argument _ => some argument
  | _ => none

end Refusal

end Permit
