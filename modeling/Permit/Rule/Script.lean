import Permit.Subject

/-!
# Scripts

What a predicate does when it is asked, step by step: it may note what it was given, use the number it keeps between
runs, and check other permissions, until it has an answer, fails or panics. A script is finite along every path, so a
predicate can run for ever only through the checks it makes.
-/

namespace Permit

inductive Script where
  | finish (answer : Except Failure Bool)
  | panic (message : String)
  /-- Notes what the predicate was given. -/
  | probe (viewer entity : Option Json) (next : Script)
  /-- Goes on with the number that the predicate keeps. -/
  | load (next : Nat → Script)
  | save (value : Nat) (next : Script)
  /-- Checks another permission on the store that the predicate is asked for. -/
  | check (viewer : Option Json) (action : String) (subject : Subject) (next : Except Refusal Bool → Script)

namespace Script

/-- The script neither uses nor changes the number it keeps. -/
inductive Stateless : Script → Prop where
  | finish (answer) : Stateless (.finish answer)
  | panic (message) : Stateless (.panic message)
  | probe (viewer entity) {next} : Stateless next → Stateless (.probe viewer entity next)
  | check (viewer action subject) {next} : (∀ r, Stateless (next r)) → Stateless (.check viewer action subject next)

/-- The script checks no other permission. -/
inductive Solitary : Script → Prop where
  | finish (answer) : Solitary (.finish answer)
  | panic (message) : Solitary (.panic message)
  | probe (viewer entity) {next} : Solitary next → Solitary (.probe viewer entity next)
  | load {next} : (∀ n, Solitary (next n)) → Solitary (.load next)
  | save (value) {next} : Solitary next → Solitary (.save value next)

/-- On some path the script checks this type and action. -/
inductive MayCheck (type action : String) : Script → Prop where
  | here (viewer) {subject next} : subject.typeName = type → MayCheck type action (.check viewer action subject next)
  | check (viewer action' subject) {next} (r) : MayCheck type action (next r) →
      MayCheck type action (.check viewer action' subject next)
  | probe (viewer entity) {next} : MayCheck type action next → MayCheck type action (.probe viewer entity next)
  | load {next} (n) : MayCheck type action (next n) → MayCheck type action (.load next)
  | save (value) {next} : MayCheck type action next → MayCheck type action (.save value next)

end Script

end Permit
