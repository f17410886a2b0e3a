import Permit.Host
import Permit.Proofs.Check.Decide
import Permit.Proofs.Check.Script

/-!
# Checks below checks

The predicate that decides a check may make checks of its own. A check tells what these tell, in their order, and then
how it came out itself; a check that is refused for its viewer, or does not come to its end, tells nothing of its own.
-/

namespace Permit

open Host (records)

/-- A check as it is made, with the numbers that the predicates keep then. -/
structure Inquiry where
  viewer : Option Json
  action : String
  subject : Subject
  memory : Memory

def Inquiry.run (ask : Asked) (q : Inquiry) : Run Answer := ask q.viewer q.action q.subject q.memory

/-- The checks that a script makes, in their order. -/
def Script.checks (ask : Asked) (cell : Nat) : Script → Memory → List Inquiry
  | .finish _, _ | .panic _, _ => []
  | .probe _ _ next, m => next.checks ask cell m
  | .load next, m => (next (m cell)).checks ask cell m
  | .save value next, m => next.checks ask cell (m.set cell value)
  | .check viewer action subject next, m =>
      ⟨viewer, action, subject, m⟩ ::
        match ask viewer action subject m with
        | ⟨.returned answer, m', _⟩ => (next answer).checks ask cell m'
        | _ => []

/-! ## What a check tells of itself -/

/-- A check that was made, by its type and its action, and what came of it. -/
structure Deed where
  type : String
  action : String
  /-- The kind of the rule for them, `deny` where there is none. -/
  kind : Rule.Kind
  outcome : Outcome Answer

namespace Deed

def decision (type action : String) (kind : Rule.Kind) (allowed : Bool) : Log.Record :=
  ⟨.debug, "warden_policy::store", "policy decision",
    [("type_name", .quoted type), ("action", .quoted action), ("rule", .plain kind.name), ("allowed", .flag allowed)]⟩

def unknown (type action : String) : Log.Record :=
  ⟨.warn, "warden_policy::store", "permission check against unknown type",
    [("type_name", .quoted type), ("action", .quoted action)]⟩

def failed (type action error : String) : Log.Record :=
  ⟨.warn, "warden_policy::store", "predicate rule failed",
    [("type_name", .quoted type), ("action", .quoted action), ("error", .plain error)]⟩

/-- One record for an answer, an unknown type and a failure; none for bad arguments and for what has no end. -/
def own (d : Deed) : List Log.Record :=
  match d.outcome with
  | .returned (.ok allowed) => [decision d.type d.action d.kind allowed]
  | .returned (.error (.unknownType _)) => [unknown d.type d.action]
  | .returned (.error (.rule failure)) => [failed d.type d.action (Refusal.rule failure).message]
  | .returned (.error (.invalidArgument ..)) | .returned (.error (.invalidShape _)) => []
  | .panicked _ | .exhausted => []

/-- The record of the decision, if the check came to one. -/
def decision? (d : Deed) : Option Log.Record :=
  match d.outcome with
  | .returned (.ok allowed) => some (decision d.type d.action d.kind allowed)
  | _ => none

end Deed

namespace Table

def kindOf (t : Table) (type action : String) : Rule.Kind := ((t.rule? type action).map Rule.kind).getD .deny

def deed (t : Table) (q : Inquiry) (outcome : Outcome Answer) : Deed :=
  ⟨q.subject.typeName, q.action, t.kindOf q.subject.typeName q.action, outcome⟩

/-- The checks that the predicate for a check makes when so many levels are left for them. -/
def below (t : Table) (levels : Nat) (q : Inquiry) : List Inquiry :=
  match Argument.checkViewer q.viewer, t.rule? q.subject.typeName q.action with
  | .ok (), some (.predicate p) => (p.script q.viewer q.subject.value?).checks (t.evaluate levels) p.cell q.memory
  | _, _ => []

/-- A check and all checks below it, at every depth; each stands where it comes to its end. -/
def made (t : Table) : Nat → Inquiry → List Deed
  | 0, q => [t.deed q .exhausted]
  | levels + 1, q =>
      (t.below levels q).flatMap (t.made levels) ++ [t.deed q (q.run (t.evaluate (levels + 1))).outcome]

end Table

/-! ## One level -/

namespace Script

theorem records_perform (ask : Asked) (cell : Nat) (script : Script) (m : Memory) :
    records (script.perform ask cell m).trace =
      (script.checks ask cell m).flatMap fun q => records (q.run ask).trace := by
  induction script generalizing m with
  | finish answer => rfl
  | panic message => rfl
  | probe viewer entity next ih =>
      rw [perform_probe]
      exact ih m
  | load next ih =>
      rw [perform_load]
      exact ih (m cell) m
  | save value next ih =>
      rw [perform_save]
      exact ih (m.set cell value)
  | check viewer action subject next ih =>
      rw [perform, checks, List.flatMap_cons, Inquiry.run]
      match h : ask viewer action subject m with
      | ⟨.returned answer, m', t⟩ =>
          rw [Effect.bind_of_returned h, Host.records_append, ih answer m']
      | ⟨.panicked message, m', t⟩ =>
          rw [Effect.bind_of_panicked h, List.flatMap_nil, List.append_nil]
      | ⟨.exhausted, m', t⟩ =>
          rw [Effect.bind_of_exhausted h, List.flatMap_nil, List.append_nil]

end Script

namespace Table

variable {t : Table} {q : Inquiry} {levels : Nat}

theorem below_of_predicate {p : Predicate} (hv : Argument.checkViewer q.viewer = .ok ())
    (hr : t.rule? q.subject.typeName q.action = some (.predicate p)) (levels : Nat) :
    t.below levels q = (p.script q.viewer q.subject.value?).checks (t.evaluate levels) p.cell q.memory := by
  rw [below, hv, hr]

theorem below_of_not_predicate (hr : ∀ p, t.rule? q.subject.typeName q.action ≠ some (.predicate p)) (levels : Nat) :
    t.below levels q = [] := by
  unfold below
  split
  · rename_i p _ hp
    exact absurd hp (hr p)
  · rfl

theorem below_of_refused {refusal : Refusal} (hv : Argument.checkViewer q.viewer = .error refusal) (levels : Nat) :
    t.below levels q = [] := by
  simp [below, hv]

theorem kindOf_of_rule {rule : Rule} {type action : String} (hr : t.rule? type action = some rule) :
    t.kindOf type action = rule.kind := by
  simp [kindOf, hr]

theorem kindOf_of_missing {type action : String} (hr : t.rule? type action = none) :
    t.kindOf type action = .deny := by
  simp [kindOf, hr]

theorem records_told {rule : Rule} (hr : t.rule? q.subject.typeName q.action = some rule)
    (o : Outcome (Except Failure Bool)) :
    records (o.told q.subject.typeName q.action rule.kind) = (t.deed q (o.map (·.mapError .rule))).own := by
  rw [deed, kindOf_of_rule hr]
  match o with
  | .returned (.ok allowed) => rfl
  | .returned (.error failure) => rfl
  | .panicked message => rfl
  | .exhausted => rfl

/-- A check tells what the checks of its predicate tell, in their order, and then its own record. -/
theorem records_evaluate (t : Table) (levels : Nat) (q : Inquiry) :
    records (q.run (t.evaluate (levels + 1))).trace =
      (t.below levels q).flatMap (fun q' => records (q'.run (t.evaluate levels)).trace) ++
        (t.deed q (q.run (t.evaluate (levels + 1))).outcome).own := by
  rcases Argument.checkViewer_cases q.viewer with hv | hv
  · rw [Inquiry.run, evaluate_of_accepted hv]
    cases hr : t.rule? q.subject.typeName q.action with
    | none =>
        rw [below_of_not_predicate (by simp [hr])]
        cases hk : t.knows q.subject.typeName with
        | false =>
            rw [decide_of_not_knows hk]
            rfl
        | true =>
            rw [decide_of_missing hk hr, deed, kindOf_of_missing hr]
            rfl
    | some rule =>
        rw [decide_of_rule hr]
        simp only [Host.records_append, records_told hr]
        refine congrArg (· ++ _) ?_
        cases rule with
        | allow | deny =>
            rw [below_of_not_predicate (by simp [hr])]
            rfl
        | predicate p =>
            rw [below_of_predicate hv hr]
            exact Script.records_perform _ p.cell _ q.memory
  · rw [below_of_refused hv, Inquiry.run, evaluate_of_refused hv]
    rfl

/-! ## All levels -/

/-- What a check leaves in the log is what it and all checks below it tell, in the order in which they end. -/
theorem records_made (t : Table) (levels : Nat) (q : Inquiry) :
    records (q.run (t.evaluate levels)).trace = (t.made levels q).flatMap Deed.own := by
  induction levels generalizing q with
  | zero => rfl
  | succ levels ih =>
      rw [records_evaluate, made, List.flatMap_append, List.flatMap_assoc, List.flatMap_singleton]
      simp only [ih]

end Table

end Permit
