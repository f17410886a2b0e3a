import Permit.Proofs.Check.Below
import Permit.Proofs.Store.Typed

/-!
# What the calls on a store tell

A call that checks something tells what the check tells, and no other call tells of a decision. So the decisions in the
log of a run are those that the checks of the run came to, at every depth, in the order in which they came to them.
-/

namespace Permit

open Host (records)

def isDecision (r : Log.Record) : Bool := r.message == "policy decision"

namespace Deed

theorem filter_own (d : Deed) : d.own.filter isDecision = d.decision?.toList := by
  unfold own decision?
  match d.outcome with
  | .returned (.ok allowed) => rfl
  | .returned (.error (.unknownType type)) => rfl
  | .returned (.error (.rule failure)) => rfl
  | .returned (.error (.invalidArgument argument actual)) => rfl
  | .returned (.error (.invalidShape members)) => rfl
  | .panicked message => rfl
  | .exhausted => rfl

theorem decisions_own (ds : List Deed) : (ds.flatMap own).filter isDecision = ds.filterMap decision? := by
  induction ds with
  | nil => rfl
  | cons d ds ih =>
      rw [List.flatMap_cons, List.filter_append, filter_own, ih]
      cases h : d.decision? with
      | none => simp [h]
      | some r => simp [h]

end Deed

/-- The check that a call asks for, if its arguments are good. -/
def Call.inquiry? (m : Memory) (c : Call) : Option Inquiry :=
  match c.typed? with
  | some (.evaluate viewer action subject) => some ⟨viewer, action, subject, m⟩
  | _ => none

namespace Store

variable {s : Store} {m : Memory} {c : Call} {q : Inquiry}

/-- The checks that a predicate makes are made on the same store, with one level less. -/
def Tells (s : Store) (q : Inquiry) (run : Run Answer) : Prop :=
  records run.trace =
    (s.table.below s.table.depth q).flatMap (fun q' => records (q'.run (s.table.evaluate s.table.depth)).trace) ++
      (s.table.deed q run.outcome).own

/-- The checks that a call makes, at every depth. -/
def made (s : Store) (m : Memory) (c : Call) : List Deed :=
  match c.inquiry? m with
  | some q => s.table.made (s.table.depth + 1) q
  | none => []

def madeBy (s : Store) (m : Memory) : List Call → List Deed
  | [] => []
  | c :: cs => s.made m c ++ (s.turn m c).2.1.madeBy (s.turn m c).2.2 cs

theorem tells_evaluate (s : Store) (m : Memory) (viewer : Option Json) (action : String) (subject : Subject) :
    s.Tells ⟨viewer, action, subject, m⟩ (s.evaluate viewer action subject m) :=
  s.table.records_evaluate s.table.depth ⟨viewer, action, subject, m⟩

theorem tells_evaluateLoose {viewer action subject : Option Json} {a : String} {sub : Subject}
    (h : checkArguments viewer action subject = .ok (a, sub)) (s : Store) (m : Memory) :
    s.Tells ⟨viewer, a, sub, m⟩ (s.evaluateLoose viewer action subject m) := by
  obtain ⟨hv, -, -⟩ := checkArguments_eq_ok.mp h
  have hsame : s.evaluateLoose viewer action subject = s.evaluate viewer a sub := by
    simp only [evaluateLoose, h, evaluate, Table.evaluate_of_accepted hv]
  rw [hsame]
  exact s.tells_evaluate m viewer a sub

theorem records_turn_inquiry (h : c.inquiry? m = some q) (s : Store) :
    records (s.turn m c).1.trace = (s.table.made (s.table.depth + 1) q).flatMap Deed.own := by
  unfold Call.inquiry? at h
  split at h
  · rename_i viewer action subject htyped
    cases h
    rw [turn_of_typed? htyped, turn_evaluate]
    exact s.table.records_made (s.table.depth + 1) ⟨viewer, action, subject, m⟩
  · cases h

theorem decisions_turn_other (h : c.inquiry? m = none) (s : Store) :
    (records (s.turn m c).1.trace).filter isDecision = [] := by
  cases htyped : c.typed? with
  | none =>
      obtain ⟨refusal, -, hturn⟩ := turn_of_not_typed htyped s m
      rw [hturn]
      rfl
  | some d =>
      rw [turn_of_typed? htyped]
      cases d with
      | evaluate viewer action subject => simp [Call.inquiry?, htyped] at h
      | define type actions rule => rfl
      | undefine type actions =>
          cases hk : s.knows type with
          | true =>
              obtain ⟨t, removed, hu⟩ := undefine?_of_knows hk actions.names
              rw [turn_undefine_of_some hu]
              rfl
          | false =>
              rw [turn_undefine_of_not_knows hk]
              rfl
      | evaluateLoose | defineLoose | undefineLoose => cases Call.loose_of_typed? htyped

theorem decisions_turn (s : Store) (m : Memory) (c : Call) :
    (records (s.turn m c).1.trace).filter isDecision = (s.made m c).filterMap Deed.decision? := by
  unfold made
  cases h : c.inquiry? m with
  | none => exact decisions_turn_other h s
  | some q => rw [records_turn_inquiry h, Deed.decisions_own]

theorem decisions_runAll (s : Store) (m : Memory) (calls : List Call) :
    ((s.runAll m calls).1.flatMap fun d => records d.trace).filter isDecision =
      (s.madeBy m calls).filterMap Deed.decision? := by
  induction calls generalizing s m with
  | nil => rfl
  | cons c cs ih =>
      rw [runAll_cons, List.flatMap_cons, List.filter_append, decisions_turn, ih, madeBy, List.filterMap_append]

end Store

end Permit
