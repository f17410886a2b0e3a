import Permit.Proofs.Check.Levels
import Permit.Proofs.Table.Lookup
import Permit.Rule.Condition

/-!
# Predicates that pass on what they were given

A predicate may check another permission for its own viewer and its own entity, as every written predicate does. Then all
checks below a check are for one viewer, which was accepted at the outset, and for one entity, and none of them is refused
for an argument.
-/

namespace Permit

/-- The second check is for the viewer of the first, and for its entity as one of some type. -/
structure Inquiry.PassesOn (q q' : Inquiry) : Prop where
  viewer : q'.viewer = q.viewer
  subject : ∃ type, q'.subject = .of type q.subject.value?

/-! ## Written predicates -/

/-- All checks of the script are for this viewer and this entity. -/
inductive Script.PassesOn (viewer entity : Option Json) : Script → Prop where
  | finish (answer) : PassesOn viewer entity (.finish answer)
  | panic (message) : PassesOn viewer entity (.panic message)
  | probe (v e) {next} : PassesOn viewer entity next → PassesOn viewer entity (.probe v e next)
  | load {next} : (∀ n, PassesOn viewer entity (next n)) → PassesOn viewer entity (.load next)
  | save (value) {next} : PassesOn viewer entity next → PassesOn viewer entity (.save value next)
  | check (action type) {next} : (∀ r, PassesOn viewer entity (next r)) →
      PassesOn viewer entity (.check viewer action (.of type entity) next)

theorem Script.PassesOn.of_mem_checks {viewer entity : Option Json} {script : Script} (h : script.PassesOn viewer entity)
    {ask : Asked} {cell : Nat} {m : Memory} {q : Inquiry} (hq : q ∈ script.checks ask cell m) :
    q.viewer = viewer ∧ ∃ type, q.subject = .of type entity := by
  induction h generalizing m with
  | finish | panic => exact absurd hq List.not_mem_nil
  | probe v e _ ih | save value _ ih => exact ih hq
  | load _ ih => exact ih (m cell) hq
  | check action type _ ih =>
      rw [checks] at hq
      rcases List.mem_cons.mp hq with rfl | hrest
      · exact ⟨rfl, type, rfl⟩
      · split at hrest
        · exact ih _ hrest
        · exact absurd hrest List.not_mem_nil

namespace Condition

mutual
theorem passesOn {viewer entity : Option Json} {after : After} (c : Condition)
    (h : ∀ answer, (after answer).PassesOn viewer entity) : (c.script viewer entity after).PassesOn viewer entity := by
  match c with
  | .constant _ | .truthy _ | .equal _ _ | .ofKind _ _ | .fail _ => exact h _
  | .not c | .context _ c => exact passesOn c fun answer => h _
  | .all cs => exact allOf_passesOn cs h
  | .any cs => exact anyOf_passesOn cs h
  | .panic message => exact .panic message
  | .probe c => exact .probe viewer entity (passesOn c h)
  | .sequence flags =>
      refine .load fun n => .save (n + 1) ?_
      split
      · exact h _
      · exact .panic noFlags
  | .check action type => exact .check action type fun answer => h _

theorem allOf_passesOn {viewer entity : Option Json} {after : After} (cs : List Condition)
    (h : ∀ answer, (after answer).PassesOn viewer entity) : (allOf viewer entity cs after).PassesOn viewer entity := by
  match cs with
  | [] => exact h _
  | c :: cs =>
      refine passesOn c fun answer => ?_
      split
      · exact allOf_passesOn cs h
      · exact h _

theorem anyOf_passesOn {viewer entity : Option Json} {after : After} (cs : List Condition)
    (h : ∀ answer, (after answer).PassesOn viewer entity) : (anyOf viewer entity cs after).PassesOn viewer entity := by
  match cs with
  | [] => exact h _
  | c :: cs =>
      refine passesOn c fun answer => ?_
      split
      · exact anyOf_passesOn cs h
      · exact h _
end

end Condition

def Rule.PassesOn : Rule → Prop
  | .allow | .deny => True
  | .predicate p => ∀ viewer entity, (p.script viewer entity).PassesOn viewer entity

theorem Condition.rule_passesOn (cell : Nat) (c : Condition) : (Rule.predicate (c.predicate cell)).PassesOn :=
  fun _ _ => c.passesOn fun answer => .finish answer

namespace Table

variable {t : Table} {levels n : Nat} {q q' p : Inquiry}

theorem Every.below (h : t.Every Rule.PassesOn) (hq' : q' ∈ t.below levels q) : q.PassesOn q' := by
  obtain ⟨p, hq, hchecks⟩ := asks_of_mem_below hq'
  obtain ⟨hviewer, hsubject⟩ := (h _ _ _ hq.rule q.viewer q.subject.value?).of_mem_checks hchecks
  exact ⟨hviewer, hsubject⟩

/-- Every check that is made at or below this one passes on what it was given. -/
def PassesOn (t : Table) (levels : Nat) (q : Inquiry) : Prop :=
  ∀ n p p', t.Reaches levels q (n + 1) p → p' ∈ t.below n p → p.PassesOn p'

theorem PassesOn.reaches (h : t.PassesOn levels q) (hreaches : t.Reaches levels q n p) :
    p.viewer = q.viewer ∧ p.subject = .of p.subject.typeName q.subject.value? := by
  induction hreaches with
  | here =>
      refine ⟨rfl, ?_⟩
      cases q.subject <;> rfl
  | next habove hbelow ih =>
      obtain ⟨hviewer, hsubject⟩ := ih
      obtain ⟨hpassed, type, hpassedSubject⟩ := h _ _ _ habove hbelow
      refine ⟨hpassed.trans hviewer, ?_⟩
      rw [hpassedSubject, hsubject, Subject.value?_of, Subject.typeName_of]

/-- With an accepted viewer only the table can refuse a check. -/
theorem refusal_of_accepted (hv : Argument.checkViewer q.viewer = .ok ()) {refusal : Refusal}
    (h : (q.run (t.evaluate levels)).outcome = .returned (.error refusal)) :
    (refusal = .unknownType q.subject.typeName ∧ t.knows q.subject.typeName = false) ∨
      ∃ failure, refusal = .rule failure := by
  cases levels with
  | zero => cases h
  | succ levels =>
      rw [Inquiry.run, evaluate_of_accepted hv] at h
      exact decide_refusal h

end Table

end Permit
