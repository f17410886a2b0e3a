import Permit.Check
import Permit.Proofs.Argument
import Permit.Proofs.Effect

/-!
# Decisions

What a table makes of an accepted check: one law for each thing it can find under the type and the action.
-/

namespace Permit

def Event.concluding (type action : String) (kind : Rule.Kind) : Except Failure Bool → Event
  | .error failure => .predicateFailed type action failure.text
  | .ok allowed => .decided type action kind allowed

/-- What is told once a rule has come to its end, and nothing if it did not. -/
def Outcome.told (type action : String) (kind : Rule.Kind) : Outcome (Except Failure Bool) → Trace
  | .returned answer => [.emitted (.concluding type action kind answer)]
  | .panicked _ | .exhausted => []

namespace Table

variable {t : Table} {ask : Asked} {viewer : Option Json} {action : String} {subject : Subject}

theorem decide_of_not_knows (h : t.knows subject.typeName = false) (m : Memory) :
    t.decide ask viewer action subject m =
      ⟨.returned (.error (.unknownType subject.typeName)), m, [.emitted (.checkedUnknown subject.typeName action)]⟩ := by
  have hrow : t.row? subject.typeName = none := by simpa [knows] using h
  simp [decide, hrow]

theorem decide_of_missing (hk : t.knows subject.typeName = true) (h : t.rule? subject.typeName action = none)
    (m : Memory) :
    t.decide ask viewer action subject m =
      ⟨.returned (.ok false), m, [.emitted (.decided subject.typeName action .deny false)]⟩ := by
  obtain ⟨row, hrow⟩ := Option.isSome_iff_exists.mp hk
  have hget : row.get? action = none := by simpa [rule?, hrow] using h
  simp [decide, hrow, hget]

/-- A rule that is found has the last word, and its end is told. -/
theorem decide_of_rule {rule : Rule} (h : t.rule? subject.typeName action = some rule) (m : Memory) :
    t.decide ask viewer action subject m =
      let own := rule.decide ask viewer subject.value? m
      ⟨own.outcome.map (·.mapError .rule), own.memory, own.trace ++ own.outcome.told subject.typeName action rule.kind⟩ := by
  obtain ⟨row, hrow, hget⟩ := Option.bind_eq_some_iff.mp h
  simp only [decide, hrow, hget]
  match hd : rule.decide ask viewer subject.value? m with
  | ⟨.returned (.error failure), m', tr⟩ => rw [Effect.bind_of_returned hd]; rfl
  | ⟨.returned (.ok allowed), m', tr⟩ => rw [Effect.bind_of_returned hd]; rfl
  | ⟨.panicked message, m', tr⟩ => rw [Effect.bind_of_panicked hd]; simp [Outcome.told]
  | ⟨.exhausted, m', tr⟩ => rw [Effect.bind_of_exhausted hd]; simp [Outcome.told]

theorem decide_outcome (t : Table) (ask : Asked) (viewer : Option Json) (action : String) (subject : Subject)
    (m : Memory) :
    (t.decide ask viewer action subject m).outcome =
      if t.knows subject.typeName then
        match t.rule? subject.typeName action with
        | none => .returned (.ok false)
        | some rule => (rule.decide ask viewer subject.value? m).outcome.map (·.mapError .rule)
      else .returned (.error (.unknownType subject.typeName)) := by
  cases hk : t.knows subject.typeName with
  | false => simp [decide_of_not_knows hk]
  | true =>
      cases hr : t.rule? subject.typeName action with
      | none => simp [decide_of_missing hk hr]
      | some rule => simp [decide_of_rule hr]

/-- A table refuses a check only for its type, or for a rule that fails. -/
theorem decide_refusal {m : Memory} {refusal : Refusal}
    (h : (t.decide ask viewer action subject m).outcome = .returned (.error refusal)) :
    (refusal = .unknownType subject.typeName ∧ t.knows subject.typeName = false) ∨ ∃ failure, refusal = .rule failure := by
  rw [decide_outcome] at h
  split at h
  · split at h
    · cases h
    · rename_i rule _
      match ho : (rule.decide ask viewer subject.value? m).outcome with
      | .returned (.ok allowed) => rw [ho] at h; cases h
      | .returned (.error failure) => rw [ho] at h; cases h; exact .inr ⟨failure, rfl⟩
      | .panicked message => rw [ho] at h; cases h
      | .exhausted => rw [ho] at h; cases h
  · rename_i hk
    cases h
    exact .inl ⟨rfl, Bool.eq_false_iff.mpr hk⟩

theorem evaluate_of_accepted (h : Argument.checkViewer viewer = .ok ()) (t : Table) (levels : Nat) (action : String)
    (subject : Subject) :
    t.evaluate (levels + 1) viewer action subject = t.decide (t.evaluate levels) viewer action subject := by
  simp [evaluate, h]

theorem evaluate_of_refused {refusal : Refusal} (h : Argument.checkViewer viewer = .error refusal) (t : Table)
    (levels : Nat) (action : String) (subject : Subject) :
    t.evaluate (levels + 1) viewer action subject = pure (.error refusal) := by
  simp [evaluate, h]

end Table

end Permit
