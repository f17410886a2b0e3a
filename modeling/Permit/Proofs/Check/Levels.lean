import Permit.Proofs.Check.Nest

/-!
# More levels

A check that comes to its end comes to the same with more levels. For if it comes to its end, so do the checks that its
predicate makes, and these are all that it takes from the levels below.
-/

namespace Permit

/-! ## One script -/

namespace Script

variable {ask ask' : Asked} {cell : Nat} {script : Script} {m : Memory}

/-- A script looks at the answers to its own checks only. -/
theorem perform_congr (h : ∀ q ∈ script.checks ask cell m, q.run ask' = q.run ask) :
    script.perform ask' cell m = script.perform ask cell m := by
  induction script generalizing m with
  | finish answer => rfl
  | panic message => rfl
  | probe viewer entity next ih => rw [perform_probe, perform_probe, ih h]
  | load next ih => rw [perform_load, perform_load, ih (m cell) h]
  | save value next ih => rw [perform_save, perform_save, ih h]
  | check viewer action subject next ih =>
      rw [checks, List.forall_mem_cons] at h
      obtain ⟨hfirst, hrest⟩ := h
      simp only [Inquiry.run] at hfirst
      rw [perform, perform]
      obtain ⟨outcome, m', t, hask⟩ := Run.exists_eq (ask viewer action subject m)
      rw [hask] at hfirst
      cases outcome with
      | returned answer =>
          simp only [hask] at hrest
          rw [Effect.bind_of_returned hask, Effect.bind_of_returned hfirst, ih answer hrest]
      | panicked message => rw [Effect.bind_of_panicked hask, Effect.bind_of_panicked hfirst]
      | exhausted => rw [Effect.bind_of_exhausted hask, Effect.bind_of_exhausted hfirst]

/-- A script ends only if its checks do. -/
theorem checks_end (h : (script.perform ask cell m).outcome ≠ .exhausted) :
    ∀ q ∈ script.checks ask cell m, (q.run ask).outcome ≠ .exhausted := by
  induction script generalizing m with
  | finish answer => exact fun _ hq => absurd hq List.not_mem_nil
  | panic message => exact fun _ hq => absurd hq List.not_mem_nil
  | probe viewer entity next ih => exact ih h
  | load next ih => exact ih (m cell) h
  | save value next ih => exact ih h
  | check viewer action subject next ih =>
      rw [perform] at h
      rw [checks, List.forall_mem_cons, Inquiry.run]
      obtain ⟨outcome, m', t, hask⟩ := Run.exists_eq (ask viewer action subject m)
      cases outcome with
      | returned answer =>
          rw [Effect.bind_of_returned hask] at h
          simpa [hask] using ih answer h
      | panicked message => simp [hask]
      | exhausted =>
          rw [Effect.bind_of_exhausted hask] at h
          exact absurd rfl h

end Script

/-! ## All levels -/

namespace Table

variable {t : Table} {q q' : Inquiry} {levels levels' : Nat}

/-- A predicate decides a check, or no other check has to do with it. -/
theorem asks_or_settled (t : Table) (q : Inquiry) :
    (∃ p, q.Asks t p) ∨
      ∀ levels, t.below levels q = [] ∧ q.run (t.evaluate (levels + 1)) = q.run (t.evaluate 1) := by
  rcases Argument.checkViewer_cases q.viewer with hv | hv
  · by_cases hp : ∃ p, t.rule? q.subject.typeName q.action = some (.predicate p)
    · obtain ⟨p, hr⟩ := hp
      exact .inl ⟨p, hv, hr⟩
    · refine .inr fun levels => ⟨below_of_not_predicate (not_exists.mp hp) levels, ?_⟩
      rw [Inquiry.run, evaluate_of_accepted hv, Inquiry.run, evaluate_of_accepted hv]
      cases hr : t.rule? q.subject.typeName q.action with
      | none =>
          cases hk : t.knows q.subject.typeName with
          | false => rw [decide_of_not_knows hk, decide_of_not_knows hk]
          | true => rw [decide_of_missing hk hr, decide_of_missing hk hr]
      | some rule =>
          rw [decide_of_rule hr, decide_of_rule hr]
          cases rule with
          | allow | deny => rfl
          | predicate p => exact absurd hr (not_exists.mp hp p)
  · refine .inr fun levels => ⟨below_of_refused hv levels, ?_⟩
    rw [Inquiry.run, evaluate_of_refused hv, Inquiry.run, evaluate_of_refused hv]

theorem asks_of_mem_below (h : q' ∈ t.below levels q) :
    ∃ p, q.Asks t p ∧ q' ∈ (p.script q.viewer q.subject.value?).checks (t.evaluate levels) p.cell q.memory := by
  rcases t.asks_or_settled q with ⟨p, hq⟩ | hsettled
  · rw [below_of_predicate hq.viewer hq.rule] at h
    exact ⟨p, hq, h⟩
  · rw [(hsettled levels).1] at h
    exact absurd h List.not_mem_nil

/-- What is the same below a check is the same for it. -/
theorem run_congr (h : ∀ q' ∈ t.below levels q, q'.run (t.evaluate levels') = q'.run (t.evaluate levels)) :
    q.run (t.evaluate (levels' + 1)) = q.run (t.evaluate (levels + 1)) := by
  rcases t.asks_or_settled q with ⟨p, hq⟩ | hsettled
  · rw [below_of_predicate hq.viewer hq.rule] at h
    rw [run_of_asks hq, run_of_asks hq, Script.perform_congr h]
  · rw [(hsettled levels').2, (hsettled levels).2]

theorem below_ends (h : (q.run (t.evaluate (levels + 1))).outcome ≠ .exhausted) (hq' : q' ∈ t.below levels q) :
    (q'.run (t.evaluate levels)).outcome ≠ .exhausted := by
  obtain ⟨p, hq, hchecks⟩ := asks_of_mem_below hq'
  rw [run_of_asks hq] at h
  refine Script.checks_end (fun hown => h ?_) q' hchecks
  simp [hown]

theorem run_of_le (h : (q.run (t.evaluate levels)).outcome ≠ .exhausted) (hle : levels ≤ levels') :
    q.run (t.evaluate levels') = q.run (t.evaluate levels) := by
  induction levels generalizing q levels' with
  | zero => exact absurd rfl h
  | succ levels ih =>
      obtain ⟨more, rfl⟩ := Nat.exists_eq_add_of_le' hle
      exact run_congr fun q' hq' => ih (below_ends h hq') (Nat.le_add_left levels more)

/-! ## The checks below a check -/

/-- From a check with so many levels one comes to another with the rest of them, by way of the checks that are made. -/
inductive Reaches (t : Table) (levels : Nat) (q : Inquiry) : Nat → Inquiry → Prop where
  | here : Reaches t levels q levels q
  | next {n p q'} : Reaches t levels q (n + 1) p → q' ∈ t.below n p → Reaches t levels q n q'

namespace Reaches

variable {n : Nat}

theorem le (h : t.Reaches levels q n q') : n ≤ levels := by
  induction h with
  | here => exact Nat.le_refl _
  | next _ _ ih => exact Nat.le_of_succ_le ih

theorem ends (h : t.Reaches levels q n q') (hq : (q.run (t.evaluate levels)).outcome ≠ .exhausted) :
    (q'.run (t.evaluate n)).outcome ≠ .exhausted := by
  induction h with
  | here => exact hq
  | next _ hbelow ih => exact below_ends ih hbelow

end Reaches

end Table

end Permit
