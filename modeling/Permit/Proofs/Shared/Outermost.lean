import Permit.Proofs.Check.Passing
import Permit.Proofs.Shared.Linearization
import Permit.Proofs.Shared.Nested

/-!
# Nested checks as outermost ones

A check that a predicate makes comes to what it would come to if a caller made it. It has fewer levels left, but it needs
no more than it has; it may find other numbers in the memory, but no predicate looks at them; and the table is the one
that the outermost check was decided by, also if other threads are waiting to change it.
-/

namespace Permit

namespace Store

variable {s : Store} {q : Inquiry} {n : Nat}

/-- With the levels of an outermost check a check comes to what it comes to with fewer, if those are enough. -/
theorem evaluate_of_fewer (hs : s.table.Stateless) (hn : n ≤ s.table.depth + 1)
    (hends : (q.run (s.table.evaluate n)).outcome ≠ .exhausted) (m : Memory) :
    s.evaluate q.viewer q.action q.subject m =
      ⟨(q.run (s.table.evaluate n)).outcome, m, (q.run (s.table.evaluate n)).trace⟩ := by
  have hlevels : s.evaluate q.viewer q.action q.subject q.memory = q.run (s.table.evaluate n) :=
    Table.run_of_le hends hn
  rw [← hlevels]
  exact hs.evaluate_oblivious _ q.viewer q.action q.subject q.memory m

/-- A check that comes to its end does not mind if the checks below it are made as outermost ones. -/
theorem decide_evaluate {viewer : Option Json} {action : String} {subject : Subject} {m : Memory}
    (hv : Argument.checkViewer viewer = .ok ()) (hends : (s.evaluate viewer action subject m).outcome ≠ .exhausted) :
    s.table.decide s.evaluate viewer action subject m = s.evaluate viewer action subject m := by
  have hmore : Inquiry.run (s.table.evaluate (s.table.depth + 2)) ⟨viewer, action, subject, m⟩ =
      s.evaluate viewer action subject m := Table.run_of_le hends (Nat.le_succ _)
  rw [Inquiry.run, Table.evaluate_of_accepted hv] at hmore
  exact hmore

end Store

namespace Shared

/-- Below a check on a shared store whose predicates pass on what they were given, every check is for its viewer, who was
accepted, and for its entity, and so it is refused for its type or by a rule only. If it ends it comes to what it comes to
as a call of its own, with whatever the memory holds then; and all end if the outermost check does. A poisoned store asks
no predicate, and in a course of threads one table decides a check and all checks below it. -/
theorem perform_below (sh : Shared) (hs : sh.store.table.Stateless) (m : Memory) (viewer : Option Json)
    (action : String) (subject : Subject)
    (hpass : sh.store.table.PassesOn (sh.store.table.depth + 1) ⟨viewer, action, subject, m⟩) :
    let t := sh.store.table
    let run := sh.store.evaluate viewer action subject m
    (∀ n q q', t.Reaches (t.depth + 1) ⟨viewer, action, subject, m⟩ (n + 1) q → q' ∈ t.below n q →
      let nested := q'.run (t.evaluate n)
      Argument.checkViewer viewer = .ok () ∧ q'.viewer = viewer ∧
      q'.subject = .of q'.subject.typeName subject.value? ∧
      (∀ refusal, nested.outcome = .returned (.error refusal) →
        (refusal = .unknownType q'.subject.typeName ∧ t.knows q'.subject.typeName = false) ∨
          ∃ failure, refusal = .rule failure) ∧
      (sh.poisoned = false → nested.outcome ≠ .exhausted → ∀ m',
        sh.perform m' (.evaluate q'.viewer q'.action (.gives q'.subject)) =
          (⟨nested.outcome.map (·.map .allowed), m', .converted :: nested.trace⟩, sh)) ∧
      (run.outcome ≠ .exhausted → nested.outcome ≠ .exhausted)) ∧
    (Argument.checkViewer viewer = .ok () → run.outcome ≠ .exhausted →
      t.decide sh.store.evaluate viewer action subject m = run) ∧
    (sh.poisoned = true → (sh.perform m (.evaluate viewer action (.gives subject))).1.trace = []) ∧
    ∀ programs schedule, (∀ i past handle call, programs i past = some (handle, call) → call.Calm) →
      ∀ id now now', .consulted id now ∈ (course programs (.of sh.store) m schedule).marks →
        .consulted id now' ∈ (course programs (.of sh.store) m schedule).marks → now = now' := by
  intro t run
  refine ⟨?_, Store.decide_evaluate, ?_, ?_⟩
  · intro n q q' hq hq' nested
    have hreaches : t.Reaches (t.depth + 1) ⟨viewer, action, subject, m⟩ n q' := .next hq hq'
    obtain ⟨hviewer, hsubject⟩ := hpass.reaches hreaches
    have hv : Argument.checkViewer viewer = .ok () := by
      obtain ⟨p, hasks, -⟩ := Table.asks_of_mem_below hq'
      have hasked := hasks.viewer
      rwa [(hpass.reaches hq).1] at hasked
    have hv' : Argument.checkViewer q'.viewer = .ok () := hviewer ▸ hv
    refine ⟨hv, hviewer, hsubject, fun refusal => Table.refusal_of_accepted hv', ?_, hreaches.ends⟩
    intro hsound hends m'
    rw [perform_evaluate_gives hsound hv', Store.evaluate_of_fewer hs hreaches.le hends]
  · intro hpoisoned
    rw [perform_of_poisoned hpoisoned m (by simp)]
  · intro programs schedule hcalm id now now' hnow hnow'
    obtain ⟨-, hlinear⟩ := course_linear hs hcalm m schedule
    exact hlinear.one_table hnow hnow'

/-- To see a post one has to be allowed to edit it, and so to run the blog; but no rule is about blogs. -/
def orphans : Store :=
  ⟨(Table.empty.define "post" ["see"] (.predicate (Condition.predicate 0 (.check "edit" "post")))).define
    "post" ["edit"] (.predicate (Condition.predicate 1 (.context "cannot edit" (.check "run" "blog"))))⟩

theorem orphans_every {P : Rule → Prop} (hsee : P (.predicate (Condition.predicate 0 (.check "edit" "post"))))
    (hedit : P (.predicate (Condition.predicate 1 (.context "cannot edit" (.check "run" "blog"))))) :
    orphans.table.Every P := by
  have hempty : Table.empty.Every P := fun _ _ _ h => by cases h
  exact (hempty.define hsee "post" ["see"]).define hedit "post" ["edit"]

theorem orphans_stateless : orphans.table.Stateless :=
  orphans_every (fun viewer entity => .check viewer "edit" (.of "post" entity) fun _ => .finish _)
    fun viewer entity => .check viewer "run" (.of "blog" entity) fun _ => .finish _

theorem orphans_passesOn (levels : Nat) (q : Inquiry) : orphans.table.PassesOn levels q :=
  fun _ _ _ _ h => (orphans_every (Condition.rule_passesOn _ _) (Condition.rule_passesOn _ _)).below h

/-- Two checks below the outermost one the type is not known, and that is what a caller is told who makes one of the
nested checks, with another memory. -/
theorem perform_below_orphans :
    let ann : Json := .object (.single "name" (.string "ann"))
    let sh := Shared.of orphans
    let unknown : Refusal := .unknownType "blog"
    (∃ t, sh.perform (fun _ => 7) (.evaluate (some ann) "edit" (.gives (.entity "post" ann))) =
      (⟨.returned (.error (.rule (.context "cannot edit" (.refused unknown)))), fun _ => 7, t⟩, sh)) ∧
    ∃ t, sh.perform (fun _ => 8) (.evaluate (some ann) "run" (.gives (.entity "blog" ann))) =
      (⟨.returned (.error unknown), fun _ => 8, t⟩, sh) := by
  intro ann sh unknown
  have hnested := (perform_below sh orphans_stateless Memory.fresh (some ann) "see" (.entity "post" ann)
    (orphans_passesOn _ _)).1
  -- Two predicates are defined, so the check below the outermost one has two levels more than `Table.returns`.
  have hedit : (⟨some ann, "edit", .entity "post" ann, Memory.fresh⟩ : Inquiry) ∈
      orphans.table.below (Table.returns + 2) ⟨some ann, "see", .entity "post" ann, Memory.fresh⟩ :=
    List.mem_cons_self
  have hrun : (⟨some ann, "run", .entity "blog" ann, Memory.fresh⟩ : Inquiry) ∈
      orphans.table.below (Table.returns + 1) ⟨some ann, "edit", .entity "post" ann, Memory.fresh⟩ :=
    List.mem_cons_self
  obtain ⟨-, -, -, -, hcaller, -⟩ := hnested _ _ _ .here hedit
  obtain ⟨-, -, -, -, hcaller', -⟩ := hnested _ _ _ (.next .here hedit) hrun
  exact ⟨⟨_, hcaller rfl nofun _⟩, ⟨_, hcaller' rfl nofun _⟩⟩

end Shared

end Permit
