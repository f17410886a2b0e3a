import Permit.Proofs.Check.Decide
import Permit.Proofs.Check.Script
import Permit.Proofs.Check.Stateless
import Permit.Proofs.Shared.Threads

/-!
# What is left of a check

A check under way, with the predicates that wait for it, stands for the computation that is left of the outermost check.
No step changes it, but for the trace. So as long as the table stays, a check comes to what it would have come to in one
go.
-/

namespace Permit

namespace Table

/-- A check with a subject that is still to be converted. -/
def ask (t : Table) : Nat → Option Json → String → Conversion Subject → Effect Answer
  | 0, _, _, _ => Effect.exhausted
  | levels + 1, viewer, action, subject =>
      match Argument.checkViewer viewer with
      | .error refusal => pure (.error refusal)
      | .ok () => do t.decide (t.evaluate levels) viewer action (← subject.run)

def conclude (t : Table) (levels cell : Nat) (script : Script) : Effect Answer := do
  return (← script.perform (t.evaluate levels) cell).mapError .rule

variable {viewer : Option Json}

theorem ask_of_refused {refusal : Refusal} (h : Argument.checkViewer viewer = .error refusal) (t : Table)
    (levels : Nat) (action : String) (subject : Conversion Subject) :
    t.ask (levels + 1) viewer action subject = pure (.error refusal) := by
  simp [ask, h]

theorem ask_of_accepted (h : Argument.checkViewer viewer = .ok ()) (t : Table) (levels : Nat) (action : String)
    (subject : Conversion Subject) :
    t.ask (levels + 1) viewer action subject = subject.run >>= t.decide (t.evaluate levels) viewer action := by
  simp [ask, h]

theorem ask_gives (t : Table) (levels : Nat) (viewer : Option Json) (action : String) (subject : Subject) :
    (t.ask levels viewer action (.gives subject)).Alike (t.evaluate levels viewer action subject) := by
  cases levels with
  | zero => exact .refl _
  | succ levels =>
      cases hv : Argument.checkViewer viewer with
      | error refusal =>
          rw [ask_of_refused hv, evaluate_of_refused hv]
          exact .refl _
      | ok _ =>
          rw [ask_of_accepted hv, evaluate_of_accepted hv]
          exact .note .converted fun _ => t.decide (t.evaluate levels) viewer action subject

theorem conclude_probe (t : Table) (levels cell : Nat) (viewer entity : Option Json) (next : Script) :
    (t.conclude levels cell (.probe viewer entity next)).Alike (t.conclude levels cell next) := by
  intro m
  rw [conclude, conclude, Effect.bind_pure_apply, Effect.bind_pure_apply, Script.perform_probe]
  exact ⟨rfl, rfl⟩

theorem conclude_check (t : Table) (levels cell : Nat) (viewer : Option Json) (action : String) (subject : Subject)
    (next : Answer → Script) :
    t.conclude levels cell (.check viewer action subject next) =
      t.evaluate levels viewer action subject >>= fun answer => t.conclude levels cell (next answer) :=
  Effect.bind_assoc (t.evaluate levels viewer action subject) _ _

end Table

namespace Shared

open Effect (Alike)

variable {t : Table} {above cell : Nat} {viewer : Option Json} {action : String}

def Stage.rest (t : Table) (above : Nat) : Stage → Effect Answer
  | .asking viewer action subject | .admitted viewer action subject => t.ask (t.depth + 1 - above) viewer action subject
  | .running cell script => t.conclude (t.depth - above) cell script
  | .ended outcome => fun m => ⟨outcome, m, []⟩

/-- The predicates that wait go on, one after the other, once their check has its answer. -/
def resume (t : Table) : List Waiting → Effect Answer → Effect Answer
  | [], x => x
  | w :: waiting, x => resume t waiting do
      let answer ← x
      t.conclude (t.depth - waiting.length) w.cell (w.next answer)

def Checking.rest (t : Table) (c : Checking) : Effect Answer := resume t c.waiting (c.stage.rest t c.waiting.length)

theorem resume_alike {x y : Effect Answer} (h : Alike x y) (waiting : List Waiting) :
    Alike (resume t waiting x) (resume t waiting y) := by
  induction waiting generalizing x y with
  | nil => exact h
  | cons w waiting ih => exact ih (h.bind fun _ => .refl _)

theorem checking_eq_ask (s : Store) (viewer : Option Json) (action : String) (subject : Conversion Subject) :
    checking s viewer action subject = s.table.ask (s.table.depth + 1) viewer action subject := by
  cases hv : Argument.checkViewer viewer with
  | error refusal =>
      rw [Table.ask_of_refused hv]
      simp [checking, hv]
  | ok _ =>
      rw [Table.ask_of_accepted hv]
      simp [checking, hv, Store.evaluate, Table.evaluate_of_accepted hv]

/-! ## Steps of a check -/

theorem Stage.lookUp_rest (t : Table) (above : Nat) (viewer : Option Json) (action : String) (subject : Subject) :
    Alike ((lookUp t viewer action subject).rest t above)
      (t.decide (t.evaluate (t.depth - above)) viewer action subject) := by
  intro m
  cases hr : t.rule? subject.typeName action with
  | none =>
      cases hk : t.knows subject.typeName with
      | false => simp [lookUp, hr, hk, rest, Table.decide_of_not_knows hk]
      | true => simp [lookUp, hr, hk, rest, Table.decide_of_missing hk hr]
  | some rule =>
      rw [Table.decide_of_rule hr]
      cases rule with
      | allow | deny =>
          simp only [lookUp, hr]
          exact ⟨rfl, rfl⟩
      | predicate p => simp [lookUp, hr, rest, Table.conclude, Effect.bind_pure_apply, Rule.decide, Predicate.invoke]

theorem Stage.consult_rest {sh : Shared} (h : sh.poisoned = false) (above : Nat) (viewer : Option Json)
    (action : String) (subject : Conversion Subject) :
    Alike ((consult sh above viewer action subject).rest sh.store.table above)
      (sh.store.table.ask (sh.store.table.depth + 1 - above) viewer action subject) := by
  unfold consult
  rw [if_neg (by simp [h])]
  split
  · rename_i hdepth
    have hlevels : sh.store.table.depth + 1 - above = 0 := by omega
    rw [hlevels]
    exact .refl _
  · rename_i hdepth
    have hlevels : sh.store.table.depth + 1 - above = (sh.store.table.depth - above) + 1 := by omega
    rw [hlevels]
    cases hv : Argument.checkViewer viewer with
    | error refusal =>
        rw [Table.ask_of_refused hv]
        exact .refl _
    | ok _ =>
        rw [Table.ask_of_accepted hv]
        cases subject with
        | panics message => exact fun m => ⟨rfl, rfl⟩
        | gives subject => exact (lookUp_rest _ above viewer action subject).trans fun m => ⟨rfl, rfl⟩

theorem Stage.resumed_rest (t : Table) (w : Waiting) (waiting : List Waiting) (outcome : Outcome Answer) :
    Alike (Checking.rest t ⟨resumed w outcome, waiting⟩) (Checking.rest t ⟨.ended outcome, w :: waiting⟩) := by
  refine resume_alike ?_ waiting
  cases outcome with
  | returned answer => exact fun m => ⟨rfl, rfl⟩
  | panicked message => exact .refl _
  | exhausted => exact .refl _

/-- A step of a script without memory changes neither the memory nor what is left to do. -/
theorem Checking.proceed_rest {script : Script} (h : script.Stateless) (t : Table) (cell : Nat)
    (waiting : List Waiting) (m : Memory) :
    (proceed cell waiting m script).2 = m ∧
    Alike ((proceed cell waiting m script).1.rest t) (rest t ⟨.running cell script, waiting⟩) := by
  cases h with
  | finish answer => exact ⟨rfl, .refl _⟩
  | panic message => exact ⟨rfl, .refl _⟩
  | @probe viewer entity next hnext =>
      refine ⟨rfl, resume_alike ?_ waiting⟩
      exact (t.conclude_probe (t.depth - waiting.length) cell viewer entity next).symm
  | @check viewer action subject next hnext =>
      refine ⟨rfl, resume_alike ?_ waiting⟩
      -- Below one check more there is one level less, as for the checks of the script.
      have hasked : Alike (t.ask (t.depth + 1 - (waiting.length + 1)) viewer action (.gives subject))
          (t.evaluate (t.depth - waiting.length) viewer action subject) := by
        rw [Nat.add_sub_add_right]
        exact t.ask_gives _ viewer action subject
      have hanswer := hasked.bind fun answer => Alike.refl (t.conclude (t.depth - waiting.length) cell (next answer))
      rw [← t.conclude_check] at hanswer
      exact hanswer

/-! ## Checks without memory -/

def Stage.Stateless : Stage → Prop
  | .running _ script => script.Stateless
  | .asking .. | .admitted .. | .ended _ => True

def Waiting.Stateless (w : Waiting) : Prop := ∀ answer, (w.next answer).Stateless

structure Checking.Stateless (c : Checking) : Prop where
  stage : c.stage.Stateless
  waiting : ∀ w ∈ c.waiting, w.Stateless

theorem Stage.consult_stateless {sh : Shared} (h : sh.store.table.Stateless) (above : Nat) (viewer : Option Json)
    (action : String) (subject : Conversion Subject) : (consult sh above viewer action subject).Stateless := by
  unfold consult
  split
  · exact trivial
  split
  · exact trivial
  split
  · exact trivial
  · exact trivial
  · unfold lookUp
    split
    · exact trivial
    · exact trivial
    · rename_i p hfound
      exact h _ _ _ hfound viewer _
    · split
      · exact trivial
      · exact trivial

theorem Stage.resumed_stateless {w : Waiting} (h : w.Stateless) (outcome : Outcome Answer) :
    (resumed w outcome).Stateless := by
  cases outcome with
  | returned answer => exact h answer
  | panicked message => exact trivial
  | exhausted => exact trivial

theorem Checking.proceed_stateless {cell : Nat} {script : Script} {waiting : List Waiting}
    (h : Stateless ⟨.running cell script, waiting⟩) (m : Memory) :
    (proceed cell waiting m script).1.Stateless := by
  obtain ⟨hscript, hwaiting⟩ := h
  cases hscript with
  | finish answer => exact ⟨trivial, hwaiting⟩
  | panic message => exact ⟨trivial, hwaiting⟩
  | probe viewer entity hnext => exact ⟨hnext, hwaiting⟩
  | check viewer action subject hnext => exact ⟨trivial, List.forall_mem_cons.mpr ⟨hnext, hwaiting⟩⟩

end Shared

end Permit
