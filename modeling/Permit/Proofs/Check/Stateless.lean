import Permit.Check
import Permit.Proofs.Check.Decide
import Permit.Proofs.Check.Script
import Permit.Proofs.Table.Lookup

/-!
# Rules without memory

Tables whose predicates neither use nor change a number, the changes that keep them so, and what checks leave there.
-/

namespace Permit

def Rule.Stateless : Rule → Prop
  | .allow | .deny => True
  | .predicate p => ∀ viewer entity, (p.script viewer entity).Stateless

namespace Table

variable {t t' : Table} {type : String} {actions : List String}

def Stateless (t : Table) : Prop := ∀ type action rule, t.rule? type action = some rule → rule.Stateless

theorem Stateless.define {rule : Rule} (h : t.Stateless) (hrule : rule.Stateless) (type : String)
    (actions : List String) : (t.define type actions rule).Stateless :=
  Every.define h hrule type actions

theorem Stateless.undefine? {removed : Nat} (h : t.Stateless)
    (hu : t.undefine? type actions = some (t', removed)) : t'.Stateless :=
  Every.undefine? h hu

end Table

/-! ## Checks leave the memory alone -/

/-- The same comes of it with any memory, and the memory is left as it was. -/
def Effect.Oblivious {α : Type} (x : Effect α) : Prop := ∀ m m', x m' = ⟨(x m).outcome, m', (x m).trace⟩

theorem Effect.Oblivious.bind {α β : Type} {x : Effect α} {f : α → Effect β} (hx : x.Oblivious)
    (hf : ∀ a, (f a).Oblivious) : (x >>= f).Oblivious := by
  intro m m'
  have hm := hx m m
  have hm' := hx m m'
  cases ho : (x m).outcome with
  | returned a =>
      rw [ho] at hm hm'
      rw [bind_of_returned hm, bind_of_returned hm', hf a m m']
  | panicked message =>
      rw [ho] at hm hm'
      rw [bind_of_panicked hm, bind_of_panicked hm']
  | exhausted =>
      rw [ho] at hm hm'
      rw [bind_of_exhausted hm, bind_of_exhausted hm']

theorem Script.Stateless.oblivious {script : Script} (h : script.Stateless) {ask : Asked}
    (hask : ∀ viewer action subject, (ask viewer action subject).Oblivious) (cell : Nat) :
    (script.perform ask cell).Oblivious := by
  induction h with
  | finish answer => exact fun _ _ => rfl
  | panic message => exact fun _ _ => rfl
  | probe viewer entity _ ih =>
      intro m m'
      rw [perform_probe, perform_probe, ih m m']
  | check viewer action subject _ ih => exact .bind (hask viewer action subject) ih

namespace Table

variable {t : Table}

theorem Stateless.decide_oblivious (h : t.Stateless) {ask : Asked}
    (hask : ∀ viewer action subject, (ask viewer action subject).Oblivious) (viewer : Option Json) (action : String)
    (subject : Subject) : (t.decide ask viewer action subject).Oblivious := by
  intro m m'
  cases hr : t.rule? subject.typeName action with
  | none =>
      cases hk : t.knows subject.typeName with
      | false => rw [decide_of_not_knows hk, decide_of_not_knows hk]
      | true => rw [decide_of_missing hk hr, decide_of_missing hk hr]
  | some rule =>
      have hrule : (rule.decide ask viewer subject.value?).Oblivious := by
        cases rule with
        | allow | deny => exact fun _ _ => rfl
        | predicate p => exact .bind (fun _ _ => rfl) fun _ => (h _ _ _ hr viewer subject.value?).oblivious hask p.cell
      rw [decide_of_rule hr, decide_of_rule hr, hrule m m']

theorem Stateless.evaluate_oblivious (h : t.Stateless) (levels : Nat) (viewer : Option Json) (action : String)
    (subject : Subject) : (t.evaluate levels viewer action subject).Oblivious := by
  induction levels generalizing viewer action subject with
  | zero => exact fun _ _ => rfl
  | succ levels ih =>
      rcases Argument.checkViewer_cases viewer with hv | hv
      · rw [evaluate_of_accepted hv]
        exact h.decide_oblivious ih viewer action subject
      · rw [evaluate_of_refused hv]
        exact fun _ _ => rfl

theorem Stateless.evaluate_memory (h : t.Stateless) (levels : Nat) (viewer : Option Json) (action : String)
    (subject : Subject) (m : Memory) : (t.evaluate levels viewer action subject m).memory = m :=
  congrArg Run.memory (h.evaluate_oblivious levels viewer action subject m m)

end Table

end Permit
