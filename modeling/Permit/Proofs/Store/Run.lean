import Permit.Proofs.Check.Decide
import Permit.Proofs.Table.Lookup
import Permit.Store.Call

/-!
# Runs of a store

What each call does to a store, and how the run of some calls is put together from shorter runs.
-/

namespace Permit

namespace Store

variable {s : Store} {m : Memory} {type : String} {actions : Actions}

/-! ## One call -/

theorem turn_evaluate (s : Store) (m : Memory) (viewer : Option Json) (action : String) (subject : Subject) :
    s.turn m (.evaluate viewer action subject) =
      let answer := s.evaluate viewer action subject m
      (⟨answer.outcome.map (·.map .allowed), answer.trace⟩, s, answer.memory) := by
  rw [turn, perform, Effect.bind_pure_apply]
  match s.evaluate viewer action subject m with
  | ⟨.returned _, _, _⟩ | ⟨.panicked _, _, _⟩ | ⟨.exhausted, _, _⟩ => rfl

theorem turn_define (s : Store) (m : Memory) (type : String) (actions : Actions) (rule : Rule) :
    s.turn m (.define type actions rule) =
      (⟨.returned (.ok .changed), [.emitted (.defining type actions.size rule.kind)]⟩,
        ⟨s.table.define type actions.names rule⟩, m) := rfl

theorem turn_undefine_of_not_knows (h : s.knows type = false) (m : Memory) (actions : Actions) :
    s.turn m (.undefine type actions) =
      (⟨.returned (.error (.unknownType type)), [.emitted (.undefinedUnknown type)]⟩, s, m) := by
  have hnone : s.table.undefine? type actions.names = none := Table.undefine?_eq_none.mpr h
  simp only [turn, perform, undefine, hnone]
  rfl

theorem turn_undefine_of_some {t : Table} {removed : Nat}
    (h : s.table.undefine? type actions.names = some (t, removed)) (m : Memory) :
    s.turn m (.undefine type actions) =
      (⟨.returned (.ok .changed), [.emitted (.undefined type removed actions.size)]⟩, ⟨t⟩, m) := by
  simp only [turn, perform, undefine, h]
  rfl

theorem undefine?_of_knows (h : s.knows type = true) (actions : List String) :
    ∃ t removed, s.table.undefine? type actions = some (t, removed) := by
  cases hu : s.table.undefine? type actions with
  | some out => exact ⟨out.1, out.2, rfl⟩
  | none =>
      have hk : s.knows type = false := Table.undefine?_eq_none.mp hu
      rw [h] at hk
      cases hk

/-! ## Many calls -/

@[simp] theorem runAll_nil (s : Store) (m : Memory) : s.runAll m [] = ([], s, m) := rfl

theorem runAll_cons (s : Store) (m : Memory) (c : Call) (cs : List Call) :
    s.runAll m (c :: cs) =
      ((s.turn m c).1 :: ((s.turn m c).2.1.runAll (s.turn m c).2.2 cs).1,
        ((s.turn m c).2.1.runAll (s.turn m c).2.2 cs).2) := rfl

theorem runAll_append (s : Store) (m : Memory) (cs ds : List Call) :
    s.runAll m (cs ++ ds) =
      ((s.runAll m cs).1 ++ ((s.runAll m cs).2.1.runAll (s.runAll m cs).2.2 ds).1,
        ((s.runAll m cs).2.1.runAll (s.runAll m cs).2.2 ds).2) := by
  induction cs generalizing s m with
  | nil => rfl
  | cons c cs ih => simp only [List.cons_append, runAll_cons, ih]

/-- What comes of a call in a run is what comes of it after the calls before it. -/
theorem runAll_getElem? {cs : List Call} {i : Nat} {c : Call} (h : cs[i]? = some c) (s : Store) (m : Memory) :
    (s.runAll m cs).1[i]? = some ((s.runAll m (cs.take i)).2.1.turn (s.runAll m (cs.take i)).2.2 c).1 := by
  induction cs generalizing s m i with
  | nil => simp at h
  | cons d ds ih =>
      cases i with
      | zero =>
          simp only [List.getElem?_cons_zero, Option.some.injEq] at h
          subst h; rfl
      | succ i =>
          simp only [List.getElem?_cons_succ] at h
          simp only [runAll_cons, List.getElem?_cons_succ, List.take_succ_cons]
          exact ih h _ _

theorem runAll_take_succ {cs : List Call} {i : Nat} {c : Call} (h : cs[i]? = some c) (s : Store) (m : Memory) :
    (s.runAll m (cs.take (i + 1))).2 = ((s.runAll m (cs.take i)).2.1.turn (s.runAll m (cs.take i)).2.2 c).2 := by
  rw [List.take_add_one, h, Option.toList_some, runAll_append]
  rfl

end Store

end Permit
