import Permit.Proofs.Check.Stateless
import Permit.Proofs.Shared.Threads

/-!
# Calls in one go

What each call does to a shared store. A call whose arguments are converted without a panic leaves the lock sound.
-/

namespace Permit

namespace Shared

variable {sh : Shared}

/-- No call that changes something has an argument that panics, and no rule that it brings uses a number. -/
inductive Call.Calm : Call → Prop where
  | evaluate (viewer action subject) : Calm (.evaluate viewer action subject)
  | define (type actions) {rule} : rule.Stateless → Calm (.define (.gives type) (.gives actions) (.gives rule))
  | undefine (type actions) : Calm (.undefine type (.gives actions))
  | knows (type) : Calm (.knows type)
  | clone : Calm .clone

theorem perform_evaluate (h : sh.poisoned = false) (m : Memory) (viewer : Option Json) (action : String)
    (subject : Conversion Subject) :
    sh.perform m (.evaluate viewer action subject) =
      let own := checking sh.store viewer action subject m
      (⟨own.outcome.map (·.map .allowed), own.memory, own.trace⟩, sh) := by
  rw [perform, reading, if_neg (by simp [h]), Effect.bind_pure_apply]

theorem perform_define (h : sh.poisoned = false) (m : Memory) (type : String) (actions : Actions) (rule : Rule) :
    sh.perform m (.define (.gives type) (.gives actions) (.gives rule)) =
      (⟨.returned (.ok .changed), m,
        [.converted, .converted, .converted, .emitted (.defining type actions.size rule.kind)]⟩,
        { sh with store := ⟨sh.store.table.define type actions.names rule⟩ }) := by
  rw [perform, writing, if_neg (by simp [h])]
  rfl

theorem undefining_gives (s : Store) (m : Memory) (type : String) (actions : Actions) :
    undefining s type (.gives actions) m =
      let own := s.perform (.undefine type actions) m
      ⟨own.outcome, own.memory, .converted :: own.trace⟩ := by
  have hrun : (Conversion.gives actions).run m = ⟨.returned actions, m, [.converted]⟩ := rfl
  rw [undefining, Effect.bind_of_returned hrun]
  rfl

theorem perform_undefine_of_none (h : sh.poisoned = false) (m : Memory) {type : String} {actions : Actions}
    (hu : sh.store.table.undefine? type actions.names = none) :
    sh.perform m (.undefine type (.gives actions)) =
      (⟨.returned (.error (.unknownType type)), m, [.converted, .emitted (.undefinedUnknown type)]⟩, sh) := by
  rw [perform, writing, if_neg (by simp [h]), undefining_gives]
  simp only [Store.perform, Store.undefine, hu]
  rfl

theorem perform_undefine_of_some (h : sh.poisoned = false) (m : Memory) {type : String} {actions : Actions} {t : Table}
    {removed : Nat} (hu : sh.store.table.undefine? type actions.names = some (t, removed)) :
    sh.perform m (.undefine type (.gives actions)) =
      (⟨.returned (.ok .changed), m, [.converted, .emitted (.undefined type removed actions.size)]⟩,
        { sh with store := ⟨t⟩ }) := by
  rw [perform, writing, if_neg (by simp [h]), undefining_gives]
  simp only [Store.perform, Store.undefine, hu]
  rfl

theorem perform_knows (h : sh.poisoned = false) (m : Memory) (type : String) :
    sh.perform m (.knows type) = (⟨.returned (.ok (.known (sh.store.knows type))), m, []⟩, sh) := by
  rw [perform, reading, if_neg (by simp [h])]
  rfl

theorem perform_clone (sh : Shared) (m : Memory) :
    sh.perform m .clone = (⟨.returned (.ok (.handle sh.handles)), m, []⟩, { sh with handles := sh.handles + 1 }) := rfl

/-! ## What stays -/

theorem writing_handles (sh : Shared) (m : Memory) (x : Effect (Except Refusal Permit.Reply × Store)) :
    (sh.writing m x).2.handles = sh.handles := by
  unfold writing
  split
  · rfl
  · split <;> rfl

theorem reading_shared (sh : Shared) (m : Memory) (x : Effect (Except Refusal Reply)) : (sh.reading m x).2 = sh := by
  unfold reading
  split <;> rfl

theorem handles_perform (sh : Shared) (m : Memory) (c : Call) : sh.handles ≤ (sh.perform m c).2.handles := by
  cases c with
  | evaluate | knows => exact Nat.le_of_eq (congrArg handles (reading_shared ..).symm)
  | define | undefine => exact Nat.le_of_eq (writing_handles ..).symm
  | clone => exact Nat.le_succ _

/-- What a calm call does that is not a check. -/
theorem Call.Calm.perform {c : Call} (hc : c.Calm) (h : sh.poisoned = false) (hs : sh.store.table.Stateless)
    (m : Memory) (hcheck : ∀ viewer action subject, c ≠ .evaluate viewer action subject) :
    ∃ result trace sh', sh.perform m c = (⟨result, m, trace⟩, sh') ∧ sh'.poisoned = false ∧
      sh'.store.table.Stateless ∧ (c.access ≠ .writing → sh'.store = sh.store) := by
  cases hc with
  | evaluate viewer action subject => exact absurd rfl (hcheck viewer action subject)
  | define type actions hrule =>
      exact ⟨_, _, _, perform_define h m type actions _, h, hs.define hrule type actions.names, fun hw => absurd rfl hw⟩
  | undefine type actions =>
      cases hu : sh.store.table.undefine? type actions.names with
      | none => exact ⟨_, _, _, perform_undefine_of_none h m hu, h, hs, fun _ => rfl⟩
      | some out => exact ⟨_, _, _, perform_undefine_of_some h m hu, h, hs.undefine? hu, fun hw => absurd rfl hw⟩
  | knows type => exact ⟨_, _, _, perform_knows h m type, h, hs, fun _ => rfl⟩
  | clone => exact ⟨_, _, _, perform_clone sh m, h, hs, fun _ => rfl⟩

end Shared

end Permit
