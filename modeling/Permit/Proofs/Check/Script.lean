import Permit.Check
import Permit.Proofs.Effect

/-!
# What scripts do

Each step of a script, performed; and what scripts that check nothing leave in the trace.
-/

namespace Permit

namespace Script

variable {ask : Asked} {cell : Nat} {script : Script}

theorem perform_probe (ask : Asked) (cell : Nat) (viewer entity : Option Json) (next : Script) (m : Memory) :
    (probe viewer entity next).perform ask cell m =
      let rest := next.perform ask cell m
      ⟨rest.outcome, rest.memory, .probed viewer entity :: rest.trace⟩ := rfl

theorem perform_load (ask : Asked) (cell : Nat) (next : Nat → Script) (m : Memory) :
    (load next).perform ask cell m = (next (m cell)).perform ask cell m := rfl

theorem perform_save (ask : Asked) (cell value : Nat) (next : Script) (m : Memory) :
    (save value next).perform ask cell m = next.perform ask cell (m.set cell value) := rfl

/-- A script that checks no other permission leaves only notes of what the predicate was given. -/
theorem Solitary.probed (h : script.Solitary) (ask : Asked) (cell : Nat) (m : Memory) :
    ∀ entry ∈ (script.perform ask cell m).trace, ∃ viewer entity, entry = .probed viewer entity := by
  induction h generalizing m with
  | finish answer => exact fun _ hentry => absurd hentry List.not_mem_nil
  | panic message => exact fun _ hentry => absurd hentry List.not_mem_nil
  | probe viewer entity _ ih =>
      intro entry hentry
      rw [perform_probe] at hentry
      rcases List.mem_cons.mp hentry with rfl | hentry
      · exact ⟨viewer, entity, rfl⟩
      · exact ih m entry hentry
  | load _ ih =>
      rw [perform_load]
      exact ih (m cell) m
  | save value _ ih =>
      rw [perform_save]
      exact ih (m.set cell value)

theorem Solitary.invocations (h : script.Solitary) (ask : Asked) (cell : Nat) (m : Memory) :
    (script.perform ask cell m).trace.invocations = [] := by
  refine List.filterMap_eq_nil_iff.mpr fun entry hentry => ?_
  obtain ⟨viewer, entity, rfl⟩ := h.probed ask cell m entry hentry
  rfl

theorem Solitary.events (h : script.Solitary) (ask : Asked) (cell : Nat) (m : Memory) :
    (script.perform ask cell m).trace.events = [] := by
  refine List.filterMap_eq_nil_iff.mpr fun entry hentry => ?_
  obtain ⟨viewer, entity, rfl⟩ := h.probed ask cell m entry hentry
  rfl

/-- It does not matter to such a script who would answer its checks. -/
theorem Solitary.perform_eq (h : script.Solitary) (ask ask' : Asked) (cell : Nat) :
    script.perform ask cell = script.perform ask' cell := by
  funext m
  induction h generalizing m with
  | finish answer => rfl
  | panic message => rfl
  | probe viewer entity _ ih => rw [perform_probe, perform_probe, ih]
  | load _ ih => rw [perform_load, perform_load, ih]
  | save value _ ih => rw [perform_save, perform_save, ih]

end Script

end Permit
