import Permit.Effect

/-!
# Laws of effects

How a sequence of computations comes out, said by how its parts come out.
-/

namespace Permit

namespace Outcome

variable {α β γ : Type}

/-- Changes the value that was returned, if one was. -/
def map (f : α → β) : Outcome α → Outcome β
  | .returned a => .returned (f a)
  | .panicked message => .panicked message
  | .exhausted => .exhausted

@[simp] theorem map_returned (f : α → β) (a : α) : (returned a).map f = .returned (f a) := rfl

@[simp] theorem map_panicked (f : α → β) (message : String) :
    (panicked message : Outcome α).map f = .panicked message := rfl

@[simp] theorem map_exhausted (f : α → β) : (exhausted : Outcome α).map f = .exhausted := rfl

theorem returned_ne_exhausted (a : α) : (returned a : Outcome α) ≠ .exhausted := by simp

@[simp] theorem map_eq_exhausted {f : α → β} {o : Outcome α} : o.map f = .exhausted ↔ o = .exhausted := by
  cases o <;> simp

theorem map_map (g : β → γ) (f : α → β) (o : Outcome α) : (o.map f).map g = o.map fun a => g (f a) := by
  cases o <;> rfl

end Outcome

theorem Run.exists_eq {α : Type} (run : Run α) : ∃ outcome memory trace, run = ⟨outcome, memory, trace⟩ :=
  ⟨run.outcome, run.memory, run.trace, rfl⟩

namespace Effect

variable {α β : Type}

theorem bind_of_returned {x : Effect α} {f : α → Effect β} {m m' : Memory} {a : α} {t : Trace}
    (h : x m = ⟨.returned a, m', t⟩) :
    (x >>= f) m = ⟨(f a m').outcome, (f a m').memory, t ++ (f a m').trace⟩ := by
  rw [bind_apply, Effect.bind, h]

theorem bind_of_panicked {x : Effect α} {f : α → Effect β} {m m' : Memory} {message : String} {t : Trace}
    (h : x m = ⟨.panicked message, m', t⟩) : (x >>= f) m = ⟨.panicked message, m', t⟩ := by
  rw [bind_apply, Effect.bind, h]

theorem bind_of_exhausted {x : Effect α} {f : α → Effect β} {m m' : Memory} {t : Trace}
    (h : x m = ⟨.exhausted, m', t⟩) : (x >>= f) m = ⟨.exhausted, m', t⟩ := by
  rw [bind_apply, Effect.bind, h]

theorem bind_pure_apply (x : Effect α) (g : α → β) (m : Memory) :
    (x >>= fun a => Pure.pure (g a)) m = ⟨(x m).outcome.map g, (x m).memory, (x m).trace⟩ := by
  match h : x m with
  | ⟨.returned a, m', t⟩ => simp [bind_of_returned h]
  | ⟨.panicked message, m', t⟩ => simp [bind_of_panicked h]
  | ⟨.exhausted, m', t⟩ => simp [bind_of_exhausted h]

@[simp] theorem note_bind (entry : Entry) (f : Unit → Effect β) (m : Memory) :
    (note entry >>= f) m = ⟨(f () m).outcome, (f () m).memory, entry :: (f () m).trace⟩ := rfl

@[simp] theorem emit_bind (event : Event) (f : Unit → Effect β) (m : Memory) :
    (emit event >>= f) m = ⟨(f () m).outcome, (f () m).memory, .emitted event :: (f () m).trace⟩ := rfl

theorem bind_assoc {γ : Type} (x : Effect α) (f : α → Effect β) (g : β → Effect γ) :
    (x >>= f) >>= g = x >>= fun a => f a >>= g := by
  funext m
  rcases hx : x m with ⟨o, m', t⟩
  cases o with
  | returned a =>
      rcases hf : f a m' with ⟨o, m'', u⟩
      have hxf := bind_of_returned (f := f) hx
      rw [hf] at hxf
      cases o with
      | returned b => rw [bind_of_returned hxf, bind_of_returned hx, bind_of_returned hf, List.append_assoc]
      | panicked message => rw [bind_of_panicked hxf, bind_of_returned hx, bind_of_panicked hf]
      | exhausted => rw [bind_of_exhausted hxf, bind_of_returned hx, bind_of_exhausted hf]
  | panicked message => rw [bind_of_panicked (bind_of_panicked hx), bind_of_panicked hx]
  | exhausted => rw [bind_of_exhausted (bind_of_exhausted hx), bind_of_exhausted hx]

/-! ## Computations that differ in their traces -/

/-- The same comes of both, but for the trace. -/
def Alike (x y : Effect α) : Prop := ∀ m, (x m).outcome = (y m).outcome ∧ (x m).memory = (y m).memory

namespace Alike

variable {x y z : Effect α}

theorem refl (x : Effect α) : Alike x x := fun _ => ⟨rfl, rfl⟩

theorem symm (h : Alike x y) : Alike y x := fun m => ⟨(h m).1.symm, (h m).2.symm⟩

theorem trans (hxy : Alike x y) (hyz : Alike y z) : Alike x z :=
  fun m => ⟨(hxy m).1.trans (hyz m).1, (hxy m).2.trans (hyz m).2⟩

theorem bind {f g : α → Effect β} (hx : Alike x y) (hf : ∀ a, Alike (f a) (g a)) : Alike (x >>= f) (y >>= g) := by
  intro m
  obtain ⟨houtcome, hmemory⟩ := hx m
  rcases hxm : x m with ⟨o, m', t⟩
  rcases hym : y m with ⟨o', m'', u⟩
  rw [hxm, hym] at houtcome hmemory
  cases houtcome
  cases hmemory
  cases o with
  | returned a =>
      rw [bind_of_returned hxm, bind_of_returned hym]
      exact hf a m'
  | panicked message =>
      rw [bind_of_panicked hxm, bind_of_panicked hym]
      exact ⟨rfl, rfl⟩
  | exhausted =>
      rw [bind_of_exhausted hxm, bind_of_exhausted hym]
      exact ⟨rfl, rfl⟩

theorem note (entry : Entry) (f : Unit → Effect β) : Alike (Effect.note entry >>= f) (f ()) := fun _ => ⟨rfl, rfl⟩

end Alike

end Effect

end Permit
