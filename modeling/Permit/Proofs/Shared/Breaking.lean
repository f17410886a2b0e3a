import Permit.Proofs.Shared.Perform

/-!
# Calls that break

A change breaks when one of its arguments panics while it is converted. Then the lock is poisoned and nothing else has
happened; no other call poisons a lock. Calls on a poisoned lock do nothing at all.
-/

namespace Permit

namespace Shared

variable {sh : Shared} {c : Call} {message : String}

/-- A change of which an argument panics, and what the first such argument panics with. -/
inductive Call.Breaks (message : String) : Call → Prop where
  | type (actions rule) : Breaks message (.define (.panics message) actions rule)
  | actions (type rule) : Breaks message (.define (.gives type) (.panics message) rule)
  | rule (type actions) : Breaks message (.define (.gives type) (.gives actions) (.panics message))
  | removal (type) : Breaks message (.undefine type (.panics message))

/-- A call that is no change, or a change all of whose arguments are converted. -/
inductive Call.Whole : Call → Prop where
  | evaluate (viewer action subject) : Whole (.evaluate viewer action subject)
  | define (type actions rule) : Whole (.define (.gives type) (.gives actions) (.gives rule))
  | undefine (type actions) : Whole (.undefine type (.gives actions))
  | knows (type) : Whole (.knows type)
  | clone : Whole .clone

theorem Call.whole_or_breaks (c : Call) : c.Whole ∨ ∃ message, c.Breaks message := by
  cases c with
  | evaluate viewer action subject => exact .inl (.evaluate viewer action subject)
  | define type actions rule =>
      cases type with
      | panics message => exact .inr ⟨message, .type actions rule⟩
      | gives type =>
          cases actions with
          | panics message => exact .inr ⟨message, .actions type rule⟩
          | gives actions =>
              cases rule with
              | panics message => exact .inr ⟨message, .rule type actions⟩
              | gives rule => exact .inl (.define type actions rule)
  | undefine type actions =>
      cases actions with
      | panics message => exact .inr ⟨message, .removal type⟩
      | gives actions => exact .inl (.undefine type actions)
  | knows type => exact .inl (.knows type)
  | clone => exact .inl .clone

theorem Call.Breaks.not_whole (h : c.Breaks message) : ¬ c.Whole := by
  cases h <;> rintro ⟨⟩

/-! ## On a lock that is not poisoned -/

theorem checking_of_accepted {viewer : Option Json} (hv : Argument.checkViewer viewer = .ok ()) (s : Store)
    (action : String) (subject : Conversion Subject) :
    checking s viewer action subject = subject.run >>= s.evaluate viewer action := by
  simp [checking, hv]

theorem checking_of_refused {viewer : Option Json} {refusal : Refusal}
    (hv : Argument.checkViewer viewer = .error refusal) (s : Store) (action : String) (subject : Conversion Subject) :
    checking s viewer action subject = pure (.error refusal) := by
  simp [checking, hv]

theorem writing_of_panicked {x : Effect (Except Refusal Permit.Reply × Store)} {m m' : Memory} {t : Trace}
    (h : sh.poisoned = false) (hx : x m = ⟨.panicked message, m', t⟩) :
    sh.writing m x = (⟨.panicked message, m', t⟩, { sh with poisoned := true }) := by
  rw [writing, if_neg (by simp [h]), hx]

/-- All that a change that breaks does is to try its arguments up to the one that panics. -/
theorem perform_of_breaks (h : sh.poisoned = false) (hc : c.Breaks message) (m : Memory) :
    ∃ tried, sh.perform m c =
      (⟨.panicked message, m, List.replicate tried .converted⟩, { sh with poisoned := true }) := by
  cases hc with
  | type actions rule =>
      refine ⟨1, ?_⟩
      rw [perform]
      exact writing_of_panicked h rfl
  | actions type rule =>
      refine ⟨2, ?_⟩
      rw [perform]
      exact writing_of_panicked h rfl
  | rule type actions =>
      refine ⟨3, ?_⟩
      rw [perform]
      exact writing_of_panicked h rfl
  | removal type =>
      refine ⟨1, ?_⟩
      rw [perform]
      exact writing_of_panicked h rfl

theorem perform_of_whole (h : sh.poisoned = false) (hc : c.Whole) (m : Memory) :
    (sh.perform m c).2.poisoned = false := by
  cases hc with
  | evaluate viewer action subject => rw [perform_evaluate h]; exact h
  | define type actions rule => rw [perform_define h]; exact h
  | undefine type actions =>
      cases hu : sh.store.table.undefine? type actions.names with
      | none => rw [perform_undefine_of_none h m hu]; exact h
      | some out => rw [perform_undefine_of_some h m hu]; exact h
  | knows type => rw [perform_knows h]; exact h
  | clone => exact h

/-! ## On a poisoned lock -/

theorem perform_of_poisoned (h : sh.poisoned = true) (m : Memory) (hc : c ≠ .clone) :
    sh.perform m c = (⟨.panicked poisonMessage, m, []⟩, sh) := by
  cases c with
  | evaluate | knows => exact if_pos h
  | define | undefine => exact if_pos h
  | clone => exact absurd rfl hc

end Shared

end Permit
