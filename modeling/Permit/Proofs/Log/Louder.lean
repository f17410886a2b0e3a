import Mathlib.Data.List.Forall2
import Permit.Log.Settings

/-!
# Quieter and louder filters

Which directive decides about an event has nothing to do with the thresholds. So a filter that differs from another in
its thresholds only, and has no lower one, enables all that the other enables.
-/

namespace Permit.Log

/-- The same directive but for the threshold, which is not lower. -/
structure Directive.Quieter (d e : Directive) : Prop where
  target : d.target = e.target
  span : d.span = e.span
  fields : d.fields = e.fields
  threshold : d.threshold.rank ≤ e.threshold.rank

namespace Directive.Quieter

variable {d e d' e' : Directive}

theorem isStatic (h : d.Quieter e) : d.isStatic = e.isStatic := by
  rw [Directive.isStatic, Directive.isStatic, h.span]

theorem isAbout (h : d.Quieter e) (target : String) (fields : List String) :
    d.isAbout target fields = e.isAbout target fields := by
  rw [Directive.isAbout, Directive.isAbout, h.target, h.fields]

theorem targetSize (h : d.Quieter e) : d.targetSize = e.targetSize := by
  rw [Directive.targetSize, Directive.targetSize, h.target]

theorem outranks (h : d.Quieter e) (h' : d'.Quieter e') : d.outranks d' = e.outranks e' := by
  rw [Directive.outranks, Directive.outranks, h.targetSize, h'.targetSize, h.fields, h'.fields]

theorem moreSpecific {best best' : Option Directive} (hbest : Option.Rel Quieter best best') (h : d.Quieter e) :
    Option.Rel Quieter (Directive.moreSpecific best d) (Directive.moreSpecific best' e) := by
  cases hbest with
  | none => exact .some h
  | some hb =>
      simp only [Directive.moreSpecific, h.outranks hb]
      split
      · exact .some h
      · exact .some hb

theorem admits (h : d.Quieter e) {level : Level} (hd : d.threshold.admits level = true) :
    e.threshold.admits level = true :=
  decide_eq_true (Nat.le_trans (of_decide_eq_true hd) h.threshold)

end Directive.Quieter

namespace Filter

def Quieter (f g : Filter) : Prop := List.Forall₂ Directive.Quieter f.directives g.directives

theorem Quieter.deciding? {f g : Filter} (h : f.Quieter g) (target : String) (fields : List String) :
    Option.Rel Directive.Quieter (f.deciding? target fields) (g.deciding? target fields) := by
  have hmeant : List.Forall₂ Directive.Quieter
      (f.directives.filter fun d => d.isStatic && d.isAbout target fields)
      (g.directives.filter fun d => d.isStatic && d.isAbout target fields) := by
    refine List.rel_filter (fun d e hd => ?_) h
    simp only [hd.isStatic, hd.isAbout]
  exact List.rel_foldl (P := Option.Rel Directive.Quieter) (R := Directive.Quieter)
    (fun _ _ hbest _ _ hd => Directive.Quieter.moreSpecific hbest hd) .none hmeant

theorem Quieter.enables {f g : Filter} (h : f.Quieter g) {level : Level} {target : String} {fields : List String}
    (hf : f.enables level target fields = true) : g.enables level target fields = true := by
  have hdeciding := h.deciding? target fields
  unfold Filter.enables at hf ⊢
  generalize f.deciding? target fields = best, g.deciding? target fields = best' at hf hdeciding ⊢
  cases hdeciding with
  | none => cases hf
  | some hd => exact hd.admits hf

/-- Only the fields that a directive names are looked for in an event. -/
theorem enables_of_no_fields {f : Filter} (h : ∀ d ∈ f.directives, d.fields = []) (level : Level) (target : String)
    (fields fields' : List String) : f.enables level target fields = f.enables level target fields' := by
  have hsame : (f.directives.filter fun d => d.isStatic && d.isAbout target fields) =
      f.directives.filter fun d => d.isStatic && d.isAbout target fields' := by
    refine List.filter_congr fun d hd => ?_
    rw [Directive.isAbout, Directive.isAbout, h d hd]
    rfl
  rw [enables, enables, deciding?, deciding?, hsame]

/-- A threshold for everything. -/
def bare (t : Threshold) : Filter := ⟨[⟨none, none, [], t⟩]⟩

theorem read_name (t : Threshold) : read t.name = .accepted (bare t) := by
  cases t with
  | off => rfl
  | upTo level => cases level <;> rfl

theorem bare_quieter {t t' : Threshold} (h : t.rank ≤ t'.rank) : (bare t).Quieter (bare t') :=
  .cons ⟨rfl, rfl, rfl, h⟩ .nil

@[simp] theorem enables_bare (t : Threshold) (level : Level) (target : String) (fields : List String) :
    (bare t).enables level target fields = t.admits level := rfl

end Filter

end Permit.Log
