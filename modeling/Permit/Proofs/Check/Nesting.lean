import Mathlib.Data.Finset.Card
import Mathlib.Logic.Relation
import Permit.Proofs.Check.Levels
import Permit.Proofs.Table.Same

/-!
# How deep checks nest

A rule refers to the types and actions that its predicate may check. If no rule refers to itself, be it through others,
then below a check fewer predicates are within reach than above it. So checks nest at most one level deeper than there are
predicates, and with so many levels every check comes to its end.
-/

namespace Permit

/-- The type and the action that a check is about. -/
def Inquiry.key (q : Inquiry) : String × String := (q.subject.typeName, q.action)

/-! ## One script -/

namespace Script

variable {ask : Asked} {cell : Nat} {script : Script} {m : Memory} {q : Inquiry}

theorem mayCheck_of_mem_checks (h : q ∈ script.checks ask cell m) : script.MayCheck q.key.1 q.key.2 := by
  induction script generalizing m with
  | finish answer => exact absurd h List.not_mem_nil
  | panic message => exact absurd h List.not_mem_nil
  | probe viewer entity next ih => exact .probe viewer entity (ih h)
  | load next ih => exact .load (m cell) (ih (m cell) h)
  | save value next ih => exact .save value (ih h)
  | check viewer action subject next ih =>
      rw [checks] at h
      rcases List.mem_cons.mp h with rfl | hrest
      · exact .here viewer rfl
      · split at hrest
        · exact .check viewer action subject _ (ih _ hrest)
        · exact absurd hrest List.not_mem_nil

/-- Only a check of its own can keep a script from its end. -/
theorem exists_exhausted (h : (script.perform ask cell m).outcome = .exhausted) :
    ∃ q ∈ script.checks ask cell m, (q.run ask).outcome = .exhausted := by
  induction script generalizing m with
  | finish answer => cases h
  | panic message => cases h
  | probe viewer entity next ih => exact ih h
  | load next ih => exact ih (m cell) h
  | save value next ih => exact ih h
  | check viewer action subject next ih =>
      rw [perform] at h
      rw [checks]
      obtain ⟨outcome, m', t, hask⟩ := Run.exists_eq (ask viewer action subject m)
      cases outcome with
      | returned answer =>
          rw [Effect.bind_of_returned hask] at h
          obtain ⟨q, hq, hexhausted⟩ := ih answer h
          exact ⟨q, List.mem_cons_of_mem _ (by rwa [hask]), hexhausted⟩
      | panicked message =>
          rw [Effect.bind_of_panicked hask] at h
          cases h
      | exhausted => exact ⟨_, List.mem_cons_self, congrArg Run.outcome hask⟩

end Script

namespace Table

variable {t : Table} {levels n : Nat} {q q' : Inquiry} {p : Predicate} {key key' : String × String}

/-! ## How deep a check goes -/

theorem ends_of_not_asks (h : ∀ p, ¬ q.Asks t p) (levels : Nat) :
    (q.run (t.evaluate (levels + 1))).outcome ≠ .exhausted := by
  rcases Argument.checkViewer_cases q.viewer with hv | hv
  · rw [Inquiry.run, evaluate_of_accepted hv, decide_outcome]
    split
    · split
      · exact Outcome.returned_ne_exhausted _
      · rename_i rule hr
        cases rule with
        | allow | deny => exact Outcome.returned_ne_exhausted _
        | predicate p => exact absurd ⟨hv, hr⟩ (h p)
    · exact Outcome.returned_ne_exhausted _
  · rw [Inquiry.run, evaluate_of_refused hv]
    exact Outcome.returned_ne_exhausted _

/-- How many checks stand above one another, from this one to the deepest below it; the outermost counts too. -/
def nesting (t : Table) : Nat → Inquiry → Nat
  | 0, _ => 1
  | levels + 1, q => ((t.below levels q).map (t.nesting levels)).foldr max 0 + 1

theorem nesting_le_iff :
    t.nesting (levels + 1) q ≤ n + 1 ↔ ∀ q' ∈ t.below levels q, t.nesting levels q' ≤ n := by
  rw [nesting, Nat.add_le_add_iff_right]
  induction t.below levels q with
  | nil => simp
  | cons q' rest ih => simp [ih]

/-- Only the checks of its predicate can keep a check from its end. -/
theorem exists_below_exhausted (h : (q.run (t.evaluate (levels + 1))).outcome = .exhausted) :
    ∃ q' ∈ t.below levels q, (q'.run (t.evaluate levels)).outcome = .exhausted := by
  by_cases hp : ∃ p, q.Asks t p
  · obtain ⟨p, hq⟩ := hp
    rw [below_of_predicate hq.viewer hq.rule]
    refine Script.exists_exhausted ?_
    rw [run_of_asks hq] at h
    exact Outcome.map_eq_exhausted.mp h
  · exact absurd h (ends_of_not_asks (not_exists.mp hp) levels)

/-- A check that goes less deep than it may comes to its end. -/
theorem ends_of_nesting_le (h : t.nesting levels q ≤ levels) : (q.run (t.evaluate levels)).outcome ≠ .exhausted := by
  induction levels generalizing q with
  | zero => exact absurd h (Nat.not_succ_le_zero 0)
  | succ levels ih =>
      intro hexhausted
      obtain ⟨q', hq', hbelow⟩ := exists_below_exhausted hexhausted
      exact ih (nesting_le_iff.mp h q' hq') hbelow

/-! ## What rules refer to -/

/-- The rule for the first type and action is a predicate that may check the second. -/
def Refers (t : Table) (key key' : String × String) : Prop :=
  ∃ p viewer entity, t.rule? key.1 key.2 = some (.predicate p) ∧ (p.script viewer entity).MayCheck key'.1 key'.2

/-- No rule refers to itself, directly or through others. -/
def Acyclic (t : Table) : Prop := ∀ key, ¬ Relation.TransGen t.Refers key key

theorem refers_of_mem_below (h : q' ∈ t.below levels q) : t.Refers q.key q'.key := by
  obtain ⟨p, hq, hchecks⟩ := asks_of_mem_below h
  exact ⟨p, q.viewer, q.subject.value?, hq.rule, Script.mayCheck_of_mem_checks hchecks⟩

/-- If every reference goes to a lower rank, none leads back. -/
theorem Acyclic.of_rank (rank : String × String → Nat) (h : ∀ key key', t.Refers key key' → rank key' < rank key) :
    t.Acyclic := by
  have hdescends : ∀ key key', Relation.TransGen t.Refers key key' → rank key' < rank key := by
    intro key key' hpath
    induction hpath with
    | single hrefers => exact h _ _ hrefers
    | tail _ hrefers ih => exact Nat.lt_trans (h _ _ hrefers) ih
  exact fun key hloop => Nat.lt_irrefl _ (hdescends key key hloop)

/-! ## The predicates within reach -/

/-- The types and actions whose rule is a predicate. -/
def predicateKeys (t : Table) : List (String × String) :=
  t.rows.toList.flatMap fun entry => (predicates entry.2).keys.map fun action => (entry.1, action)

theorem length_predicateKeys (t : Table) : t.predicateKeys.length = t.predicateCount := by
  rw [predicateCount_eq_foldl, predicateKeys, List.length_flatMap]
  simp only [List.length_map, Entries.length_keys]
  exact List.sum_eq_foldl

theorem mem_predicateKeys (h : t.rule? key.1 key.2 = some (.predicate p)) : key ∈ t.predicateKeys := by
  obtain ⟨row, hrow, hrule⟩ := Option.bind_eq_some_iff.mp h
  have hkept : key.2 ∈ (predicates row).keys := by
    rw [Entries.mem_keys, predicates, Entries.get?_filter, hrule]
    rfl
  exact List.mem_flatMap.mpr ⟨_, Entries.get?_eq_some_iff.mp hrow, List.mem_map_of_mem hkept⟩

open scoped Classical in
/-- Those of them that a type and action refer to, be it through others, and these themselves. -/
noncomputable def within (t : Table) (key : String × String) : Finset (String × String) :=
  t.predicateKeys.toFinset.filter fun key' => Relation.ReflTransGen t.Refers key key'

theorem mem_within : key' ∈ t.within key ↔ key' ∈ t.predicateKeys ∧ Relation.ReflTransGen t.Refers key key' := by
  simp [within]

theorem card_within_le (t : Table) (key : String × String) : (t.within key).card ≤ t.predicateCount := by
  have hsubset : t.within key ⊆ t.predicateKeys.toFinset := fun other hother =>
    List.mem_toFinset.mpr (mem_within.mp hother).1
  rw [← length_predicateKeys]
  exact (Finset.card_le_card hsubset).trans (List.toFinset_card_le _)

theorem card_within_pos (h : t.rule? key.1 key.2 = some (.predicate p)) : 0 < (t.within key).card :=
  Finset.card_pos.mpr ⟨key, mem_within.mpr ⟨mem_predicateKeys h, .refl⟩⟩

/-- Without circles the predicate that refers to others is out of their reach. -/
theorem Acyclic.card_within_lt (h : t.Acyclic) (hrefers : t.Refers key key') :
    (t.within key').card < (t.within key).card := by
  obtain ⟨p, -, -, hrule, -⟩ := id hrefers
  refine Finset.card_lt_card ((Finset.ssubset_iff_of_subset ?_).mpr ⟨key, ?_, ?_⟩)
  · intro other hother
    obtain ⟨hpredicate, hpath⟩ := mem_within.mp hother
    exact mem_within.mpr ⟨hpredicate, .head hrefers hpath⟩
  · exact mem_within.mpr ⟨mem_predicateKeys hrule, .refl⟩
  · intro hback
    exact h key (.head' hrefers (mem_within.mp hback).2)

/-! ## Without circles -/

theorem Acyclic.nesting_le_within (h : t.Acyclic) (levels : Nat) (q : Inquiry) :
    t.nesting levels q ≤ (t.within q.key).card + 1 := by
  induction levels generalizing q with
  | zero => exact Nat.le_add_left 1 _
  | succ levels ih =>
      refine nesting_le_iff.mpr fun q' hq' => ?_
      calc
        t.nesting levels q' ≤ (t.within q'.key).card + 1 := ih q'
        _ ≤ (t.within q.key).card := h.card_within_lt (refers_of_mem_below hq')

/-- Level by level the check comes to fewer predicates. -/
theorem Acyclic.card_of_reaches (h : t.Acyclic) (hreaches : t.Reaches levels q n q') :
    levels + (t.within q'.key).card ≤ n + (t.within q.key).card := by
  induction hreaches with
  | here => exact Nat.le_refl _
  | next _ hbelow ih =>
      have hlt := h.card_within_lt (refers_of_mem_below hbelow)
      omega

/-- With more levels than there are predicates every check ends, and it comes to the same with any such number. -/
theorem Acyclic.run_eq (h : t.Acyclic) (hlevels : t.predicateCount < levels) (q : Inquiry) :
    (q.run (t.evaluate levels)).outcome ≠ .exhausted ∧
    q.run (t.evaluate levels) = q.run (t.evaluate (t.predicateCount + 1)) := by
  have hends : (q.run (t.evaluate (t.predicateCount + 1))).outcome ≠ .exhausted :=
    ends_of_nesting_le ((h.nesting_le_within _ q).trans (Nat.add_le_add_right (t.card_within_le q.key) 1))
  have hrun := run_of_le hends hlevels
  exact ⟨hrun ▸ hends, hrun⟩

end Table

end Permit
