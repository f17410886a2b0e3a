import Permit.Proofs.Dictionary
import Permit.Proofs.Table.Lookup

/-!
# The same table

A table is given by the types that it knows and the rules that it has. Two tables that know the same types name them
alike, and two with the same predicates count as many of them.
-/

namespace Permit

namespace Table

variable {β : Type} {t u : Table}

/-- Tables that know the same types have alike for a type what their rows have alike. -/
theorem map_row?_eq {f : Row → β} (hk : ∀ type, t.knows type = u.knows type)
    (h : ∀ type row row', t.row? type = some row → u.row? type = some row' → f row = f row') (type : String) :
    (t.row? type).map f = (u.row? type).map f := by
  have hknown : (t.row? type).isSome = (u.row? type).isSome := hk type
  cases hrow : t.row? type with
  | none =>
      cases hrow' : u.row? type with
      | none => rfl
      | some row' => simp [hrow, hrow'] at hknown
  | some row =>
      cases hrow' : u.row? type with
      | none => simp [hrow, hrow'] at hknown
      | some row' => exact congrArg some (h type row row' hrow hrow')

theorem Same.refl (t : Table) : t.Same t := ⟨fun _ => rfl, fun _ _ => rfl⟩

/-- Tables that are the same are equal. -/
theorem Same.eq (h : t.Same u) : t = u := by
  have hrows : ∀ type row row', t.row? type = some row → u.row? type = some row' → id row = id row' := by
    intro type row row' hrow hrow'
    refine Entries.ext fun action => ?_
    simpa [rule?, hrow, hrow'] using h.2 type action
  refine congrArg Table.mk (Entries.ext fun type => ?_)
  show t.row? type = u.row? type
  simpa using map_row?_eq h.1 hrows type

/-! ## What is counted -/

theorem map_rows_eq {f : Row → β} (hk : ∀ type, t.knows type = u.knows type)
    (h : ∀ type row row', t.row? type = some row → u.row? type = some row' → f row = f row') :
    t.rows.map f = u.rows.map f := by
  refine Entries.ext fun type => ?_
  rw [Entries.get?_map, Entries.get?_map]
  exact map_row?_eq hk h type

theorem typeNames_eq (h : ∀ type, t.knows type = u.knows type) : t.typeNames = u.typeNames := by
  have hnames := congrArg Entries.keys (map_rows_eq (f := fun _ => ()) h fun _ _ _ _ _ => rfl)
  rwa [Entries.keys_map, Entries.keys_map] at hnames

theorem size_eq_length (t : Table) : t.size = t.typeNames.length := t.rows.length_keys.symm

theorem isEmpty_eq (t : Table) : t.isEmpty = t.typeNames.isEmpty := t.rows.isEmpty_keys.symm

/-- The predicates in a row. -/
def predicates (row : Row) : Row := row.filter fun _ rule => rule.isPredicate

theorem predicateCount_eq_foldl (t : Table) :
    t.predicateCount = (t.rows.toList.map fun entry => (predicates entry.2).size).foldl Nat.add 0 := by
  rw [List.foldl_map]
  refine congrArg (fun count => t.rows.toList.foldl count 0) (funext fun n => funext fun entry => ?_)
  rw [predicates, Entries.size, Entries.toList_filter, ← List.countP_eq_length_filter]
  rfl

theorem predicateCount_eq (hk : ∀ type, t.knows type = u.knows type)
    (h : ∀ type action, (t.rule? type action).filter Rule.isPredicate = (u.rule? type action).filter Rule.isPredicate) :
    t.predicateCount = u.predicateCount := by
  have hrows : ∀ type row row', t.row? type = some row → u.row? type = some row' →
      (predicates row).size = (predicates row').size := by
    intro type row row' hrow hrow'
    refine congrArg Entries.size (Entries.ext fun action => ?_)
    rw [predicates, predicates, Entries.get?_filter, Entries.get?_filter]
    simpa [rule?, hrow, hrow'] using h type action
  have hsizes := congrArg (fun sizes => sizes.toList.map Prod.snd) (map_rows_eq hk hrows)
  simp only [Entries.toList_map, List.map_map] at hsizes
  rw [predicateCount_eq_foldl, predicateCount_eq_foldl]
  exact congrArg (List.foldl Nat.add 0) hsizes

end Table

end Permit
