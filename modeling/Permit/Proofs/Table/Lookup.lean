import Permit.Table.Build

/-!
# Looking up after changes

What a table knows, and which rule it has, after a definition and after a removal.
-/

namespace Permit

namespace Table

variable {t t' : Table} {type other action : String} {actions : List String} {rule : Rule}

theorem knows_setRow (t : Table) (type other : String) (row : Row) :
    (t.setRow type row).knows other = (type == other || t.knows other) := by
  by_cases h : type = other <;> simp [knows, h]

theorem rule?_setRow (t : Table) (type other action : String) (row : Row) :
    (t.setRow type row).rule? other action = if type = other then row.get? action else t.rule? other action := by
  by_cases h : type = other <;> simp [rule?, h]

theorem rule?_of_not_knows (h : t.knows type = false) (action : String) : t.rule? type action = none := by
  have hrow : t.row? type = none := by simpa [knows] using h
  simp [rule?, hrow]

theorem knows_of_rule? (h : t.rule? type action = some rule) : t.knows type = true := by
  cases hk : t.knows type with
  | true => rfl
  | false => simp [rule?_of_not_knows hk] at h

theorem get?_rowOf (t : Table) (type action : String) : (t.rowOf type).get? action = t.rule? type action := by
  cases h : t.row? type <;> simp [rowOf, rule?, h]

/-! ## Definitions -/

/-- Gives each of the actions the rule. -/
def insertAll (actions : List String) (rule : Rule) (row : Row) : Row :=
  actions.foldl (fun row action => row.insert action rule) row

theorem define_eq (t : Table) (type : String) (actions : List String) (rule : Rule) :
    t.define type actions rule = t.setRow type (insertAll actions rule (t.rowOf type)) := rfl

theorem get?_insertAll (actions : List String) (rule : Rule) (row : Row) (action : String) :
    (insertAll actions rule row).get? action = if action ∈ actions then some rule else row.get? action := by
  induction actions generalizing row with
  | nil => simp [insertAll]
  | cons a rest ih =>
      rw [insertAll, List.foldl_cons, ← insertAll, ih, Dictionary.get?_insert]
      by_cases ha : a = action
      · simp [ha]
      · simp [ha, Ne.symm ha]

theorem rule?_define (t : Table) (type other action : String) (actions : List String) (rule : Rule) :
    (t.define type actions rule).rule? other action =
      if type = other ∧ action ∈ actions then some rule else t.rule? other action := by
  rw [define_eq, rule?_setRow, get?_insertAll, get?_rowOf]
  by_cases h : type = other
  · subst h; simp
  · simp [h]

theorem row?_define (t : Table) (type other : String) (actions : List String) (rule : Rule) :
    (t.define type actions rule).row? other =
      if type = other then some (insertAll actions rule ((t.row? type).getD .nil)) else t.row? other :=
  row?_setRow t type other _

theorem knows_define (t : Table) (type other : String) (actions : List String) (rule : Rule) :
    (t.define type actions rule).knows other = (type == other || t.knows other) :=
  knows_setRow t type other _

theorem rule?_ensure (t : Table) (type other action : String) :
    (t.ensure type).rule? other action = t.rule? other action := by
  rw [ensure, rule?_setRow, get?_rowOf]
  split
  · rename_i h
    rw [h]
  · rfl

theorem rule?_insert (t : Table) (type other action action' : String) (rule : Rule) :
    (t.insert type action rule).rule? other action' =
      if type = other ∧ action = action' then some rule else t.rule? other action' := by
  rw [insert, rule?_setRow, Dictionary.get?_insert, get?_rowOf]
  by_cases h : type = other
  · subst h; simp
  · simp [h]

theorem rule?_withActions (t : Table) (type other action : String) (actions : List String) (rule : Rule) :
    (t.withActions type actions rule).rule? other action =
      if type = other ∧ action ∈ actions then some rule else t.rule? other action := by
  induction actions generalizing t with
  | nil => simp [withActions]
  | cons a rest ih =>
      have hrest := ih (t.insert type a rule)
      rw [withActions, List.foldl_cons, ← withActions, hrest, rule?_insert]
      by_cases ht : type = other
      · by_cases ha : a = action
        · simp [ht, ha]
        · simp [ht, ha, Ne.symm ha]
      · simp [ht]

/-! ## Removals -/

theorem get?_removeAll (actions : List String) (row : Row) (action : String) :
    (removeAll actions row).1.get? action = if action ∈ actions then none else row.get? action := by
  induction actions generalizing row with
  | nil => simp [removeAll]
  | cons a rest ih =>
      cases h : row.get? a with
      | none =>
          simp only [removeAll, h, ih]
          by_cases ha : action = a
          · subst ha; simp [h]
          · simp [ha]
      | some r =>
          simp only [removeAll, h, ih, Entries.get?_erase]
          by_cases ha : a = action
          · simp [ha]
          · simp [ha, Ne.symm ha]

theorem undefine?_eq_none : t.undefine? type actions = none ↔ t.knows type = false := by
  simp [undefine?, knows]

theorem undefine?_of_row? {row : Row} (h : t.row? type = some row) (actions : List String) :
    t.undefine? type actions = some (t.setRow type (removeAll actions row).1, (removeAll actions row).2) := by
  rw [undefine?, h]
  rfl

theorem knows_of_undefine? {n : Nat} (h : t.undefine? type actions = some (t', n)) : t.knows type = true := by
  cases hk : t.knows type with
  | true => rfl
  | false => simp [undefine?_eq_none.mpr hk] at h

/-- A removal takes the rules of its actions and nothing else. -/
theorem rule?_undefine? {n : Nat} (h : t.undefine? type actions = some (t', n)) (other action : String) :
    t'.rule? other action = if type = other ∧ action ∈ actions then none else t.rule? other action := by
  obtain ⟨row, hrow, hout⟩ := Option.map_eq_some_iff.mp h
  cases hout
  rw [rule?_setRow, get?_removeAll]
  by_cases ht : type = other
  · subst ht; simp [rule?, hrow]
  · simp [ht]

theorem knows_undefine? {n : Nat} (h : t.undefine? type actions = some (t', n)) (other : String) :
    t'.knows other = t.knows other := by
  have hk := knows_of_undefine? h
  obtain ⟨row, hrow, hout⟩ := Option.map_eq_some_iff.mp h
  cases hout
  rw [knows_setRow]
  by_cases ht : type = other
  · subst ht; simp [hk]
  · simp [ht]

/-! ## What holds of every rule -/

def Every (P : Rule → Prop) (t : Table) : Prop := ∀ type action rule, t.rule? type action = some rule → P rule

theorem Every.define {P : Rule → Prop} (h : t.Every P) (hrule : P rule) (type : String) (actions : List String) :
    (t.define type actions rule).Every P := by
  intro other action found hfound
  rw [rule?_define] at hfound
  split at hfound
  · cases hfound
    exact hrule
  · exact h other action found hfound

theorem Every.undefine? {P : Rule → Prop} {n : Nat} (h : t.Every P) (hu : t.undefine? type actions = some (t', n)) :
    t'.Every P := by
  intro other action found hfound
  rw [rule?_undefine? hu] at hfound
  split at hfound
  · cases hfound
  · exact h other action found hfound

end Table

end Permit
