import Mathlib.Data.Finset.Card
import Permit.Proofs.Table.Same

/-!
# Many actions at once

What becomes of a row when many actions are given a rule, or lose theirs. A definition depends only on which actions it
names. A removal takes what is there under the names, and counts each name that it found once.
-/

namespace Permit

namespace Table

variable {t u : Table} {type : String} {xs ys : List String} {row : Row}

theorem setRow_setRow (t : Table) (type : String) (row row' : Row) :
    (t.setRow type row).setRow type row' = t.setRow type row' :=
  congrArg Table.mk (Dictionary.insert_insert type row row' t.rows)

theorem rowOf_setRow (t : Table) (type : String) (row : Row) : (t.setRow type row).rowOf type = row := by
  simp [rowOf]

/-! ## Definitions -/

theorem insertAll_append (xs ys : List String) (rule : Rule) (row : Row) :
    insertAll (xs ++ ys) rule row = insertAll ys rule (insertAll xs rule row) :=
  List.foldl_append

/-- The rule that an action gets last is the one that it has. -/
theorem insertAll_of_subset (h : xs ⊆ ys) (rule rule' : Rule) (row : Row) :
    insertAll ys rule' (insertAll xs rule row) = insertAll ys rule' row := by
  refine Entries.ext fun action => ?_
  rw [get?_insertAll, get?_insertAll, get?_insertAll]
  by_cases hy : action ∈ ys
  · rw [if_pos hy, if_pos hy]
  · have hx : action ∉ xs := fun hx => hy (h hx)
    rw [if_neg hy, if_neg hy, if_neg hx]

/-- Neither the order of the actions matters nor how often each is named. -/
theorem insertAll_congr (h : ∀ action, action ∈ xs ↔ action ∈ ys) (rule : Rule) (row : Row) :
    insertAll xs rule row = insertAll ys rule row := by
  refine Entries.ext fun action => ?_
  rw [get?_insertAll, get?_insertAll]
  simp only [h]

theorem define_define (t : Table) (type : String) (xs ys : List String) (rule rule' : Rule) :
    (t.define type xs rule).define type ys rule' =
      t.setRow type (insertAll ys rule' (insertAll xs rule (t.rowOf type))) := by
  rw [define_eq, define_eq, setRow_setRow, rowOf_setRow]

theorem define_append (t : Table) (type : String) (xs ys : List String) (rule : Rule) :
    t.define type (xs ++ ys) rule = (t.define type xs rule).define type ys rule := by
  rw [define_define, define_eq, insertAll_append]

theorem define_congr (h : ∀ action, action ∈ xs ↔ action ∈ ys) (t : Table) (type : String) (rule : Rule) :
    t.define type xs rule = t.define type ys rule := by
  rw [define_eq, define_eq, insertAll_congr h]

/-- Of two definitions the second is all that counts if it names every action of the first. -/
theorem define_of_subset (h : xs ⊆ ys) (t : Table) (type : String) (rule rule' : Rule) :
    (t.define type xs rule).define type ys rule' = t.define type ys rule' := by
  rw [define_define, define_eq, insertAll_of_subset h]

/-- Action by action the row is looked up and put back, and in the end that is one change of the row. -/
theorem withActions_of_ne_nil {actions : List String} (h : actions ≠ []) (t : Table) (type : String) (rule : Rule) :
    t.withActions type actions rule = t.define type actions rule := by
  induction actions generalizing t with
  | nil => exact absurd rfl h
  | cons action rest ih =>
      by_cases hrest : rest = []
      · subst hrest
        rfl
      · calc
          t.withActions type (action :: rest) rule = (t.define type [action] rule).withActions type rest rule := rfl
          _ = (t.define type [action] rule).define type rest rule := ih hrest _
          _ = t.define type (action :: rest) rule := (define_append t type [action] rest rule).symm

/-! ## Removals -/

theorem removeAll_append (xs ys : List String) (row : Row) :
    removeAll (xs ++ ys) row =
      let first := removeAll xs row
      let second := removeAll ys first.1
      (second.1, first.2 + second.2) := by
  induction xs generalizing row with
  | nil => simp [removeAll]
  | cons a rest ih =>
      cases ha : row.get? a with
      | none => simp [removeAll, ha, ih]
      | some rule => simp [removeAll, ha, ih, Nat.add_right_comm]

/-- What is left is what stands under other names. -/
theorem removeAll_fst (actions : List String) (row : Row) :
    (removeAll actions row).1 = row.filter fun action _ => action ∉ actions := by
  refine Entries.ext fun action => ?_
  rw [get?_removeAll, Entries.get?_filter]
  by_cases ha : action ∈ actions <;> cases row.get? action <;> simp [ha, Option.filter_some]

/-- Those of the names under which something is found, each of them once. -/
def foundIn (row : Row) (actions : List String) : Finset String :=
  actions.toFinset.filter fun action => (row.get? action).isSome

theorem removeAll_snd (actions : List String) (row : Row) :
    (removeAll actions row).2 = (foundIn row actions).card := by
  induction actions generalizing row with
  | nil => rfl
  | cons a rest ih =>
      cases ha : row.get? a with
      | none =>
          have hfound : foundIn row (a :: rest) = foundIn row rest := by
            rw [foundIn, List.toFinset_cons, Finset.filter_insert, if_neg (by simp [ha])]
            rfl
          simp only [removeAll, ha, ih, hfound]
      | some rule =>
          -- The row changes on the way: what was under this name is not found again if the name comes again.
          have hfound : foundIn row (a :: rest) = Insert.insert a (foundIn (row.erase a) rest) := by
            ext b
            by_cases hb : a = b
            · subst hb
              simp [foundIn, ha]
            · simp [foundIn, Entries.get?_erase, hb, Ne.symm hb]
          have hnew : a ∉ foundIn (row.erase a) rest := by simp [foundIn, Entries.get?_erase]
          simp only [removeAll, ha, ih, hfound, Finset.card_insert_of_notMem hnew]

theorem card_foundIn_le (row : Row) (actions : List String) : (foundIn row actions).card ≤ actions.length :=
  (Finset.card_filter_le _ _).trans (List.toFinset_card_le _)

/-- The row shrinks by as many rules as are counted. -/
theorem size_removeAll (actions : List String) (row : Row) :
    (removeAll actions row).2 + (removeAll actions row).1.size = row.size := by
  induction actions generalizing row with
  | nil => simp [removeAll]
  | cons a rest ih =>
      cases ha : row.get? a with
      | none => simp only [removeAll, ha, ih]
      | some rule =>
          have hrest := ih (row.erase a)
          have herase := Entries.size_erase ha
          simp only [removeAll, ha]
          omega

/-! ## Removals from a table -/

/-- The table without the rules of these actions. -/
def without (t : Table) (type : String) (actions : List String) : Table :=
  t.setRow type ((t.rowOf type).filter fun action _ => action ∉ actions)

theorem undefine?_eq_some (h : t.knows type = true) (actions : List String) :
    t.undefine? type actions = some (t.without type actions, (foundIn (t.rowOf type) actions).card) := by
  obtain ⟨row, hrow⟩ := Option.isSome_iff_exists.mp h
  have hrowOf : t.rowOf type = row := by simp [rowOf, hrow]
  rw [undefine?_of_row? hrow, removeAll_fst, removeAll_snd, without, hrowOf]

theorem foundIn_rowOf (t : Table) (type : String) (actions : List String) :
    foundIn (t.rowOf type) actions = actions.toFinset.filter fun action => (t.rule? type action).isSome := by
  simp only [foundIn, get?_rowOf]

theorem row?_without (t : Table) (type other : String) (actions : List String) :
    (t.without type actions).row? other =
      if type = other then some ((t.rowOf type).filter fun action _ => action ∉ actions) else t.row? other :=
  row?_setRow t type other _

theorem knows_without (t : Table) (type : String) (actions : List String) : (t.without type actions).knows type = true := by
  rw [without, knows_setRow, beq_self_eq_true, Bool.true_or]

theorem rowOf_without (t : Table) (type : String) (actions : List String) :
    (t.without type actions).rowOf type = (t.rowOf type).filter fun action _ => action ∉ actions :=
  rowOf_setRow t type _

theorem without_without (t : Table) (type : String) (xs ys : List String) :
    (t.without type xs).without type ys = t.without type (xs ++ ys) := by
  rw [without, rowOf_without, Entries.filter_filter, without, setRow_setRow, without]
  simp

theorem without_congr (h : ∀ action, action ∈ xs ↔ action ∈ ys) (t : Table) (type : String) :
    t.without type xs = t.without type ys := by
  simp only [without, h]

/-- In two removals each rule is counted where it is taken. -/
theorem card_foundIn_append (t : Table) (type : String) (xs ys : List String) :
    (foundIn (t.rowOf type) (xs ++ ys)).card =
      (foundIn (t.rowOf type) xs).card + (foundIn ((t.without type xs).rowOf type) ys).card := by
  rw [rowOf_without, ← removeAll_fst, ← removeAll_snd, ← removeAll_snd, ← removeAll_snd, removeAll_append]

theorem foundIn_without (t : Table) (type : String) (actions : List String) :
    foundIn ((t.without type actions).rowOf type) actions = ∅ := by
  rw [rowOf_without, ← removeAll_fst]
  exact Finset.filter_eq_empty_iff.mpr fun a ha => by simp [get?_removeAll, List.mem_toFinset.mp ha]

theorem size_rowOf (t : Table) (type : String) (actions : List String) :
    (t.rowOf type).size = (foundIn (t.rowOf type) actions).card + ((t.without type actions).rowOf type).size := by
  rw [rowOf_without, ← removeAll_fst, ← removeAll_snd, size_removeAll]

end Table

end Permit
