import Mathlib.Data.List.Sort
import Permit.Proofs.Table.Same

/-!
# Collecting rows

A collected table is given by the last row for each type and action. So the rows may come in any order that keeps those
for one type and action in theirs, and a row counts for nothing once a later one has its type and action.
-/

namespace Permit

namespace Table

variable {xs ys : List (String × String × Rule)} {type action : String}

/-- What a row gives a rule to. -/
def key (row : String × String × Rule) : String × String := (row.1, row.2.1)

/-- The rows for one type and action, in their order. -/
def rowsFor (rows : List (String × String × Rule)) (type action : String) : List (String × String × Rule) :=
  rows.filter fun row => key row = (type, action)

/-- The rule of the last row for a type and an action. -/
def lastRule? (rows : List (String × String × Rule)) (type action : String) : Option Rule :=
  (rowsFor rows type action).getLast?.map fun row => row.2.2

theorem lastRule?_append (xs ys : List (String × String × Rule)) (type action : String) :
    lastRule? (xs ++ ys) type action = (lastRule? ys type action).or (lastRule? xs type action) := by
  simp [lastRule?, rowsFor, List.getLast?_append, Option.map_or]

theorem lastRule?_singleton (row : String × String × Rule) (type action : String) :
    lastRule? [row] type action = if key row = (type, action) then some row.2.2 else none := by
  by_cases h : key row = (type, action) <;> simp [lastRule?, rowsFor, h]

theorem lastRule?_cons (row : String × String × Rule) (rows : List (String × String × Rule)) (type action : String) :
    lastRule? (row :: rows) type action =
      (lastRule? rows type action).or (if key row = (type, action) then some row.2.2 else none) := by
  rw [← List.singleton_append, lastRule?_append, lastRule?_singleton]

theorem isSome_lastRule? : (lastRule? xs type action).isSome = true ↔ ∃ row ∈ xs, key row = (type, action) := by
  simp [lastRule?, rowsFor]

/-! ## What rows make of a table -/

/-- Gives the rules of the rows, one after the other. -/
def insertRows (t : Table) (rows : List (String × String × Rule)) : Table :=
  rows.foldl (fun t row => t.insert row.1 row.2.1 row.2.2) t

theorem insertRows_eq_build (t : Table) (rows : List (String × String × Rule)) :
    t.insertRows rows = t.build (rows.map fun row => .withRule row.1 row.2.1 row.2.2) := by
  rw [build, List.foldl_map]
  rfl

theorem collect_append (xs ys : List (String × String × Rule)) : collect (xs ++ ys) = (collect xs).insertRows ys :=
  List.foldl_append

theorem rule?_insertRows (t : Table) (rows : List (String × String × Rule)) (type action : String) :
    (t.insertRows rows).rule? type action = (lastRule? rows type action).or (t.rule? type action) := by
  induction rows generalizing t with
  | nil => rfl
  | cons row rest ih =>
      show ((t.insert row.1 row.2.1 row.2.2).insertRows rest).rule? type action = _
      rw [ih, rule?_insert, lastRule?_cons, Option.or_assoc]
      by_cases h : key row = (type, action)
      · have hfields : row.1 = type ∧ row.2.1 = action := Prod.mk.inj h
        simp [h, hfields]
      · have hfields : ¬ (row.1 = type ∧ row.2.1 = action) := fun ⟨ht, ha⟩ => h (Prod.ext ht ha)
        simp [h, hfields]

theorem knows_insertRows (t : Table) (rows : List (String × String × Rule)) (type : String) :
    (t.insertRows rows).knows type = true ↔ (∃ row ∈ rows, row.1 = type) ∨ t.knows type = true := by
  induction rows generalizing t with
  | nil => simp [insertRows]
  | cons row rest ih =>
      show ((t.insert row.1 row.2.1 row.2.2).insertRows rest).knows type = true ↔ _
      rw [ih, insert, knows_setRow]
      simp [or_left_comm, or_assoc]

theorem rule?_collect (rows : List (String × String × Rule)) (type action : String) :
    (collect rows).rule? type action = lastRule? rows type action :=
  (rule?_insertRows empty rows type action).trans Option.or_none

theorem knows_collect (rows : List (String × String × Rule)) (type : String) :
    (collect rows).knows type = true ↔ ∃ row ∈ rows, row.1 = type :=
  (knows_insertRows empty rows type).trans (or_iff_left Bool.false_ne_true)

/-- A collected table knows no type without a rule. -/
theorem knows_collect_iff_rule (rows : List (String × String × Rule)) (type : String) :
    (collect rows).knows type = true ↔ ∃ action, (lastRule? rows type action).isSome = true := by
  rw [knows_collect]
  simp [isSome_lastRule?, key]

/-- The last rules are all there is to a collected table. -/
theorem collect_congr (h : ∀ type action, lastRule? xs type action = lastRule? ys type action) :
    collect xs = collect ys := by
  have hsame : (collect xs).Same (collect ys) := by
    refine ⟨fun type => Bool.eq_iff_iff.mpr ?_, fun type action => ?_⟩
    · simp only [knows_collect_iff_rule, h]
    · rw [rule?_collect, rule?_collect, h]
  exact hsame.eq

/-! ## Rows in another order -/

/-- The same rows, each at a place of its own, with those for one type and action in the same order. -/
def Rearranged (xs ys : List (String × String × Rule)) : Prop :=
  ∃ place : Fin xs.length ≃ Fin ys.length,
    (∀ i, ys[place i] = xs[i]) ∧ ∀ i j, i < j → key xs[i] = key xs[j] → place i < place j

/-- The places of the rows for one type and action. -/
def placesFor (rows : List (String × String × Rule)) (type action : String) : List (Fin rows.length) :=
  (List.finRange rows.length).filter fun i => key rows[i] = (type, action)

theorem mem_placesFor {i : Fin xs.length} : i ∈ placesFor xs type action ↔ key xs[i] = (type, action) := by
  simp [placesFor]

theorem pairwise_placesFor (rows : List (String × String × Rule)) (type action : String) :
    (placesFor rows type action).Pairwise (· < ·) :=
  (List.sortedLT_finRange rows.length).pairwise.filter _

theorem rowsFor_eq_map (rows : List (String × String × Rule)) (type action : String) :
    rowsFor rows type action = (placesFor rows type action).map fun i => rows[i] := by
  conv_lhs => rw [← List.map_getElem_finRange rows]
  rw [rowsFor, List.filter_map]
  rfl

theorem Rearranged.rowsFor_eq (h : Rearranged xs ys) (type action : String) :
    rowsFor ys type action = rowsFor xs type action := by
  obtain ⟨place, hrows, horder⟩ := h
  -- Both are lists of places in ascending order, so it is enough that they have the same places.
  have hplaces : (placesFor xs type action).map place = placesFor ys type action := by
    apply List.Pairwise.eq_of_mem_iff (r := (· < ·))
    case h₁ =>
      refine List.pairwise_map.mpr ((pairwise_placesFor xs type action).imp_of_mem fun {i j} hi hj hij => ?_)
      exact horder i j hij ((mem_placesFor.mp hi).trans (mem_placesFor.mp hj).symm)
    case h₂ => exact pairwise_placesFor ys type action
    case h =>
      intro j
      obtain ⟨i, rfl⟩ := place.surjective j
      rw [List.mem_map_of_injective place.injective, mem_placesFor, mem_placesFor, hrows]
  rw [rowsFor_eq_map, rowsFor_eq_map, ← hplaces, List.map_map]
  exact List.map_congr_left fun i _ => hrows i

/-! ## Rows that are shadowed -/

/-- A row before another with its type and action is nobody's last. -/
theorem lastRule?_of_shadowed {row : String × String × Rule} (h : ∃ later ∈ ys, key later = key row)
    (type action : String) :
    lastRule? (xs ++ row :: ys) type action = lastRule? (xs ++ ys) type action := by
  rw [lastRule?_append, lastRule?_append, lastRule?_cons]
  by_cases hkey : key row = (type, action)
  · have hlast : (lastRule? ys type action).isSome = true := isSome_lastRule?.mpr (hkey ▸ h)
    obtain ⟨rule, hrule⟩ := Option.isSome_iff_exists.mp hlast
    simp [hrule]
  · simp [hkey]

/-! ## The last row counts -/

/-- A collected table knows the types that its rows name, and gives each action of a type the rule of the last row for
them. So it is the same table if the rows stand in another order, with those for one type and action in theirs. More rows
do to it what giving their rules one by one does, and a row that a later one shadows may as well be left out. -/
theorem collect_keeps_last (rows : List (String × String × Rule)) :
    (∀ type, (collect rows).knows type = true ↔ ∃ row ∈ rows, row.1 = type) ∧
    (∀ type action, (collect rows).rule? type action = lastRule? rows type action) ∧
    (∀ ys, Rearranged rows ys → collect ys = collect rows) ∧
    (∀ ys, collect (rows ++ ys) = (collect rows).build (ys.map fun row => .withRule row.1 row.2.1 row.2.2)) ∧
    ∀ before row after, rows = before ++ row :: after → (∃ later ∈ after, key later = key row) →
      collect (before ++ after) = collect rows := by
  refine ⟨knows_collect rows, rule?_collect rows, ?rearranged, ?more, ?shadowed⟩
  case rearranged =>
    intro ys h
    apply collect_congr
    intro type action
    rw [lastRule?, lastRule?, h.rowsFor_eq]
  case more =>
    intro ys
    rw [collect_append, insertRows_eq_build]
  case shadowed =>
    rintro before row after rfl h
    apply collect_congr
    intro type action
    exact (lastRule?_of_shadowed h type action).symm

/-- Two rows are for one type and action. They change places with other rows, but not with each other, and the first of
them is left out. -/
theorem collect_keeps_last_post :
    let rows : List (String × String × Rule) :=
      [("post", "see", .deny), ("user", "see", .allow), ("post", "edit", .deny), ("post", "see", .allow)]
    let others : List (String × String × Rule) :=
      [("user", "see", .allow), ("post", "see", .deny), ("post", "see", .allow), ("post", "edit", .deny)]
    Rearranged rows others ∧ collect others = collect rows ∧ collect rows.tail = collect rows ∧
    (collect rows).rule? "post" "see" = some .allow ∧
    collect (rows ++ others) = (collect rows).build (others.map fun row => .withRule row.1 row.2.1 row.2.2) := by
  intro rows others
  have hrearranged : Rearranged rows others :=
    ⟨(Equiv.swap (0 : Fin 4) 1).trans (Equiv.swap 2 3),
      fun (i : Fin 4) => match i with | 0 | 1 | 2 | 3 => rfl, by decide⟩
  obtain ⟨-, hrule, hsame, hmore, hshadowed⟩ := collect_keeps_last rows
  exact ⟨hrearranged, hsame others hrearranged, hshadowed [] _ _ rfl ⟨("post", "see", .allow), by simp, rfl⟩,
    hrule "post" "see", hmore others⟩

end Table

end Permit
