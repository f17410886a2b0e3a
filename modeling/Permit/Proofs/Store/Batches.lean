import Permit.Proofs.Store.Building

/-!
# Batches

What a definition of many actions does to a store, and what a removal of many actions does and counts. A definition is
the same as definitions of its parts, or of its actions one by one. A removal of many takes and counts what the removals
of its parts take and count.
-/

namespace Permit

namespace Store

variable {s : Store} {type : String}

/-! ## Definitions -/

theorem table_define_singly (s : Store) (m : Memory) (type : String) (actions : List String) (rule : Rule) :
    (s.runAll m (actions.map fun action => .define type (.one action) rule)).2.1.table =
      s.table.withActions type actions rule := by
  rw [table_runAll, List.foldl_map]
  rfl

/-- A definition is that of its parts, one after the other. Only the set of its actions matters, and for some actions it
is the definition of one after the other. A second definition that leaves none of them out is all that counts, so to
repeat one changes nothing. All other actions, and all other types, are as they were. -/
theorem runAll_batches (s : Store) (m : Memory) (type : String) (rule rule' : Rule) :
    let after := fun calls => (s.runAll m calls).2.1.table
    (∀ xs ys : Actions,
      after [.define type (.many (xs.names ++ ys.names)) rule] = after [.define type xs rule, .define type ys rule]) ∧
    (∀ xs ys : Actions, (∀ action, action ∈ xs.names ↔ action ∈ ys.names) →
      after [.define type xs rule] = after [.define type ys rule]) ∧
    (∀ (xs : Actions) (ys : List String), xs.names ≠ [] → (∀ action, action ∈ xs.names ↔ action ∈ ys) →
      after (ys.map fun action => .define type (.one action) rule) = after [.define type xs rule]) ∧
    (∀ xs : Actions, after [.define type xs rule, .define type xs rule] = after [.define type xs rule]) ∧
    (∀ xs ys : Actions, xs.names ⊆ ys.names →
      after [.define type xs rule, .define type ys rule'] = after [.define type ys rule']) ∧
    ∀ (xs : Actions) (other : String),
      (after [.define type xs rule]).knows other = (type == other || s.knows other) ∧
      ∀ action, (after [.define type xs rule]).rule? other action =
        if type = other ∧ action ∈ xs.names then some rule else s.rule? other action := by
  intro after
  refine ⟨fun xs ys => ?parts, fun xs ys h => ?same, fun xs ys hne h => ?singly, fun xs => ?again, fun xs ys h => ?overruled,
    fun xs other => ⟨?known, fun action => ?rules⟩⟩
  case parts => exact Table.define_append s.table type xs.names ys.names rule
  case same => exact Table.define_congr h s.table type rule
  case singly =>
    have hys : ys ≠ [] := by
      obtain ⟨action, haction⟩ := List.exists_mem_of_ne_nil _ hne
      exact List.ne_nil_of_mem ((h action).mp haction)
    calc
      after (ys.map fun action => .define type (.one action) rule)
      _ = s.table.withActions type ys rule := table_define_singly s m type ys rule
      _ = s.table.define type ys rule := Table.withActions_of_ne_nil hys s.table type rule
      _ = s.table.define type xs.names rule := (Table.define_congr h s.table type rule).symm
  case again => exact Table.define_of_subset (List.Subset.refl _) s.table type rule rule
  case overruled => exact Table.define_of_subset h s.table type rule rule'
  case known => exact Table.knows_define s.table type other xs.names rule
  case rules => exact Table.rule?_define s.table type other action xs.names rule

/-- An action is named twice, the same actions are defined in another order, and a shorter list is overruled. -/
theorem runAll_batches_post :
    let s : Store := ⟨Table.empty.insert "post" "see" .allow⟩
    let after := fun calls => (s.runAll Memory.fresh calls).2.1.table
    after [.define "post" (.many ["edit", "see", "edit"]) .deny] = after [.define "post" (.many ["see", "edit"]) .deny] ∧
    after [.define "post" (.one "see") .deny, .define "post" (.one "edit") .deny] =
      after [.define "post" (.many ["edit", "see", "edit"]) .deny] ∧
    after [.define "post" (.one "edit") .deny, .define "post" (.many ["see", "edit"]) .allow] =
      after [.define "post" (.many ["see", "edit"]) .allow] := by
  intro s after
  obtain ⟨-, hsame, hsingly, -, hover, -⟩ := runAll_batches s Memory.fresh "post" .deny .allow
  have hnames : ∀ action, action ∈ ["edit", "see", "edit"] ↔ action ∈ ["see", "edit"] := by
    intro action
    simp only [List.mem_cons, List.not_mem_nil, or_false]
    tauto
  exact ⟨hsame (.many ["edit", "see", "edit"]) (.many ["see", "edit"]) hnames,
    hsingly (.many ["edit", "see", "edit"]) ["see", "edit"] (by decide) hnames,
    hover (.one "edit") (.many ["see", "edit"]) (by decide)⟩

/-! ## Removals -/

theorem turn_undefine_of_knows (h : s.knows type = true) (m : Memory) (actions : Actions) :
    s.turn m (.undefine type actions) =
      (⟨.returned (.ok .changed),
          [.emitted (.undefined type (Table.foundIn (s.table.rowOf type) actions.names).card actions.size)]⟩,
        ⟨s.table.without type actions.names⟩, m) :=
  turn_undefine_of_some (Table.undefine?_eq_some h actions.names) m

/-- A removal takes the rules of exactly the actions that it names, of this type, which stays known, and counts each that
it takes once. To repeat it takes nothing, and in two removals as much goes as in one of both lists. Nothing is removed
from a type that is not known. -/
theorem turn_undefine_exact (s : Store) (m : Memory) (type : String) (xs : Actions) :
    let after := s.turn m (.undefine type xs)
    let removed := (xs.names.toFinset.filter fun action => (s.rule? type action).isSome).card
    (s.knows type = false →
      after = (⟨.returned (.error (.unknownType type)), [.emitted (.undefinedUnknown type)]⟩, s, m) ∧
      (Event.undefinedUnknown type).level = .warn) ∧
    (s.knows type = true →
      after.1 = ⟨.returned (.ok .changed), [.emitted (.undefined type removed xs.names.length)]⟩ ∧
      removed ≤ xs.names.length ∧
      after.2.1.table.row? type = some ((s.table.rowOf type).filter fun action _ => action ∉ xs.names) ∧
      (∀ other, other ≠ type → after.2.1.table.row? other = s.table.row? other) ∧
      after.2.1.knows type = true ∧
      (s.table.rowOf type).size = removed + (after.2.1.table.rowOf type).size ∧
      after.2.1.turn m (.undefine type xs) =
        (⟨.returned (.ok .changed), [.emitted (.undefined type 0 xs.names.length)]⟩, after.2) ∧
      ∀ ys : Actions, ∃ later,
        let both := after.2.1.turn m (.undefine type ys)
        both.1 = ⟨.returned (.ok .changed), [.emitted (.undefined type later ys.names.length)]⟩ ∧
        s.turn m (.undefine type (.many (xs.names ++ ys.names))) =
          (⟨.returned (.ok .changed),
            [.emitted (.undefined type (removed + later) (xs.names.length + ys.names.length))]⟩, both.2)) := by
  intro after removed
  have hremoved : removed = (Table.foundIn (s.table.rowOf type) xs.names).card :=
    congrArg Finset.card (s.table.foundIn_rowOf type xs.names).symm
  refine ⟨fun hk => ⟨turn_undefine_of_not_knows hk m xs, rfl⟩, fun hk => ?_⟩
  have hafter : after = (⟨.returned (.ok .changed), [.emitted (.undefined type removed xs.names.length)]⟩,
      ⟨s.table.without type xs.names⟩, m) := by
    rw [hremoved]
    exact turn_undefine_of_knows hk m xs
  have hknows : (Store.mk (s.table.without type xs.names)).knows type = true := s.table.knows_without type xs.names
  rw [hafter]
  refine ⟨rfl, ?fewer, ?row, fun other hne => ?others, hknows, ?size, ?again, fun ys => ?both⟩
  case fewer =>
    rw [hremoved]
    exact Table.card_foundIn_le _ xs.names
  case row => exact (s.table.row?_without type type xs.names).trans (if_pos rfl)
  case others => exact (s.table.row?_without type other xs.names).trans (if_neg (Ne.symm hne))
  case size =>
    rw [hremoved]
    exact s.table.size_rowOf type xs.names
  case again =>
    have hsame : s.table.without type (xs.names ++ xs.names) = s.table.without type xs.names :=
      Table.without_congr (fun action => by simp) s.table type
    rw [turn_undefine_of_knows hknows, Table.foundIn_without, Table.without_without, hsame]
    rfl
  case both =>
    refine ⟨(Table.foundIn ((s.table.without type xs.names).rowOf type) ys.names).card, ?_, ?_⟩
    · rw [turn_undefine_of_knows hknows]
      rfl
    · rw [turn_undefine_of_knows hk, turn_undefine_of_knows hknows, Table.without_without, hremoved,
        ← s.table.card_foundIn_append type xs.names ys.names, ← List.length_append]
      rfl

/-- One action is named twice and one was never defined. -/
theorem turn_undefine_exact_post :
    let s : Store := ⟨Table.empty.build [.withActions "post" (.many ["edit", "see", "share"]) .allow]⟩
    let xs : Actions := .many ["edit", "print", "edit", "see"]
    let after := s.turn Memory.fresh (.undefine "post" xs)
    s.knows "user" = false ∧ s.knows "post" = true ∧
    after.1 = ⟨.returned (.ok .changed), [.emitted (.undefined "post" 2 4)]⟩ ∧
    after.2.1.table.row? "post" = some (.single "share" .allow) ∧
    after.2.1.turn Memory.fresh (.undefine "post" xs) =
      (⟨.returned (.ok .changed), [.emitted (.undefined "post" 0 4)]⟩, after.2) ∧
    (s.table.rowOf "post").size = 2 + (after.2.1.table.rowOf "post").size ∧
    (s.turn Memory.fresh (.undefine "user" xs)).2.1 = s := by
  intro s xs after
  obtain ⟨-, hknown⟩ := turn_undefine_exact s Memory.fresh "post" xs
  obtain ⟨hdone, -, hrow, -, -, hsize, hagain, -⟩ := hknown rfl
  obtain ⟨hunknown, -⟩ := turn_undefine_exact s Memory.fresh "user" xs
  exact ⟨rfl, rfl, hdone, hrow, hagain, hsize, congrArg (fun x => x.2.1) (hunknown rfl).1⟩

end Store

end Permit
