import Mathlib.Data.List.Count
import Permit.Proofs.Store.Forks
import Permit.Proofs.Table.Batches

/-!
# Consistent tables

Whatever is built, cloned, defined and removed, a table has each type once and each action of a type once, and what is
read off it in one way agrees with what is read off it in another. What is read off is what the steps before say, taken
one after the other as changes of two functions: which types are known, and which rule each action has.
-/

namespace Permit

namespace Table

variable {t u : Table} {type action : String}

/-! ## What is read off a table -/

/-- No name stands twice, and the ways to read the table agree. -/
structure Consistent (t : Table) : Prop where
  types : t.rows.toList.Pairwise fun a b => a.1 ≠ b.1
  actions : ∀ entry ∈ t.rows.toList, entry.2.toList.Pairwise fun a b => a.1 ≠ b.1
  listed_once : ∀ type, t.typeNames.count type = if t.knows type then 1 else 0
  size_eq : t.size = t.typeNames.length
  isEmpty_iff : t.isEmpty = true ↔ ∀ type, t.knows type = false
  knows_iff_listed : ∀ type, t.knows type = true ↔ type ∈ t.typeNames
  listed_iff_row : ∀ type, type ∈ t.typeNames ↔ ∃ row, t.row? type = some row
  row_iff : ∀ type row, t.row? type = some row ↔ (type, row) ∈ t.rows.toList
  rule_iff : ∀ type action rule,
    t.rule? type action = some rule ↔ ∃ row, t.row? type = some row ∧ (action, rule) ∈ row.toList
  named_once : ∀ type names, t.actionNames? type = some names →
    names.Nodup ∧ ∀ action, action ∈ names ↔ ∃ rule, t.rule? type action = some rule

theorem mem_typeNames : type ∈ t.typeNames ↔ t.knows type = true := Entries.mem_keys

theorem nodup_typeNames (t : Table) : t.typeNames.Nodup := t.rows.nodup_keys

theorem isEmpty_iff : t.isEmpty = true ↔ ∀ type, t.knows type = false := by
  simp only [isEmpty_eq, List.isEmpty_iff, List.eq_nil_iff_forall_not_mem, mem_typeNames, Bool.not_eq_true]

theorem rule?_eq_some_iff {rule : Rule} :
    t.rule? type action = some rule ↔ ∃ row, t.row? type = some row ∧ (action, rule) ∈ row.toList := by
  rw [rule?, Option.bind_eq_some_iff]
  exact exists_congr fun row => and_congr_right fun _ => Entries.get?_eq_some_iff

theorem nodup_actionNames {names : List String} (h : t.actionNames? type = some names) :
    names.Nodup ∧ ∀ action, action ∈ names ↔ ∃ rule, t.rule? type action = some rule := by
  obtain ⟨row, hrow, rfl⟩ := Option.map_eq_some_iff.mp h
  refine ⟨row.nodup_keys, fun action => ?_⟩
  rw [rule?, hrow, Option.bind_some, ← Option.isSome_iff_exists]
  exact Entries.mem_keys

theorem consistent (t : Table) : t.Consistent where
  types := t.rows.pairwise_ne
  actions entry _ := entry.2.pairwise_ne
  listed_once type := by simp only [t.nodup_typeNames.count, mem_typeNames]
  size_eq := t.size_eq_length
  isEmpty_iff := isEmpty_iff
  knows_iff_listed _ := mem_typeNames.symm
  listed_iff_row _ := mem_typeNames.trans Option.isSome_iff_exists
  row_iff _ _ := Entries.get?_eq_some_iff
  rule_iff _ _ _ := rule?_eq_some_iff
  named_once _ _ := nodup_actionNames

/-! ## What changes make of it -/

/-- Which types are known, and which rule each action has, however rows are kept. -/
structure Content where
  knows : String → Bool
  rule? : String → String → Option Rule

def content (t : Table) : Content := ⟨t.knows, t.rule?⟩

namespace Content

def empty : Content := ⟨fun _ => false, fun _ _ => none⟩

instance : Inhabited Content := ⟨empty⟩

def learn (c : Content) (type : String) : Content :=
  { c with knows := fun other => type == other || c.knows other }

/-- From now on the actions of the type have this rule, or none. -/
def put (c : Content) (type : String) (names : List String) (rule? : Option Rule) : Content :=
  { c with rule? := fun other action => if type = other ∧ action ∈ names then rule? else c.rule? other action }

def give (c : Content) (type : String) (names : List String) (rule : Rule) : Content :=
  (c.learn type).put type names (some rule)

def build (c : Content) : Table.Step → Content
  | .withType type => c.learn type
  | .withRule type action rule => c.give type [action] rule
  | .withActions type actions rule => if actions.names.isEmpty then c else c.give type actions.names rule
  | .collect rows => rows.foldl (fun c row => c.give row.1 [row.2.1] row.2.2) empty

def change (c : Content) (call : Call) : Content :=
  match call.typed? with
  | some (.define type actions rule) => c.give type actions.names rule
  | some (.undefine type actions) => c.put type actions.names none
  | _ => c

theorem ext {c d : Content} (hk : ∀ type, c.knows type = d.knows type)
    (hr : ∀ type action, c.rule? type action = d.rule? type action) : c = d := by
  obtain ⟨knows, rule?⟩ := c
  obtain rfl : knows = d.knows := funext hk
  obtain rfl : rule? = d.rule? := funext fun type => funext (hr type)
  rfl

end Content

theorem content_ensure (t : Table) (type : String) : (t.ensure type).content = t.content.learn type :=
  Content.ext (fun other => knows_setRow t type other _) (fun other action => rule?_ensure t type other action)

theorem content_define (t : Table) (type : String) (actions : List String) (rule : Rule) :
    (t.define type actions rule).content = t.content.give type actions rule :=
  Content.ext (fun other => knows_define t type other actions rule)
    (fun other action => rule?_define t type other action actions rule)

theorem content_insert (t : Table) (type action : String) (rule : Rule) :
    (t.insert type action rule).content = t.content.give type [action] rule :=
  t.content_define type [action] rule

theorem content_withActions (t : Table) (type : String) (actions : List String) (rule : Rule) :
    (t.withActions type actions rule).content =
      if actions.isEmpty then t.content else t.content.give type actions rule := by
  cases actions with
  | nil => rfl
  | cons action rest =>
      rw [withActions_of_ne_nil (List.cons_ne_nil action rest), content_define]
      rfl

theorem content_step (t : Table) (step : Step) : (t.step step).content = t.content.build step := by
  cases step with
  | withType type => exact t.content_ensure type
  | withRule type action rule => exact t.content_insert type action rule
  | withActions type actions rule => exact t.content_withActions type actions.names rule
  | collect rows => exact (List.foldl_hom content fun t row => (t.content_insert row.1 row.2.1 row.2.2).symm).symm

theorem content_build (t : Table) (steps : List Step) : (t.build steps).content = steps.foldl Content.build t.content :=
  (List.foldl_hom content fun t step => (t.content_step step).symm).symm

theorem content_undefine? {actions : List String} {n : Nat} (h : t.undefine? type actions = some (u, n)) :
    u.content = t.content.put type actions none :=
  Content.ext (knows_undefine? h) (rule?_undefine? h)

/-- Where nothing is known there is nothing to take. -/
theorem put_content_of_not_knows (h : t.knows type = false) (actions : List String) :
    t.content.put type actions none = t.content := by
  refine Content.ext (fun _ => rfl) fun other action => ?_
  show (if type = other ∧ action ∈ actions then none else t.rule? other action) = t.rule? other action
  split
  · rename_i hnamed
    rw [← hnamed.1, rule?_of_not_knows h]
  · rfl

theorem content_change (t : Table) (c : Call) : (c.change t).content = t.content.change c := by
  cases htyped : c.typed? with
  | none => simp only [Call.change, Content.change, htyped]
  | some d =>
      cases d with
      | define type actions rule => simp only [Call.change, Content.change, htyped, content_define]
      | undefine type actions =>
          simp only [Call.change, Content.change, htyped]
          cases hu : t.undefine? type actions.names with
          | none => exact (put_content_of_not_knows (undefine?_eq_none.mp hu) actions.names).symm
          | some out => exact content_undefine? hu
      | evaluate | evaluateLoose | defineLoose | undefineLoose => simp only [Call.change, Content.change, htyped]

end Table

/-! ## The tables of a family -/

namespace Family

variable {f : Family}

def contents (f : Family) : List Table.Content := f.stores.map fun s => s.table.content

/-- What a step makes of what the table of its own store says. -/
def Step.content (content : Table.Content) : Step → Table.Content
  | .call _ c => content.change c
  | .copy _ source type actions =>
      content.give type actions.names ((content.rule? source.1 source.2).getD .deny)
  | .fork _ => content
  | .rebuild _ step => content.build step

/-- What a step makes of what all the tables say; a clone says what its table says then. -/
def Step.contents (all : List Table.Content) (step : Step) : List Table.Content :=
  match step with
  | .fork i => all ++ [all[i]?.getD .empty]
  | step => all.modify step.number step.content

theorem content_store (f : Family) (i : Nat) : (f.store i).table.content = f.contents[i]?.getD .empty := by
  rw [store, contents, List.getElem?_map]
  cases f.stores[i]? <;> rfl

theorem content_change (t : Table) (step : Step) : (step.change t).content = step.content t.content := by
  cases step with
  | call i c => exact t.content_change c
  | copy i source type actions => exact t.content_define type actions.names _
  | fork i => rfl
  | rebuild i step => exact t.content_step step

theorem contents_set (step : Step) {s : Store} (h : s.table = step.change (f.store step.number).table) :
    (f.set step.number s).contents = f.contents.modify step.number step.content := by
  have hset : (f.set step.number s).contents = f.contents.set step.number s.table.content := List.map_set
  rw [hset, h, content_change, content_store]
  exact (List.modify_eq_set step.content step.number f.contents).symm

theorem contents_fork (f : Family) (i : Nat) : (f.fork i).2.contents = f.contents ++ [f.contents[i]?.getD .empty] := by
  rw [← content_store]
  exact List.map_append

theorem contents_step (f : Family) (step : Step) : (f.step step).2.contents = step.contents f.contents := by
  cases step with
  | call i c => exact contents_set (.call i c) ((f.store i).table_turn f.memory c)
  | copy i source type actions => exact contents_set (.copy i source type actions) rfl
  | fork i => exact f.contents_fork i
  | rebuild i step => exact contents_set (.rebuild i step) rfl

theorem contents_runAll (f : Family) (steps : List Step) :
    (f.runAll steps).2.contents = steps.foldl Step.contents f.contents := by
  induction steps generalizing f with
  | nil => rfl
  | cons step rest ih => rw [runAll_cons, ih, contents_step, List.foldl_cons]

/-- Steps build a table, with types, rules for one action or many, and collected rows. It goes into a store, where calls
define and remove; clones of it go into stores of their own; and tables are taken out again and built on. Whatever of this
is done, in whatever order, the table of each store is consistent, and says what the steps make of an empty one. -/
theorem runAll_consistent (built : List Table.Step) (steps : List Step) (i : Nat) :
    let f := ((Family.of ⟨Table.empty.build built⟩).runAll steps).2
    (f.store i).table.Consistent ∧
    f.contents = steps.foldl Step.contents [built.foldl Table.Content.build .empty] := by
  intro f
  refine ⟨Table.consistent _, ?_⟩
  have hbuilt : (Family.of ⟨Table.empty.build built⟩).contents = [built.foldl Table.Content.build .empty] :=
    congrArg (fun content => [content]) (Table.empty.content_build built)
  rw [contents_runAll, hbuilt]

end Family

end Permit
