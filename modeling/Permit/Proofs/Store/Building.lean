import Mathlib.Data.List.Forall2
import Permit.Proofs.Store.Forks
import Permit.Proofs.Table.Batches

/-!
# Building a table and defining in a store

Each step that builds a table has its calls, which do the same to a table in a store. Only a step that gives a rule to no
actions has none: there a definition would make the type known. So a table may be built, or filled in a store, or both by
turns, and it does not matter where it is taken out of one store and put into another.
-/

namespace Permit

namespace Table

variable {t : Table} {type : String}

theorem same_ensure (h : t.knows type = true) : t.Same (t.ensure type) where
  left other := by
    rw [ensure, knows_setRow]
    by_cases ht : type = other
    · subst ht
      simp [h]
    · simp [ht]
  right other action := (rule?_ensure t type other action).symm

/-- A step and a definition with the same actions differ where there are no actions, and the type is new. -/
theorem withActions_same_define_iff (t : Table) (type : String) (actions : List String) (rule : Rule) :
    ¬ (t.withActions type actions rule).Same (t.define type actions rule) ↔ actions = [] ∧ t.knows type = false := by
  by_cases h : actions = []
  · subst h
    have hdefine : t.define type [] rule = t.ensure type := rfl
    rw [hdefine]
    cases hk : t.knows type with
    | true =>
        have hsame : (t.withActions type [] rule).Same (t.ensure type) := same_ensure hk
        simpa using hsame
    | false =>
        refine iff_of_true (fun hsame => ?_) ⟨rfl, rfl⟩
        have hknows : t.knows type = (t.ensure type).knows type := hsame.1 type
        rw [hk, ensure, knows_setRow] at hknows
        simp at hknows
  · rw [withActions_of_ne_nil h]
    exact iff_of_false (fun hne => hne (.refl _)) fun hempty => h hempty.1

/-! ## Steps and their calls -/

/-- The calls that do to the table of a store what a step does to a table that is being built. -/
inductive Step.Calls : Step → List Call → Prop where
  | withType (type rule) : Calls (.withType type) [.define type (.many []) rule]
  | withRule (type action rule) : Calls (.withRule type action rule) [.define type (.one action) rule]
  | withActions (type rule) {actions} : actions.names ≠ [] →
      Calls (.withActions type actions rule) [.define type actions rule]
  | withNone (type rule) {actions} : actions.names = [] → Calls (.withActions type actions rule) []

theorem Step.Calls.change {step : Step} {calls : List Call} (h : step.Calls calls) (t : Table) :
    calls.foldl Call.change t = t.step step := by
  cases h with
  | withType | withRule => rfl
  | withActions type rule hne => exact (withActions_of_ne_nil hne t type rule).symm
  | @withNone type rule actions hnil => simp [Table.step, Table.withActions, hnil]

theorem Step.Calls.defines {step : Step} {calls : List Call} (h : step.Calls calls) :
    ∀ c ∈ calls, ∃ type actions rule, c = .define type actions rule := by
  cases h with
  | withType | withRule | withActions => simp
  | withNone => simp

end Table

/-! ## In one store, or in several -/

namespace Store

variable {steps : List Table.Step} {parts : List (List Call)}

theorem table_runAll (s : Store) (m : Memory) (calls : List Call) :
    (s.runAll m calls).2.1.table = calls.foldl Call.change s.table := by
  induction calls generalizing s m with
  | nil => rfl
  | cons c cs ih => rw [runAll_cons, ih, table_turn, List.foldl_cons]

theorem changed_of_defines {calls : List Call} (h : ∀ c ∈ calls, ∃ type actions rule, c = .define type actions rule)
    (s : Store) (m : Memory) : ∀ done ∈ (s.runAll m calls).1, done.result = .returned (.ok .changed) := by
  induction calls generalizing s m with
  | nil => exact fun done hdone => absurd hdone List.not_mem_nil
  | cons c cs ih =>
      obtain ⟨type, actions, rule, rfl⟩ := h c List.mem_cons_self
      intro done hdone
      rw [runAll_cons] at hdone
      rcases List.mem_cons.mp hdone with rfl | hdone
      · rw [turn_define]
      · exact ih (fun c hc => h c (List.mem_cons_of_mem _ hc)) _ _ done hdone

/-- Some calls in one store and the rest in the next, which is made from the table that the first gives back. -/
def relay (t : Table) (m : Memory) : List (List Call) → Table × Memory
  | [] => (t, m)
  | calls :: rest => relay ((mk t).runAll m calls).2.1.table ((mk t).runAll m calls).2.2 rest

theorem relay_eq_runAll (t : Table) (m : Memory) (stretches : List (List Call)) :
    (relay t m stretches).1 = ((mk t).runAll m stretches.flatten).2.1.table := by
  induction stretches generalizing t m with
  | nil => rfl
  | cons calls rest ih => rw [relay, ih, List.flatten_cons, runAll_append]

theorem defines_of_parts (h : List.Forall₂ Table.Step.Calls steps parts) :
    ∀ c ∈ parts.flatten, ∃ type actions rule, c = .define type actions rule := by
  induction h with
  | nil => exact fun c hc => absurd hc List.not_mem_nil
  | cons hstep _ ih =>
      intro c hc
      rcases List.mem_append.mp hc with hc | hc
      · exact hstep.defines c hc
      · exact ih c hc

theorem foldl_change_of_parts (h : List.Forall₂ Table.Step.Calls steps parts) (t : Table) :
    parts.flatten.foldl Call.change t = t.build steps := by
  induction h generalizing t with
  | nil => rfl
  | cons hstep _ ih =>
      rw [List.flatten_cons, List.foldl_append, hstep.change, ih]
      rfl

end Store

namespace Family

/-- A step is taken with a store by its calls, or by taking the table out, building on, and making a store of it. -/
inductive Takes (i : Nat) (step : Table.Step) : List Step → Prop where
  | calls {cs} : step.Calls cs → Takes i step (cs.map (.call i))
  | rebuild : Takes i step [.rebuild i step]

theorem changedBy_append (before after : List Step) (i : Nat) (t : Table) :
    changedBy (before ++ after) i t = changedBy after i (changedBy before i t) := by
  rw [changedBy, List.filter_append, List.foldl_append]
  rfl

theorem changedBy_calls (i : Nat) (cs : List Call) (t : Table) :
    changedBy (cs.map (.call i)) i t = cs.foldl Call.change t := by
  induction cs generalizing t with
  | nil => rfl
  | cons c cs ih =>
      rw [List.map_cons, changedBy_cons, Step.number, if_pos rfl, ih]
      rfl

theorem Takes.changedBy {i : Nat} {step : Table.Step} {ways : List Step} (h : Takes i step ways) (t : Table) :
    changedBy ways i t = t.step step := by
  cases h with
  | calls hcalls => rw [changedBy_calls, hcalls.change]
  | rebuild =>
      rw [changedBy_cons, Step.number, if_pos rfl]
      rfl

theorem changedBy_of_takes {i : Nat} {steps : List Table.Step} {ways : List (List Step)}
    (h : List.Forall₂ (Takes i) steps ways) (t : Table) : changedBy ways.flatten i t = t.build steps := by
  induction h generalizing t with
  | nil => rfl
  | cons hstep _ ih =>
      rw [List.flatten_cons, changedBy_append, hstep.changedBy, ih]
      rfl

end Family

namespace Store

/-- A table that is built by steps is the table of a store in which the calls of these steps are made, and all of them
are accepted. It stays so if the calls are made in several stores, one after the other, and if some steps are taken by
building on the table between the calls. Only where no action is given a rule do a step and a definition differ, and only
if the type is new. -/
theorem runAll_builds {steps : List Table.Step} {parts : List (List Call)}
    (h : List.Forall₂ Table.Step.Calls steps parts) (t : Table) (m : Memory) :
    let run := (mk t).runAll m parts.flatten
    run.2.1.table = t.build steps ∧
    (∀ done ∈ run.1, done.result = .returned (.ok .changed)) ∧
    (∀ stretches, stretches.flatten = parts.flatten → (relay t m stretches).1 = t.build steps) ∧
    (∀ (f : Family) i ways, i < f.stores.length → (f.store i).table = t → List.Forall₂ (Family.Takes i) steps ways →
      ((f.runAll ways.flatten).2.store i).table = t.build steps) ∧
    ∀ type actions rule,
      ¬ (t.step (.withActions type actions rule)).Same ((mk t).turn m (.define type actions rule)).2.1.table ↔
        actions.names = [] ∧ t.knows type = false := by
  intro run
  have hbuild : run.2.1.table = t.build steps := (table_runAll _ m _).trans (foldl_change_of_parts h t)
  refine ⟨hbuild, ?_, ?_, ?_, ?_⟩
  · exact changed_of_defines (defines_of_parts h) _ m
  · intro stretches hsame
    rw [relay_eq_runAll, hsame]
    exact hbuild
  · intro f i ways hi ht hways
    rw [Family.table_runAll hi, ht, Family.changedBy_of_takes hways]
  · exact fun type actions rule => Table.withActions_same_define_iff t type actions.names rule

/-- One step has no action and so no call; the calls of the others are split between two stores, or two of the steps are
taken by building. -/
theorem runAll_builds_post :
    let t : Table := Table.empty.insert "post" "see" .allow
    let steps : List Table.Step :=
      [.withType "draft", .withActions "user" (.many []) .allow, .withRule "post" "edit" .deny,
        .withActions "post" (.many ["edit", "see", "edit"]) .deny]
    let draft : Call := .define "draft" (.many []) .allow
    let edit : Call := .define "post" (.one "edit") .deny
    let both : Call := .define "post" (.many ["edit", "see", "edit"]) .deny
    let turns : List Family.Step :=
      [.call 0 draft, .rebuild 0 (.withActions "user" (.many []) .allow), .rebuild 0 (.withRule "post" "edit" .deny),
        .call 0 both]
    List.Forall₂ Table.Step.Calls steps [[draft], [], [edit], [both]] ∧
    ((mk t).runAll Memory.fresh [draft, edit, both]).2.1.table = t.build steps ∧
    (relay t Memory.fresh [[draft], [], [edit, both]]).1 = t.build steps ∧
    (((Family.of ⟨t⟩).runAll turns).2.store 0).table = t.build steps ∧
    ¬ (t.step (.withActions "user" (.many []) .allow)).Same
      ((mk t).turn Memory.fresh (.define "user" (.many []) .allow)).2.1.table := by
  intro t steps draft edit both turns
  have hcalls : List.Forall₂ Table.Step.Calls steps [[draft], [], [edit], [both]] :=
    .cons (.withType _ _) (.cons (.withNone _ _ rfl) (.cons (.withRule _ _ _) (.cons (.withActions _ _ (by decide)) .nil)))
  obtain ⟨hrun, -, hrelay, hturns, hdiffer⟩ := runAll_builds hcalls t Memory.fresh
  have hways : List.Forall₂ (Family.Takes 0) steps
      [[.call 0 draft], [.rebuild 0 (.withActions "user" (.many []) .allow)],
        [.rebuild 0 (.withRule "post" "edit" .deny)], [.call 0 both]] :=
    .cons (.calls (.withType _ _)) (.cons .rebuild (.cons .rebuild (.cons (.calls (.withActions _ _ (by decide))) .nil)))
  exact ⟨hcalls, hrun, hrelay _ rfl, hturns (.of ⟨t⟩) 0 _ (by decide) rfl hways, (hdiffer "user" (.many []) .allow).mpr
    ⟨rfl, by decide⟩⟩

end Store

end Permit
