import Permit.Proofs.Check.Numbers
import Permit.Proofs.Store.History
import Permit.Proofs.Store.Telling
import Permit.Store.Family

/-!
# Forked tables, shared predicates

Stores made from clones of a table have tables of their own: each is what the changes of its own store make of the table
that it started from. The predicates in the clones stay shared: wherever a copy of a predicate is asked, it finds the
number that was left last through any copy in any store, and no definition, removal, copy or clone touches that number.
-/

namespace Permit

/-! ## What one store's calls do to its table -/

/-- What a call makes of the table of its store. -/
def Call.change (t : Table) (c : Call) : Table :=
  match c.typed? with
  | some (.define type actions rule) => t.define type actions.names rule
  | some (.undefine type actions) => ((t.undefine? type actions.names).map Prod.fst).getD t
  | _ => t

/-- What a call on a store does with the numbers of predicates: only checks use them. -/
def Store.uses (s : Store) (m : Memory) (c : Call) : List Use :=
  match c.inquiry? m with
  | some q => s.table.uses (s.table.depth + 1) q
  | none => []

namespace Store

variable {m m₀ : Memory} {past : List Use} {c : Call}

theorem table_turn (s : Store) (m : Memory) (c : Call) : (s.turn m c).2.1.table = c.change s.table := by
  have hturned := s.turned m c
  generalize s.turn m c = x at hturned ⊢
  cases hturned with
  | refused htyped | evaluated htyped | defined htyped => simp only [Call.change, htyped]
  | @unknown type actions htyped hk =>
      have hnone : s.table.undefine? type actions.names = none := Table.undefine?_eq_none.mpr hk
      simp [Call.change, htyped, hnone]
  | undefined htyped hu => simp [Call.change, htyped, hu]

theorem logged_turn (hm : m = m₀.leftBy past) (s : Store) (c : Call) :
    Logged m₀ past (s.turn m c).2.2 (s.turn m c).1.trace (s.uses m c) := by
  have hturned := s.turned m c
  generalize s.turn m c = x at hturned ⊢
  cases hturned with
  | @evaluated viewer action subject run htyped hrun =>
      simp only [uses, Call.inquiry?, htyped, ← hrun]
      exact s.table.logged_evaluate m₀ (s.table.depth + 1) ⟨viewer, action, subject, m⟩ past hm
  | refused htyped | defined htyped | unknown htyped | undefined htyped =>
      simp only [uses, Call.inquiry?, htyped]
      exact .nil hm rfl

end Store

theorem Call.rule?_change (t : Table) (c : Call) (type action : String) :
    (c.change t).rule? type action = (c.says? type action).getD (t.rule? type action) := by
  have hturn := Store.rule?_turn ⟨t⟩ Memory.fresh c type action
  rwa [Store.rule?, Store.table_turn] at hturn

namespace Family

/-! ## One step -/

/-- The store that a step is taken with. -/
def Step.number : Step → Nat
  | .call i _ | .copy i _ _ _ | .fork i | .rebuild i _ => i

/-- What a step makes of the table of its own store, said by this table alone. -/
def Step.change (t : Table) : Step → Table
  | .call _ c => c.change t
  | .copy _ source type actions => t.define type actions.names ((t.rule? source.1 source.2).getD .deny)
  | .fork _ => t
  | .rebuild _ step => t.step step

/-- What a step does with the numbers of predicates. -/
def usesOf (f : Family) : Step → List Use
  | .call i c => (f.store i).uses f.memory c
  | .copy .. | .fork _ | .rebuild .. => []

/-- The step puts this at the actions of a type in a store: a rule, or no rule. -/
inductive Puts (f : Family) : Step → Nat → String → List String → Option Rule → Prop where
  | define {i c type actions rule} : c.typed? = some (.define type actions rule) →
      Puts f (.call i c) i type actions.names (some rule)
  | undefine {i c type actions} : c.typed? = some (.undefine type actions) →
      Puts f (.call i c) i type actions.names none
  | copy {i source type actions rule} : (f.store i).rule? source.1 source.2 = some rule →
      Puts f (.copy i source type actions) i type actions.names (some rule)
  | withRule {i type action rule} : Puts f (.rebuild i (.withRule type action rule)) i type [action] (some rule)
  | withActions {i type actions rule} :
      Puts f (.rebuild i (.withActions type actions rule)) i type actions.names (some rule)

variable {f : Family} {i j : Nat} {step : Step} {type : String} {names : List String} {rule? : Option Rule}

theorem store_set (hj : j < f.stores.length) (i : Nat) (s : Store) :
    (f.set i s).store j = if i = j then s else f.store j := by
  by_cases h : i = j
  · subst h
    simp [store, set, hj]
  · simp [store, set, h]

theorem store_fork (hj : j < f.stores.length) (i : Nat) : (f.fork i).2.store j = f.store j := by
  simp [store, fork, List.getElem?_append_left hj]

theorem store_fork_new (f : Family) (i : Nat) : (f.fork i).2.store f.stores.length = f.store i := by
  simp [store, fork]

/-- A step that adds no store gives its own store another table. -/
theorem step_cases (f : Family) (step : Step) :
    (∃ i, step = .fork i) ∨
    ∃ s m, (f.step step).2 = { f.set step.number s with memory := m } ∧
      s.table = step.change (f.store step.number).table := by
  cases step with
  | call i c => exact .inr ⟨_, _, rfl, (f.store i).table_turn f.memory c⟩
  | copy | rebuild => exact .inr ⟨_, _, rfl, rfl⟩
  | fork i => exact .inl ⟨i, rfl⟩

theorem length_step (f : Family) (step : Step) : f.stores.length ≤ (f.step step).2.stores.length := by
  rcases f.step_cases step with ⟨i, rfl⟩ | ⟨s, m, hstep, -⟩
  · simp [Family.step, fork]
  · rw [hstep]
    exact Nat.le_of_eq List.length_set.symm

/-- A step changes the table of its own store and no other. -/
theorem table_step (hj : j < f.stores.length) (step : Step) :
    ((f.step step).2.store j).table =
      if step.number = j then step.change (f.store j).table else (f.store j).table := by
  rcases f.step_cases step with ⟨i, rfl⟩ | ⟨s, m, hstep, htable⟩
  · rw [Family.step, store_fork hj, Step.change, ite_self]
  · have hstore : (f.step step).2.store j = if step.number = j then s else f.store j := by
      rw [hstep]
      exact store_set hj step.number s
    by_cases h : step.number = j
    · rw [hstore, if_pos h, if_pos h, htable, h]
    · rw [hstore, if_neg h, if_neg h]

/-- What is put at some actions stands there, and the rules for all others stay. -/
theorem Puts.rule?_change (h : Puts f step i type names rule?) :
    step.number = i ∧ ∀ other action, (step.change (f.store i).table).rule? other action =
      if type = other ∧ action ∈ names then rule? else (f.store i).rule? other action := by
  cases h with
  | define htyped | undefine htyped =>
      refine ⟨rfl, fun other action => ?_⟩
      simp only [Step.change, Call.rule?_change, Call.says?, htyped]
      split <;> rfl
  | @copy _ source _ actions rule hrule =>
      refine ⟨rfl, fun other action => ?_⟩
      rw [Store.rule?] at hrule
      simp only [Step.change, hrule, Table.rule?_define, Option.getD_some]
      rfl
  | @withRule _ _ a rule =>
      refine ⟨rfl, fun other action => ?_⟩
      simp only [Step.change, Table.step, Table.rule?_insert, List.mem_singleton, eq_comm (a := a)]
      rfl
  | @withActions _ _ actions rule =>
      exact ⟨rfl, fun other action => Table.rule?_withActions _ type other action actions.names rule⟩

theorem Puts.rule?_step (h : Puts f step i type names rule?) (hj : j < f.stores.length) (other action : String) :
    ((f.step step).2.store j).rule? other action =
      if i = j ∧ type = other ∧ action ∈ names then rule? else (f.store j).rule? other action := by
  obtain ⟨hnumber, hrule⟩ := h.rule?_change
  rw [Store.rule?, table_step hj, hnumber]
  by_cases hij : i = j
  · subst hij
    simp only [reduceIte, true_and]
    exact hrule other action
  · simp only [hij, reduceIte, false_and]
    rfl

theorem logged_step {m₀ : Memory} {past : List Use} (hf : f.memory = m₀.leftBy past) (step : Step) :
    Logged m₀ past (f.step step).2.memory (f.step step).1.trace (f.usesOf step) := by
  cases step with
  | call i c => exact (f.store i).logged_turn hf c
  | copy | fork | rebuild => exact .nil hf rfl

/-- No definition, removal or copy touches a number. -/
theorem Puts.memory_step (h : Puts f step i type names rule?) : (f.step step).2.memory = f.memory := by
  have huses : f.usesOf step = [] := by
    cases h with
    | define htyped | undefine htyped => simp [usesOf, Store.uses, Call.inquiry?, htyped]
    | copy | withRule | withActions => rfl
  have hlog : Logged f.memory [] _ _ _ := logged_step rfl step
  rw [hlog.memory, huses]
  rfl

/-! ## A whole run -/

/-- What the steps of a run make of a table, those that are taken with the store that has a number. -/
def changedBy (steps : List Step) (i : Nat) (t : Table) : Table :=
  (steps.filter fun step => step.number == i).foldl Step.change t

/-- What a run does with the numbers of predicates, use by use, in all stores. -/
def uses (f : Family) : List Step → List Use
  | [] => []
  | step :: steps => f.usesOf step ++ (f.step step).2.uses steps

theorem runAll_cons (f : Family) (step : Step) (steps : List Step) :
    f.runAll (step :: steps) =
      ((f.step step).1 :: ((f.step step).2.runAll steps).1, ((f.step step).2.runAll steps).2) := rfl

theorem runAll_append (f : Family) (before after : List Step) :
    f.runAll (before ++ after) =
      ((f.runAll before).1 ++ ((f.runAll before).2.runAll after).1, ((f.runAll before).2.runAll after).2) := by
  induction before generalizing f with
  | nil => rfl
  | cons step before ih => simp only [List.cons_append, runAll_cons, ih]

theorem length_results (f : Family) (steps : List Step) : (f.runAll steps).1.length = steps.length := by
  induction steps generalizing f with
  | nil => rfl
  | cons step steps ih => simp only [runAll_cons, List.length_cons, ih]

theorem uses_append (f : Family) (before after : List Step) :
    f.uses (before ++ after) = f.uses before ++ (f.runAll before).2.uses after := by
  induction before generalizing f with
  | nil => rfl
  | cons step before ih => rw [List.cons_append, uses, uses, ih, List.append_assoc, runAll_cons]

theorem changedBy_cons (step : Step) (steps : List Step) (i : Nat) (t : Table) :
    changedBy (step :: steps) i t = changedBy steps i (if step.number = i then step.change t else t) := by
  by_cases h : step.number = i <;> simp [changedBy, h]

/-- The table of a store is its own: the steps with other stores have no part in it. -/
theorem table_runAll (hi : i < f.stores.length) (steps : List Step) :
    ((f.runAll steps).2.store i).table = changedBy steps i (f.store i).table := by
  induction steps generalizing f with
  | nil => rfl
  | cons step steps ih =>
      rw [runAll_cons, ih (Nat.lt_of_lt_of_le hi (f.length_step step)), table_step hi, changedBy_cons]

/-- A clone of a table starts from what the table is then. -/
theorem table_fork (f : Family) (i : Nat) (steps : List Step) :
    ((f.runAll (.fork i :: steps)).2.store f.stores.length).table =
      changedBy steps f.stores.length (f.store i).table := by
  have hnew : f.stores.length < (f.step (.fork i)).2.stores.length := by simp [Family.step, fork]
  rw [runAll_cons, table_runAll hnew, Family.step, store_fork_new]

theorem logged_runAll {m₀ : Memory} {past : List Use} (hf : f.memory = m₀.leftBy past) (steps : List Step) :
    Logged m₀ past (f.runAll steps).2.memory ((f.runAll steps).1.flatMap Result.trace) (f.uses steps) := by
  induction steps generalizing f past with
  | nil => exact .nil hf rfl
  | cons step steps ih =>
      have hstep := logged_step hf step
      rw [runAll_cons, List.flatMap_cons, uses]
      exact hstep.append (ih hstep.memory)

/-- A check that finds a predicate, in whatever store and place, asks it while it keeps the number of the moment, and
says what it says then. -/
theorem step_evaluate {c : Call} {viewer : Option Json} {action : String} {subject : Subject} {p : Predicate}
    (hc : c.typed? = some (.evaluate viewer action subject)) (hv : Argument.checkViewer viewer = .ok ())
    (hr : (f.store i).rule? subject.typeName action = some (.predicate p)) :
    (∃ later, f.usesOf (.call i c) = .began p viewer subject.value? (f.memory p.cell) :: later) ∧
    ∃ done, (f.step (.call i c)).1 = .called done ∧
      done.result = ((f.store i).ruleAnswer f.memory (.predicate p) viewer subject.value?).map (·.map .allowed) := by
  refine ⟨?_, ((f.store i).turn f.memory c).1, rfl, ?_⟩
  · simp only [usesOf, Store.uses, Call.inquiry?, hc]
    exact ⟨_, Table.uses_of_predicate (q := ⟨viewer, action, subject, f.memory⟩) hv hr (f.store i).table.depth⟩
  · have hk : (f.store i).knows subject.typeName = true := Table.knows_of_rule? hr
    rw [Store.turn_of_typed? hc, Store.turn_evaluate_result hv, hk, hr]
    rfl

/-- Tables are apart and predicates are shared, at every moment of a run over stores and their forks. The table of a
store is what the store's own steps make of the table it started from. A rule that is put at some actions stands there,
the same at all of them, and nothing else changes, the numbers of predicates included. What is found in a number is what
the uses before left there, by predicates that were asked before, in whatever store; and a check that finds a predicate
asks it while it keeps the number that the run so far has left. -/
theorem runAll_forks (f : Family) (steps : List Step) :
    (∀ i < f.stores.length, ((f.runAll steps).2.store i).table = changedBy steps i (f.store i).table) ∧
    (∀ before i after, steps = before ++ .fork i :: after →
      let g := (f.runAll before).2
      ((f.runAll steps).2.store g.stores.length).table = changedBy after g.stores.length (g.store i).table) ∧
    (∀ before step after i type names rule?, steps = before ++ step :: after →
      let g := (f.runAll before).2
      g.Puts step i type names rule? →
        (g.step step).2.memory = g.memory ∧
        ∀ j < g.stores.length, ∀ other action, ((g.step step).2.store j).rule? other action =
          if i = j ∧ type = other ∧ action ∈ names then rule? else (g.store j).rule? other action) ∧
    (f.runAll steps).2.memory = f.memory.leftBy (f.uses steps) ∧
    Trace.invocations ((f.runAll steps).1.flatMap Result.trace) = (f.uses steps).filterMap Use.invocation? ∧
    (∀ before u after, f.uses steps = before ++ u :: after → u.Follows f.memory before) ∧
    (∀ before i c after viewer action subject p, steps = before ++ .call i c :: after →
      c.typed? = some (.evaluate viewer action subject) → Argument.checkViewer viewer = .ok () →
      let g := (f.runAll before).2
      (g.store i).rule? subject.typeName action = some (.predicate p) →
        let m := f.memory.leftBy (f.uses before)
        (∃ later, f.uses steps = f.uses before ++ .began p viewer subject.value? (m p.cell) :: later) ∧
        ∃ done, (f.runAll steps).1[before.length]? = some (.called done) ∧
          done.result = ((g.store i).ruleAnswer m (.predicate p) viewer subject.value?).map (·.map .allowed)) := by
  have hlog : Logged f.memory [] _ _ _ := logged_runAll rfl steps
  refine ⟨fun i hi => table_runAll hi steps, ?_, ?_, hlog.memory, hlog.invocations, ?_, ?_⟩
  · rintro before i after rfl
    rw [runAll_append]
    exact table_fork _ i after
  · rintro before step after i type names rule? - g h
    exact ⟨h.memory_step, fun j hj => h.rule?_step hj⟩
  · intro before u after hsplit
    exact Coherent.follows (hsplit ▸ hlog.coherent)
  · rintro before i c after viewer action subject p rfl hc hv g hr m
    have hbefore : Logged f.memory [] _ _ _ := logged_runAll rfl before
    have hm : g.memory = m := hbefore.memory
    obtain ⟨⟨later, huses⟩, done, hcalled, hresult⟩ := step_evaluate hc hv hr
    rw [hm] at huses hresult
    -- What the steps after this one do with the numbers comes behind what this one does.
    refine ⟨⟨later ++ (g.step (.call i c)).2.uses after, ?_⟩, done, ?_, hresult⟩
    · rw [uses_append, uses, huses]
      rfl
    · have hlength := f.length_results before
      rw [runAll_append, List.getElem?_append_right (Nat.le_of_eq hlength), hlength, Nat.sub_self, runAll_cons,
        List.getElem?_cons_zero, hcalled]

/-- A predicate that denies its second turn is copied in one store and cloned into another. The second turn goes through
the copy, after the predicate itself was removed there. -/
theorem runAll_forks_turns :
    let turns : Predicate := ⟨0, fun _ _ => .load fun n => .save (n + 1) (.finish (.ok (n != 1)))⟩
    let f : Family := .of ⟨Table.empty.define "post" ["edit"] (.predicate turns)⟩
    let removal : Step := .call 0 (.undefine "post" (.one "edit"))
    let shared : List Step :=
      [.copy 0 ("post", "edit") "user" (.one "see"), .fork 0, .call 1 (.evaluate none "edit" (.bare "post"))]
    let steps : List Step := shared ++ [removal, .call 0 (.evaluate none "see" (.bare "user"))]
    let run := f.runAll steps
    (run.2.store 0).rule? "post" "edit" = none ∧ (run.2.store 1).rule? "post" "edit" = some (.predicate turns) ∧
    ((f.runAll shared).2.step removal).2.memory = (f.runAll shared).2.memory ∧
    Use.Follows f.memory (f.uses (steps.take 4)) (.began turns none none 1) ∧
    (∃ done, run.1[2]? = some (.called done) ∧ done.result = .returned (.ok (.allowed true))) ∧
    (∃ done, run.1[4]? = some (.called done) ∧ done.result = .returned (.ok (.allowed false))) := by
  intro turns f removal shared steps run
  obtain ⟨hown, hfork, hputs, -, -, huses, hcheck⟩ := runAll_forks f steps
  have hzero := hown 0 (by decide)
  have hone := hfork (shared.take 1) 0 _ rfl
  have hfirst := hcheck (steps.take 2) 1 _ _ none "edit" (.bare "post") turns rfl rfl rfl rfl
  have hsecond := hcheck (steps.take 4) 0 _ _ none "see" (.bare "user") turns rfl rfl rfl rfl
  obtain ⟨later, hsplit⟩ := hsecond.1
  refine ⟨?_, ?_, ?_, ?_, hfirst.2, hsecond.2⟩
  · rw [Store.rule?, hzero]; rfl
  · exact (congrArg (fun t => t.rule? "post" "edit") hone).trans rfl
  · exact (hputs shared removal _ 0 "post" (Actions.one "edit").names none rfl (.undefine rfl)).1
  · exact huses (f.uses (steps.take 4)) _ later hsplit

end Family

end Permit
