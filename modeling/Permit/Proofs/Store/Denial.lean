import Permit.Proofs.Store.Typed
import Permit.Proofs.Table.Same

/-!
# A missing rule denies

Two stores agree when they know the same types and have the same rules, but that one may deny where the other has no rule.
Agreement is kept by every call, and every call comes to the same in both; only the count of the rules that a removal
found may tell them apart.
-/

namespace Permit

/-- The same rule, or one that denies in place of none. -/
inductive Rule.Agrees : Option Rule → Option Rule → Prop where
  | same (rule) : Agrees rule rule
  | denied : Agrees (some .deny) none
  | missing : Agrees none (some .deny)

theorem Rule.Agrees.filter_isPredicate {r r' : Option Rule} (h : Agrees r r') :
    r.filter isPredicate = r'.filter isPredicate := by
  cases h <;> rfl

/-! ## Tables that agree -/

namespace Table

variable {t t' u u' : Table} {actions : List String}

structure Agrees (t u : Table) : Prop where
  knows : ∀ type, t.knows type = u.knows type
  rule : ∀ type action, Rule.Agrees (t.rule? type action) (u.rule? type action)

namespace Agrees

theorem define (h : t.Agrees u) (type : String) (actions : List String) (rule : Rule) :
    (t.define type actions rule).Agrees (u.define type actions rule) where
  knows other := by rw [knows_define, knows_define, h.knows]
  rule other action := by
    rw [rule?_define, rule?_define]
    split
    · exact .same _
    · exact h.rule other action

theorem undefine? {type : String} {n n' : Nat} (h : t.Agrees u) (ht : t.undefine? type actions = some (t', n))
    (hu : u.undefine? type actions = some (u', n')) : t'.Agrees u' where
  knows other := by rw [knows_undefine? ht, knows_undefine? hu, h.knows]
  rule other action := by
    rw [rule?_undefine? ht, rule?_undefine? hu]
    split
    · exact .same _
    · exact h.rule other action

/-- Where a rule is missing the decision is that of a rule that denies, down to the kind of rule that is told. -/
theorem decide (h : t.Agrees u) (ask : Asked) : t.decide ask = u.decide ask := by
  funext viewer action subject m
  cases hk : t.knows subject.typeName with
  | false => rw [decide_of_not_knows hk, decide_of_not_knows ((h.knows _).symm.trans hk)]
  | true =>
      have hk' : u.knows subject.typeName = true := (h.knows _).symm.trans hk
      generalize hr : t.rule? subject.typeName action = r
      generalize hr' : u.rule? subject.typeName action = r'
      have hrules := h.rule subject.typeName action
      rw [hr, hr'] at hrules
      cases hrules with
      | same =>
          cases r with
          | none => rw [decide_of_missing hk hr, decide_of_missing hk' hr']
          | some rule => rw [decide_of_rule hr, decide_of_rule hr']
      | denied =>
          rw [decide_of_rule hr, decide_of_missing hk' hr']
          rfl
      | missing =>
          rw [decide_of_missing hk hr, decide_of_rule hr']
          rfl

theorem evaluate (h : t.Agrees u) (levels : Nat) : t.evaluate levels = u.evaluate levels := by
  induction levels with
  | zero => rfl
  | succ levels ih =>
      funext viewer action subject
      rcases Argument.checkViewer_cases viewer with hv | hv
      · rw [evaluate_of_accepted hv, evaluate_of_accepted hv, h.decide, ih]
      · rw [evaluate_of_refused hv, evaluate_of_refused hv]

theorem depth (h : t.Agrees u) : t.depth = u.depth := by
  have hcount := predicateCount_eq h.knows fun type action => (h.rule type action).filter_isPredicate
  rw [Table.depth, Table.depth, hcount]

end Agrees

end Table

/-! ## Stores that agree -/

/-- The event without the number of rules that a removal found. -/
def Event.uncounted : Event → Event
  | .undefined type _ requested => .undefined type 0 requested
  | e => e

def Trace.uncounted (t : Trace) : Trace :=
  t.map fun
    | .emitted e => .emitted e.uncounted
    | entry => entry

namespace Store

variable {s s' : Store}

/-- The calls came to the same, but for what the removals counted, and left tables that agree. -/
structure Matching (x x' : Done × Store × Memory) : Prop where
  result : x.1.result = x'.1.result
  trace : x.1.trace.uncounted = x'.1.trace.uncounted
  tables : x.2.1.table.Agrees x'.2.1.table
  memory : x.2.2 = x'.2.2

theorem evaluate_of_agrees (h : s.table.Agrees s'.table) : s.evaluate = s'.evaluate := by
  rw [Store.evaluate, Store.evaluate, h.depth, h.evaluate]

theorem matching_evaluate (h : s.table.Agrees s'.table) (m : Memory) (viewer : Option Json) (action : String)
    (subject : Subject) :
    Matching (s.turn m (.evaluate viewer action subject)) (s'.turn m (.evaluate viewer action subject)) := by
  rw [turn_evaluate, turn_evaluate, evaluate_of_agrees h]
  exact ⟨rfl, rfl, h, rfl⟩

theorem matching_define (h : s.table.Agrees s'.table) (m : Memory) (type : String) (actions : Actions) (rule : Rule) :
    Matching (s.turn m (.define type actions rule)) (s'.turn m (.define type actions rule)) := by
  rw [turn_define, turn_define]
  exact ⟨rfl, rfl, h.define _ _ _, rfl⟩

theorem matching_undefine (h : s.table.Agrees s'.table) (m : Memory) (type : String) (actions : Actions) :
    Matching (s.turn m (.undefine type actions)) (s'.turn m (.undefine type actions)) := by
  have hk' : s'.knows type = s.knows type := (h.knows type).symm
  cases hk : s.knows type with
  | false =>
      rw [turn_undefine_of_not_knows hk, turn_undefine_of_not_knows (hk'.trans hk)]
      exact ⟨rfl, rfl, h, rfl⟩
  | true =>
      -- Each store counts the rules that it had, and these counts are all that may differ.
      obtain ⟨t, n, hu⟩ := undefine?_of_knows hk actions.names
      obtain ⟨t', n', hu'⟩ := undefine?_of_knows (hk'.trans hk) actions.names
      rw [turn_undefine_of_some hu, turn_undefine_of_some hu']
      exact ⟨rfl, rfl, h.undefine? hu hu', rfl⟩

theorem matching_turn (h : s.table.Agrees s'.table) (m : Memory) (c : Call) : Matching (s.turn m c) (s'.turn m c) := by
  cases htyped : c.typed? with
  | none =>
      obtain ⟨refusal, -, hturn⟩ := refused_of_not_typed htyped
      rw [hturn, hturn]
      exact ⟨rfl, rfl, h, rfl⟩
  | some d =>
      rw [turn_of_typed? htyped, turn_of_typed? htyped]
      cases d with
      | evaluate viewer action subject => exact matching_evaluate h m viewer action subject
      | define type actions rule => exact matching_define h m type actions rule
      | undefine type actions => exact matching_undefine h m type actions
      | evaluateLoose | defineLoose | undefineLoose => cases Call.loose_of_typed? htyped

theorem matching_runAll (h : s.table.Agrees s'.table) (m : Memory) (calls : List Call) :
    (s.runAll m calls).1.map Done.result = (s'.runAll m calls).1.map Done.result ∧
    (s.runAll m calls).1.map (·.trace.uncounted) = (s'.runAll m calls).1.map (·.trace.uncounted) ∧
    (s.runAll m calls).2.1.table.Agrees (s'.runAll m calls).2.1.table ∧
    (s.runAll m calls).2.2 = (s'.runAll m calls).2.2 := by
  induction calls generalizing s s' m with
  | nil => exact ⟨rfl, rfl, h, rfl⟩
  | cons c cs ih =>
      have hturn := matching_turn h m c
      obtain ⟨hresults, htraces, htables, hmemory⟩ := ih hturn.tables (s.turn m c).2.2
      rw [runAll_cons, runAll_cons, ← hturn.memory]
      refine ⟨?_, ?_, htables, hmemory⟩
      · rw [List.map_cons, List.map_cons, hturn.result, hresults]
      · rw [List.map_cons, List.map_cons, hturn.trace, htraces]

/-- Calls come to the same in stores that agree, and tell the same but for the counts of removals; after each call the
stores agree. So what is known, and how many types there are, never tells them apart. The predicates may keep numbers,
if these are the same when the runs begin. -/
theorem runAll_agrees (h : s.table.Agrees s'.table) (m : Memory) (calls : List Call) :
    let run := s.runAll m calls
    let run' := s'.runAll m calls
    run.1.map Done.result = run'.1.map Done.result ∧
    run.1.map (·.trace.uncounted) = run'.1.map (·.trace.uncounted) ∧
    run.2.2 = run'.2.2 ∧
    ∀ n,
      let t := (s.runAll m (calls.take n)).2.1.table
      let u := (s'.runAll m (calls.take n)).2.1.table
      t.Agrees u ∧ t.typeNames = u.typeNames ∧ t.size = u.size ∧ t.isEmpty = u.isEmpty := by
  intro run run'
  obtain ⟨hresults, htraces, -, hmemory⟩ := matching_runAll h m calls
  refine ⟨hresults, htraces, hmemory, fun n => ?_⟩
  intro t u
  obtain ⟨-, -, hafter, -⟩ := matching_runAll h m (calls.take n)
  have hnames : t.typeNames = u.typeNames := Table.typeNames_eq hafter.knows
  have hsize : t.size = u.size := by rw [t.size_eq_length, u.size_eq_length, hnames]
  have hempty : t.isEmpty = u.isEmpty := by rw [t.isEmpty_eq, u.isEmpty_eq, hnames]
  exact ⟨hafter, hnames, hsize, hempty⟩

/-- One store denies and one has no rule: a removal counts differently, and no answer differs. -/
theorem runAll_agrees_edit :
    let s : Store := ⟨Table.empty.build [.withRule "post" "edit" .deny]⟩
    let s' : Store := ⟨Table.empty.build [.withType "post"]⟩
    let calls : List Call :=
      [.evaluate none "edit" (.bare "post"), .undefine "post" (.one "edit"), .undefine "user" (.one "edit")]
    let run := s.runAll Memory.fresh calls
    let run' := s'.runAll Memory.fresh calls
    s.table.Agrees s'.table ∧
    run.1.map Done.result = run'.1.map Done.result ∧
    run.1.map (·.trace.uncounted) = run'.1.map (·.trace.uncounted) ∧
    run.1.map (·.trace.events) ≠ run'.1.map (·.trace.events) := by
  intro s s' calls run run'
  have hagree : s.table.Agrees s'.table := by
    refine ⟨fun type => ?_, fun type action => ?_⟩
    · exact (Table.knows_setRow _ "post" type _).trans (Table.knows_setRow _ "post" type _).symm
    · have hrule : s.table.rule? type action = if "post" = type ∧ "edit" = action then some .deny else none :=
        Table.rule?_insert Table.empty "post" type "edit" action .deny
      have hrule' : s'.table.rule? type action = none := by
        refine (Table.rule?_setRow Table.empty "post" type action _).trans ?_
        split <;> rfl
      rw [hrule, hrule']
      split
      · exact .denied
      · exact .same _
  obtain ⟨hresults, htraces, -, -⟩ := runAll_agrees hagree Memory.fresh calls
  exact ⟨hagree, hresults, htraces, by decide⟩

end Store

end Permit
