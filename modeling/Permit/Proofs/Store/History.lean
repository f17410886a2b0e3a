import Permit.Proofs.Store.Typed

/-!
# What a history says

The calls on a store, in order, say which rule stands for each type and action and which types are known: the last word
on an action counts, and a type once defined stays known. What the calls come to follows from this reading alone.
-/

namespace Permit

namespace Call

/-- What a call with good arguments says about the rule for an action: a rule, no rule, or nothing at all. -/
def says? (type action : String) (c : Call) : Option (Option Rule) :=
  match c.typed? with
  | some (.define t actions rule) => if t = type ∧ action ∈ actions.names then some (some rule) else none
  | some (.undefine t actions) => if t = type ∧ action ∈ actions.names then some none else none
  | _ => none

/-- The call has good arguments and defines the type, be it for no action. -/
def introduces (type : String) (c : Call) : Bool :=
  match c.typed? with
  | some (.define t _ _) => t == type
  | _ => false

end Call

namespace History

/-- The rule that the last word on the action gives it; without any word it is what it was at first. -/
def rule? (first : Store) (calls : List Call) (type action : String) : Option Rule :=
  (calls.filterMap (Call.says? type action)).getLast?.getD (first.rule? type action)

def knows (first : Store) (calls : List Call) (type : String) : Bool :=
  first.knows type || calls.any (Call.introduces type)

end History

namespace Store

variable {s : Store} {m : Memory} {c : Call}

/-! ## One call -/

theorem turn_evaluate_store (s : Store) (m : Memory) (viewer : Option Json) (action : String) (subject : Subject) :
    (s.turn m (.evaluate viewer action subject)).2.1 = s := by
  rw [turn_evaluate]

theorem rule?_turn (s : Store) (m : Memory) (c : Call) (type action : String) :
    (s.turn m c).2.1.rule? type action = (c.says? type action).getD (s.rule? type action) := by
  cases htyped : c.typed? with
  | none =>
      obtain ⟨refusal, -, hturn⟩ := turn_of_not_typed htyped s m
      simp [hturn, Call.says?, htyped]
  | some d =>
      have hloose := Call.loose_of_typed? htyped
      rw [turn_of_typed? htyped]
      cases d with
      | evaluate viewer a subject => simp [turn_evaluate_store, Call.says?, htyped]
      | define t actions rule =>
          rw [turn_define]
          simp only [Store.rule?, Table.rule?_define, Call.says?, htyped]
          split <;> rfl
      | undefine t actions =>
          cases hk : s.knows t with
          | true =>
              obtain ⟨t', removed, hu⟩ := undefine?_of_knows hk actions.names
              rw [turn_undefine_of_some hu]
              simp only [Store.rule?, Table.rule?_undefine? hu, Call.says?, htyped]
              split <;> rfl
          | false =>
              rw [turn_undefine_of_not_knows hk]
              simp only [Call.says?, htyped]
              split
              · rename_i h
                simp [Store.rule?, ← h.1, Table.rule?_of_not_knows hk]
              · rfl
      | evaluateLoose | defineLoose | undefineLoose => cases hloose

theorem knows_turn (s : Store) (m : Memory) (c : Call) (type : String) :
    (s.turn m c).2.1.knows type = (s.knows type || c.introduces type) := by
  cases htyped : c.typed? with
  | none =>
      obtain ⟨refusal, -, hturn⟩ := turn_of_not_typed htyped s m
      simp [hturn, Call.introduces, htyped]
  | some d =>
      have hloose := Call.loose_of_typed? htyped
      rw [turn_of_typed? htyped]
      cases d with
      | evaluate viewer a subject => simp [turn_evaluate_store, Call.introduces, htyped]
      | define t actions rule =>
          rw [turn_define]
          simp only [Store.knows, Table.knows_define, Call.introduces, htyped, Bool.or_comm]
      | undefine t actions =>
          simp only [Call.introduces, htyped, Bool.or_false]
          cases hk : s.knows t with
          | true =>
              obtain ⟨t', removed, hu⟩ := undefine?_of_knows hk actions.names
              rw [turn_undefine_of_some hu]
              exact Table.knows_undefine? hu type
          | false => rw [turn_undefine_of_not_knows hk]
      | evaluateLoose | defineLoose | undefineLoose => cases hloose

/-! ## A whole run -/

theorem rule?_runAll (s : Store) (m : Memory) (calls : List Call) (type action : String) :
    (s.runAll m calls).2.1.rule? type action = History.rule? s calls type action := by
  induction calls generalizing s m with
  | nil => rfl
  | cons c cs ih =>
      simp only [runAll_cons, ih, History.rule?, rule?_turn, List.filterMap_cons]
      cases c.says? type action with
      | none => rfl
      | some word => simp [List.getLast?_cons]

theorem knows_runAll (s : Store) (m : Memory) (calls : List Call) (type : String) :
    (s.runAll m calls).2.1.knows type = History.knows s calls type := by
  induction calls generalizing s m with
  | nil => simp [History.knows]
  | cons c cs ih => simp only [runAll_cons, ih, History.knows, knows_turn, List.any_cons, Bool.or_assoc]

/-! ## What the calls come to -/

/-- How a rule answers when a check on the store comes to it. -/
def ruleAnswer (s : Store) (m : Memory) (rule : Rule) (viewer entity : Option Json) : Outcome Answer :=
  (rule.decide (s.table.evaluate s.table.depth) viewer entity m).outcome.map (·.mapError .rule)

/-- The answer of a rule is never that a type is unknown: such a complaint of a nested check comes as a failure. -/
theorem ruleAnswer_ne_unknown (s : Store) (m : Memory) (rule : Rule) (viewer entity : Option Json) (type : String) :
    s.ruleAnswer m rule viewer entity ≠ .returned (.error (.unknownType type)) := by
  unfold ruleAnswer
  match (rule.decide (s.table.evaluate s.table.depth) viewer entity m).outcome with
  | .returned (.ok allowed) => intro h; cases h
  | .returned (.error failure) => intro h; cases h
  | .panicked message => simp
  | .exhausted => simp

theorem map_allowed_eq_error {o : Outcome Answer} {refusal : Refusal} :
    o.map (·.map Reply.allowed) = .returned (.error refusal) ↔ o = .returned (.error refusal) := by
  match o with
  | .returned (.ok b) => simp [Except.map]
  | .returned (.error r) => simp [Except.map]
  | .panicked message => simp
  | .exhausted => simp

theorem turn_undefine_result (s : Store) (m : Memory) (type : String) (actions : Actions) :
    (s.turn m (.undefine type actions)).1.result =
      .returned (if s.knows type then .ok .changed else .error (.unknownType type)) := by
  cases hk : s.knows type with
  | true =>
      obtain ⟨t, removed, hu⟩ := undefine?_of_knows hk actions.names
      rw [turn_undefine_of_some hu]; rfl
  | false => rw [turn_undefine_of_not_knows hk]; rfl

theorem turn_evaluate_result {viewer : Option Json} (hv : Argument.checkViewer viewer = .ok ()) (s : Store)
    (m : Memory) (action : String) (subject : Subject) :
    (s.turn m (.evaluate viewer action subject)).1.result =
      Outcome.map (·.map .allowed)
        (if s.knows subject.typeName then
          match s.rule? subject.typeName action with
          | none => .returned (.ok false)
          | some rule => s.ruleAnswer m rule viewer subject.value?
        else .returned (.error (.unknownType subject.typeName))) := by
  rw [turn_evaluate]
  simp only [evaluate, Table.evaluate_of_accepted hv, Table.decide_outcome]
  rfl

/-- The law of histories: rules, known types and the results of removals and checks are what the history says. -/
theorem runAll_follows_history (s : Store) (m : Memory) (calls : List Call) :
    (∀ type action, (s.runAll m calls).2.1.rule? type action = History.rule? s calls type action) ∧
    (∀ type, (s.runAll m calls).2.1.knows type = History.knows s calls type) ∧
    (∀ i c type actions, calls[i]? = some c → c.typed? = some (.undefine type actions) →
      ((s.runAll m calls).1[i]?).map Done.result =
        some (.returned (if History.knows s (calls.take i) type then .ok .changed else .error (.unknownType type)))) ∧
    (∀ i c viewer action subject, calls[i]? = some c → c.typed? = some (.evaluate viewer action subject) →
      Argument.checkViewer viewer = .ok () →
      let before := (s.runAll m (calls.take i)).2
      let result := ((s.runAll m calls).1[i]?).map Done.result
      (History.knows s (calls.take i) subject.typeName = false ↔
        result = some (.returned (.error (.unknownType subject.typeName)))) ∧
      (History.knows s (calls.take i) subject.typeName = true →
        result = some (Outcome.map (·.map .allowed)
          (match History.rule? s (calls.take i) subject.typeName action with
          | none => .returned (.ok false)
          | some rule => before.1.ruleAnswer before.2 rule viewer subject.value?)))) := by
  refine ⟨rule?_runAll s m calls, knows_runAll s m calls, ?_, ?_⟩
  · intro i c type actions hc htyped
    rw [runAll_getElem? hc]
    simp only [Option.map_some, turn_of_typed? htyped, turn_undefine_result, knows_runAll]
  · intro i c viewer action subject hc htyped hv
    rw [runAll_getElem? hc]
    simp only [Option.map_some, turn_of_typed? htyped, turn_evaluate_result hv, knows_runAll, rule?_runAll]
    cases hk : History.knows s (calls.take i) subject.typeName with
    | false => simp [Except.map]
    | true =>
        refine ⟨?_, fun _ => rfl⟩
        simp only [reduceIte, Bool.true_eq_false, false_iff, Option.some.injEq, map_allowed_eq_error]
        cases History.rule? s (calls.take i) subject.typeName action with
        | none => simp
        | some rule => exact ruleAnswer_ne_unknown _ _ _ _ _ _

theorem runAll_follows_history_post :
    let calls : List Call :=
      [.undefine "post" (.one "see"), .define "post" (.many ["see", "edit"]) .allow,
        .undefineLoose (some (.string "post")) (some (.string "see")), .evaluate none "see" (.bare "post"),
        .evaluate none "edit" (.bare "post")]
    let results := (empty.runAll Memory.fresh calls).1.map Done.result
    results[0]? = some (.returned (.error (.unknownType "post"))) ∧ results[2]? = some (.returned (.ok .changed)) ∧
    results[3]? = some (.returned (.ok (.allowed false))) ∧ results[4]? = some (.returned (.ok (.allowed true))) := by
  simp only [List.getElem?_map]
  obtain ⟨-, -, hremoval, hcheck⟩ := runAll_follows_history empty Memory.fresh
    [.undefine "post" (.one "see"), .define "post" (.many ["see", "edit"]) .allow,
      .undefineLoose (some (.string "post")) (some (.string "see")), .evaluate none "see" (.bare "post"),
      .evaluate none "edit" (.bare "post")]
  exact ⟨hremoval 0 _ _ _ rfl rfl, hremoval 2 _ _ _ rfl rfl, (hcheck 3 _ _ _ _ rfl rfl rfl).2 rfl,
    (hcheck 4 _ _ _ _ rfl rfl rfl).2 rfl⟩

end Store

end Permit
