import Permit.Proofs.Check.Stateless
import Permit.Proofs.Store.Typed

/-!
# Types do not interfere

Leave out of a run all calls on other types: the calls that remain come to the same and tell the same, and what is known
of the type at the end is the same. So nothing that is defined, removed or refused for other types grants or revokes
anything of this one. The rules have to be self-contained, for a number that rules of two types share would tell.
-/

namespace Permit

/-! ## Rules that stand alone -/

/-- What the rule says follows from the viewer and the entity: it keeps no number, and checks no other permission. -/
def Rule.SelfContained : Rule → Prop
  | .allow | .deny => True
  | .predicate p => ∀ viewer entity, (p.script viewer entity).Stateless ∧ (p.script viewer entity).Solitary

namespace Rule.SelfContained

variable {rule : Rule}

theorem stateless (h : rule.SelfContained) : rule.Stateless := by
  cases rule with
  | allow | deny => trivial
  | predicate p => exact fun viewer entity => (h viewer entity).1

theorem decide_eq (h : rule.SelfContained) (ask ask' : Asked) (viewer entity : Option Json) :
    rule.decide ask viewer entity = rule.decide ask' viewer entity := by
  cases rule with
  | allow | deny => rfl
  | predicate p => rw [Rule.decide, Rule.decide, Predicate.invoke, Predicate.invoke, (h viewer entity).2.perform_eq ask ask']

end Rule.SelfContained

namespace Table

variable {t u : Table}

theorem Every.stateless (h : t.Every Rule.SelfContained) : t.Stateless :=
  fun type action rule hrule => (h type action rule hrule).stateless

/-- Only the row of the subject's type has a say in a decision. -/
theorem decide_of_row? {subject : Subject} (h : t.row? subject.typeName = u.row? subject.typeName)
    (ht : t.Every Rule.SelfContained) (ask ask' : Asked) (viewer : Option Json) (action : String) :
    t.decide ask viewer action subject = u.decide ask' viewer action subject := by
  funext m
  have hk : u.knows subject.typeName = t.knows subject.typeName := by rw [knows, knows, h]
  have hr : u.rule? subject.typeName action = t.rule? subject.typeName action := by rw [rule?, rule?, h]
  cases hfound : t.rule? subject.typeName action with
  | none =>
      cases hknown : t.knows subject.typeName with
      | false => rw [decide_of_not_knows hknown, decide_of_not_knows (hk.trans hknown)]
      | true => rw [decide_of_missing hknown hfound, decide_of_missing (hk.trans hknown) (hr.trans hfound)]
  | some rule =>
      have hrule : rule.SelfContained := ht _ _ _ hfound
      rw [decide_of_rule hfound, decide_of_rule (hr.trans hfound), hrule.decide_eq ask ask']

end Table

/-! ## What calls are about -/

namespace Call

/-- The type that a call names, or that its subject names. -/
def type? : Call → Option String
  | .evaluate _ _ subject => some subject.typeName
  | .evaluateLoose _ _ subject => (Subject.decode subject).toOption.map Subject.typeName
  | .define type _ _ | .undefine type _ => some type
  | .defineLoose type _ _ | .undefineLoose type _ => (Argument.type.text type).toOption

/-- The call names another type than this. -/
def foreign (type : String) (c : Call) : Bool := c.type?.any (· != type)

/-- The rule that a call brings. -/
def rule? : Call → Option Rule
  | .define _ _ rule | .defineLoose _ _ rule => some rule
  | .evaluate .. | .evaluateLoose .. | .undefine .. | .undefineLoose .. => none

variable {c d : Call}

theorem type_of_changeArguments {type actions : Option Json} {t : String} {a : Actions}
    (h : Store.changeArguments type actions = .ok (t, a)) : Argument.type.text type = .ok t := by
  cases ht : Argument.type.text type <;> cases ha : Actions.decode actions <;>
    simp [Store.changeArguments, ht, ha, bind, Except.bind, pure, Except.pure] at h ⊢
  exact h.1

theorem type?_of_typed? (h : c.typed? = some d) : c.type? = d.type? := by
  cases c with
  | evaluate | define | undefine => cases h; rfl
  | evaluateLoose viewer action subject =>
      simp only [typed?] at h
      split at h <;> cases h
      rename_i a sub hargs
      obtain ⟨-, -, hdecode⟩ := Store.checkArguments_eq_ok.mp hargs
      simp only [type?, hdecode]
      rfl
  | defineLoose type actions rule | undefineLoose type actions =>
      simp only [typed?] at h
      split at h <;> cases h
      rename_i t a hargs
      simp only [type?, type_of_changeArguments hargs]
      rfl

theorem foreign_iff {type t : String} (h : c.typed? = some d) (ht : d.type? = some t) :
    c.foreign type = true ↔ t ≠ type := by
  rw [foreign, type?_of_typed? h, ht, Option.any_some, bne_iff_ne]

theorem rule?_of_typed? (h : c.typed? = some d) : c.rule? = d.rule? := by
  cases c with
  | evaluate | define | undefine => cases h; rfl
  | evaluateLoose | defineLoose | undefineLoose =>
      simp only [typed?] at h
      split at h <;> cases h
      rfl

end Call

/-! ## One call -/

namespace Store

variable {s s' : Store} {type : String} {c : Call}

theorem memory_turn (h : s.table.Stateless) (m : Memory) (c : Call) : (s.turn m c).2.2 = m := by
  have hturned := s.turned m c
  generalize s.turn m c = x at hturned ⊢
  cases hturned with
  | evaluated _ hrun =>
      rw [← hrun]
      exact h.evaluate_memory _ _ _ _ m
  | refused | defined | unknown | undefined => rfl

theorem every_turn {P : Rule → Prop} (h : s.table.Every P) (hc : ∀ rule, c.rule? = some rule → P rule) (m : Memory) :
    (s.turn m c).2.1.table.Every P := by
  have hturned := s.turned m c
  generalize s.turn m c = x at hturned ⊢
  cases hturned with
  | defined htyped => exact h.define (hc _ (Call.rule?_of_typed? htyped)) _ _
  | undefined _ hu => exact h.undefine? hu
  | refused | evaluated | unknown => exact h

/-- A call on another type leaves the row of this one as it was. -/
theorem row?_turn_foreign (h : c.foreign type = true) (s : Store) (m : Memory) :
    (s.turn m c).2.1.table.row? type = s.table.row? type := by
  have hturned := s.turned m c
  generalize s.turn m c = x at hturned ⊢
  cases hturned with
  | @defined t actions rule htyped =>
      have hne := (Call.foreign_iff htyped rfl).mp h
      exact (Table.row?_define s.table t type actions.names rule).trans (if_neg hne)
  | @undefined t actions u removed htyped hu =>
      have hne := (Call.foreign_iff htyped rfl).mp h
      obtain ⟨row, -, hout⟩ := Option.map_eq_some_iff.mp hu
      cases hout
      exact (Table.row?_setRow s.table t type _).trans (if_neg hne)
  | refused | evaluated | unknown => rfl

/-- The stores have the same row for the type, and all their rules are self-contained. -/
structure SameRow (type : String) (s s' : Store) : Prop where
  row : s.table.row? type = s'.table.row? type
  rules : s.table.Every Rule.SelfContained
  rules' : s'.table.Every Rule.SelfContained

theorem SameRow.row?_turn {m : Memory} (h : SameRow type s s') (hc : c.foreign type = false) :
    (s.turn m c).1 = (s'.turn m c).1 ∧ (s.turn m c).2.1.table.row? type = (s'.turn m c).2.1.table.row? type := by
  cases htyped : c.typed? with
  | none =>
      obtain ⟨refusal, -, hturn⟩ := refused_of_not_typed htyped
      rw [hturn, hturn]
      exact ⟨rfl, h.row⟩
  | some d =>
      have hsame : ∀ t, d.type? = some t → t = type := fun t ht =>
        Classical.not_not.mp fun hne => Bool.false_ne_true (hc.symm.trans ((Call.foreign_iff htyped ht).mpr hne))
      rw [turn_of_typed? htyped, turn_of_typed? htyped]
      cases d with
      | evaluate viewer action subject =>
          have ht := hsame subject.typeName rfl
          have hrow : s.table.row? subject.typeName = s'.table.row? subject.typeName := by rw [ht, h.row]
          have hrun : s.evaluate viewer action subject = s'.evaluate viewer action subject := by
            rcases Argument.checkViewer_cases viewer with hv | hv
            · rw [evaluate, evaluate, Table.evaluate_of_accepted hv, Table.evaluate_of_accepted hv]
              exact Table.decide_of_row? hrow h.rules _ _ viewer action
            · rw [evaluate, evaluate, Table.evaluate_of_refused hv, Table.evaluate_of_refused hv]
          rw [turn_evaluate, turn_evaluate, hrun]
          exact ⟨rfl, h.row⟩
      | define t actions rule =>
          have ht := hsame t rfl
          subst ht
          rw [turn_define, turn_define, Table.row?_define, Table.row?_define, h.row]
          exact ⟨rfl, rfl⟩
      | undefine t actions =>
          have ht := hsame t rfl
          subst ht
          cases hrow : s.table.row? t with
          | none =>
              have hrow' : s'.table.row? t = none := h.row.symm.trans hrow
              rw [turn_undefine_of_not_knows (by simp [knows, Table.knows, hrow]),
                turn_undefine_of_not_knows (by simp [knows, Table.knows, hrow'])]
              exact ⟨rfl, h.row⟩
          | some row =>
              have hrow' : s'.table.row? t = some row := h.row.symm.trans hrow
              rw [turn_undefine_of_some (Table.undefine?_of_row? hrow actions.names),
                turn_undefine_of_some (Table.undefine?_of_row? hrow' actions.names), Table.row?_setRow, Table.row?_setRow,
                if_pos rfl, if_pos rfl]
              exact ⟨rfl, rfl⟩
      | evaluateLoose | defineLoose | undefineLoose => cases Call.loose_of_typed? htyped

/-! ## A whole run -/

/-- What came of the calls of a run that are not on another type. -/
def ofType (type : String) (calls : List Call) (dones : List Done) : List Done :=
  ((calls.zip dones).filter fun p => !p.1.foreign type).map Prod.snd

theorem SameRow.runAll {calls : List Call} (h : SameRow type s s')
    (hcalls : ∀ c ∈ calls, ∀ rule, c.rule? = some rule → rule.SelfContained) (m : Memory) :
    (s'.runAll m (calls.filter fun c => !c.foreign type)).1 = ofType type calls (s.runAll m calls).1 ∧
    SameRow type (s.runAll m calls).2.1 (s'.runAll m (calls.filter fun c => !c.foreign type)).2.1 := by
  induction calls generalizing s s' with
  | nil => exact ⟨rfl, h⟩
  | cons c cs ih =>
      have hc := hcalls c List.mem_cons_self
      have hcs : ∀ c ∈ cs, ∀ rule, c.rule? = some rule → rule.SelfContained :=
        fun c hmem => hcalls c (List.mem_cons_of_mem _ hmem)
      have hrules := every_turn h.rules hc m
      rw [runAll_cons, memory_turn h.rules.stateless]
      cases hforeign : c.foreign type with
      | true =>
          have hrow := (row?_turn_foreign hforeign s m).trans h.row
          rw [List.filter_cons_of_neg (by simp [hforeign]), ofType, List.zip_cons_cons,
            List.filter_cons_of_neg (by simp [hforeign])]
          exact ih ⟨hrow, hrules, h.rules'⟩ hcs
      | false =>
          obtain ⟨hdone, hrow⟩ := h.row?_turn (m := m) hforeign
          obtain ⟨hdones, hstores⟩ := ih ⟨hrow, hrules, every_turn h.rules' hc m⟩ hcs
          rw [List.filter_cons_of_pos (by simp [hforeign]), runAll_cons, memory_turn h.rules'.stateless, ofType,
            List.zip_cons_cons, List.filter_cons_of_pos (by simp [hforeign]), List.map_cons, ← hdone]
          exact ⟨congrArg _ hdones, hstores⟩

/-- Without the calls on other types the rest of a run comes to the same, call by call, with the same events; and at the
end the type is known or not, and has its rules, as after the whole run. -/
theorem runAll_purge (type : String) (hs : s.table.Every Rule.SelfContained) {calls : List Call}
    (hcalls : ∀ c ∈ calls, ∀ rule, c.rule? = some rule → rule.SelfContained) (m : Memory) :
    let run := s.runAll m calls
    let purged := s.runAll m (calls.filter fun c => !c.foreign type)
    purged.1 = ofType type calls run.1 ∧
    (∀ action, purged.2.1.rule? type action = run.2.1.rule? type action) ∧
    purged.2.1.knows type = run.2.1.knows type := by
  intro run purged
  have hsame : SameRow type s s := ⟨rfl, hs, hs⟩
  obtain ⟨hdones, hstores⟩ := hsame.runAll hcalls m
  refine ⟨hdones, fun action => ?_, ?_⟩
  · rw [rule?, rule?, Table.rule?, Table.rule?, hstores.row]
  · rw [knows, knows, Table.knows, Table.knows, hstores.row]

/-- The types share an action and a predicate, and some calls on the other types fail. -/
theorem runAll_purge_post :
    let named : Rule := .predicate ⟨0, fun viewer _ => .finish (.ok viewer.isSome)⟩
    let s : Store := ⟨Table.empty.define "post" ["edit"] named⟩
    let calls : List Call :=
      [.define "user" (.many ["edit", "see"]) named, .undefine "tweet" (.one "edit"),
        .evaluate (some (.object .nil)) "edit" (.bare "post"), .undefineLoose (some (.string "user")) (some (.string "edit")),
        .evaluateLoose none (some (.string "edit")) (some (.object (.single "tweet" .null))),
        .undefineLoose (some (.string "post")) (some (.string "edit"))]
    s.table.Every Rule.SelfContained ∧ (∀ c ∈ calls, ∀ rule, c.rule? = some rule → rule.SelfContained) ∧
    (calls.filter fun c => !c.foreign "post").length = 2 ∧
    (s.runAll Memory.fresh (calls.filter fun c => !c.foreign "post")).1 =
      ofType "post" calls (s.runAll Memory.fresh calls).1 := by
  intro named s calls
  have hnamed : named.SelfContained := fun _ _ => ⟨.finish _, .finish _⟩
  have hempty : Table.empty.Every Rule.SelfContained := fun _ _ _ h => by cases h
  have hs : s.table.Every Rule.SelfContained := hempty.define hnamed "post" ["edit"]
  have hcalls : ∀ c ∈ calls, ∀ rule, c.rule? = some rule → rule.SelfContained := by
    intro c hc rule hrule
    simp only [calls, List.mem_cons, List.not_mem_nil, or_false] at hc
    rcases hc with rfl | rfl | rfl | rfl | rfl | rfl <;> cases hrule
    exact hnamed
  exact ⟨hs, hcalls, by decide, (runAll_purge "post" hs hcalls Memory.fresh).1⟩

end Store

end Permit
