import Permit.Proofs.Check.Script
import Permit.Proofs.Store.Typed

/-!
# Loose checks

What a check with loose arguments comes to, clause by clause: the first thing that is wrong decides, in the order viewer,
action, subject, shape, type; if nothing is wrong the rule decides.
-/

namespace Permit

namespace Store

/-- What a check with loose arguments comes to. Each clause holds where the clauses before it do not. -/
inductive LooseAnswer (s : Store) (m : Memory) (viewer action subject : Option Json) : Run Answer → Prop where
  | viewer (hv : Kind.of viewer ∈ Kind.scalars) :
      LooseAnswer s m viewer action subject ⟨.returned (.error (.invalidArgument .viewer (Kind.of viewer))), m, []⟩
  | action (hv : Kind.of viewer ∉ Kind.scalars) (ha : Kind.of action ≠ .string) :
      LooseAnswer s m viewer action subject ⟨.returned (.error (.invalidArgument .action (Kind.of action))), m, []⟩
  | subject (hv : Kind.of viewer ∉ Kind.scalars) (ha : Kind.of action = .string)
      (hs : Kind.of subject ∈ Kind.typeless) :
      LooseAnswer s m viewer action subject ⟨.returned (.error (.invalidArgument .subject (Kind.of subject))), m, []⟩
  | shape (hv : Kind.of viewer ∉ Kind.scalars) (ha : Kind.of action = .string) {n : Nat}
      (hs : Subject.members? subject = some n) (hn : n ≠ 1) :
      LooseAnswer s m viewer action subject ⟨.returned (.error (.invalidShape n)), m, []⟩
  | unknown (hv : Kind.of viewer ∉ Kind.scalars) {a type : String} {entity : Option Json}
      (ha : action = some (.string a)) (hs : Subject.Names subject type entity) (hk : s.knows type = false) :
      LooseAnswer s m viewer action subject
        ⟨.returned (.error (.unknownType type)), m, [.emitted (.checkedUnknown type a)]⟩
  | missing (hv : Kind.of viewer ∉ Kind.scalars) {a type : String} {entity : Option Json}
      (ha : action = some (.string a)) (hs : Subject.Names subject type entity) (hk : s.knows type = true)
      (hr : s.rule? type a = none) :
      LooseAnswer s m viewer action subject ⟨.returned (.ok false), m, [.emitted (.decided type a .deny false)]⟩
  | allow (hv : Kind.of viewer ∉ Kind.scalars) {a type : String} {entity : Option Json}
      (ha : action = some (.string a)) (hs : Subject.Names subject type entity) (hr : s.rule? type a = some .allow) :
      LooseAnswer s m viewer action subject ⟨.returned (.ok true), m, [.emitted (.decided type a .allow true)]⟩
  | deny (hv : Kind.of viewer ∉ Kind.scalars) {a type : String} {entity : Option Json}
      (ha : action = some (.string a)) (hs : Subject.Names subject type entity) (hr : s.rule? type a = some .deny) :
      LooseAnswer s m viewer action subject ⟨.returned (.ok false), m, [.emitted (.decided type a .deny false)]⟩
  | predicate (hv : Kind.of viewer ∉ Kind.scalars) {a type : String} {entity : Option Json} {p : Predicate}
      {own : Run (Except Failure Bool)} (ha : action = some (.string a)) (hs : Subject.Names subject type entity)
      (hr : s.rule? type a = some (.predicate p))
      (ho : (p.script viewer entity).perform (s.table.evaluate s.table.depth) p.cell m = own) :
      LooseAnswer s m viewer action subject
        ⟨own.outcome.map (·.mapError .rule), own.memory,
          .invoked p viewer entity :: (own.trace ++ own.outcome.told type a .predicate)⟩

/-- The arguments are good, and the rule that stands for them is this predicate. -/
def Finds (s : Store) (viewer action subject : Option Json) (p : Predicate) (entity : Option Json) : Prop :=
  Kind.of viewer ∉ Kind.scalars ∧
    ∃ a type, action = some (.string a) ∧ Subject.Names subject type entity ∧ s.rule? type a = some (.predicate p)

variable {s : Store} {m : Memory} {viewer action subject : Option Json}

theorem evaluateLoose_of_error {refusal : Refusal} (h : checkArguments viewer action subject = .error refusal)
    (s : Store) (m : Memory) :
    s.evaluateLoose viewer action subject m = ⟨.returned (.error refusal), m, []⟩ := by
  simp only [evaluateLoose, h]; rfl

theorem evaluateLoose_of_names (hv : Kind.of viewer ∉ Kind.scalars) {a type : String} {entity : Option Json}
    (ha : action = some (.string a)) (hs : Subject.Names subject type entity) (s : Store) :
    s.evaluateLoose viewer action subject =
      s.table.decide (s.table.evaluate s.table.depth) viewer a (.of type entity) := by
  have hargs := checkArguments_eq_ok.mpr ⟨Argument.checkViewer_eq_ok.mpr hv, ha, Subject.decode_of_names hs⟩
  simp only [evaluateLoose, hargs]

theorem LooseAnswer.eq {run : Run Answer} (h : s.LooseAnswer m viewer action subject run) :
    s.evaluateLoose viewer action subject m = run := by
  cases h with
  | viewer hv => exact evaluateLoose_of_error (checkArguments_of_viewer (Argument.checkViewer_of_scalar hv)) s m
  | action hv ha =>
      exact evaluateLoose_of_error
        (checkArguments_of_action (Argument.checkViewer_eq_ok.mpr hv) (Argument.text_of_kind ha)) s m
  | subject hv ha hs =>
      obtain ⟨a, ha⟩ := Kind.of_eq_string.mp ha
      exact evaluateLoose_of_error
        (checkArguments_of_subject (Argument.checkViewer_eq_ok.mpr hv) ha (Subject.decode_of_typeless hs)) s m
  | shape hv ha hs hn =>
      obtain ⟨a, ha⟩ := Kind.of_eq_string.mp ha
      exact evaluateLoose_of_error
        (checkArguments_of_subject (Argument.checkViewer_eq_ok.mpr hv) ha (Subject.decode_of_members hs hn)) s m
  | unknown hv ha hs hk =>
      rw [evaluateLoose_of_names hv ha hs, Table.decide_of_not_knows (by rwa [Subject.typeName_of]),
        Subject.typeName_of]
  | missing hv ha hs hk hr =>
      rw [evaluateLoose_of_names hv ha hs, Table.decide_of_missing (by rwa [Subject.typeName_of])
        (by rwa [Subject.typeName_of]), Subject.typeName_of]
  | allow hv ha hs hr | deny hv ha hs hr =>
      rw [evaluateLoose_of_names hv ha hs, Table.decide_of_rule (by rwa [Subject.typeName_of]), Subject.typeName_of]
      rfl
  | predicate hv ha hs hr ho =>
      subst ho
      rw [evaluateLoose_of_names hv ha hs, Table.decide_of_rule (by rwa [Subject.typeName_of]), Subject.typeName_of,
        Subject.value?_of]
      rfl

theorem looseAnswer_exists (s : Store) (m : Memory) (viewer action subject : Option Json) :
    ∃ run, s.LooseAnswer m viewer action subject run := by
  by_cases hv : Kind.of viewer ∈ Kind.scalars
  · exact ⟨_, .viewer hv⟩
  by_cases ha : Kind.of action = .string
  · rcases Subject.decode_cases subject with hs | ⟨n, hs, hn⟩ | ⟨type, entity, hs⟩
    · exact ⟨_, .subject hv ha hs⟩
    · exact ⟨_, .shape hv ha hs hn⟩
    · obtain ⟨a, ha⟩ := Kind.of_eq_string.mp ha
      cases hk : s.knows type with
      | false => exact ⟨_, .unknown hv ha hs hk⟩
      | true =>
          match hr : s.rule? type a with
          | none => exact ⟨_, .missing hv ha hs hk hr⟩
          | some .allow => exact ⟨_, .allow hv ha hs hr⟩
          | some .deny => exact ⟨_, .deny hv ha hs hr⟩
          | some (.predicate p) => exact ⟨_, .predicate hv ha hs hr rfl⟩
  · exact ⟨_, .action hv ha⟩

theorem invocations_told (o : Outcome (Except Failure Bool)) (type action : String) (kind : Rule.Kind) :
    (o.told type action kind).invocations = [] := by
  cases o <;> rfl

/-- A loose check comes to what the first clause that holds says. It invokes a predicate only where the arguments find
one, and then once, with the viewer and the entity as they were passed; whatever else is invoked, the predicate's own
checks invoke it. -/
theorem evaluateLoose_exact (s : Store) (m : Memory) (viewer action subject : Option Json) :
    (∀ run, s.evaluateLoose viewer action subject m = run ↔ s.LooseAnswer m viewer action subject run) ∧
    (∀ p entity, s.Finds viewer action subject p entity →
      let own := (p.script viewer entity).perform (s.table.evaluate s.table.depth) p.cell m
      (s.evaluateLoose viewer action subject m).trace.invocations = (p, viewer, entity) :: own.trace.invocations ∧
      ((p.script viewer entity).Solitary → own.trace.invocations = [])) ∧
    ((∀ p entity, ¬ s.Finds viewer action subject p entity) →
      (s.evaluateLoose viewer action subject m).trace.invocations = []) := by
  refine ⟨fun run => ⟨?_, LooseAnswer.eq⟩, ?_, ?_⟩
  · rintro rfl
    obtain ⟨run, h⟩ := looseAnswer_exists s m viewer action subject
    rwa [h.eq]
  · rintro p entity ⟨hv, a, type, ha, hs, hr⟩
    refine ⟨?_, fun h => h.invocations _ _ m⟩
    rw [(LooseAnswer.predicate hv ha hs hr rfl).eq]
    show (p, viewer, entity) :: Trace.invocations (_ ++ _) = _
    rw [Trace.invocations_append, invocations_told, List.append_nil]
  · intro hnone
    obtain ⟨run, h⟩ := looseAnswer_exists s m viewer action subject
    rw [h.eq]
    cases h with
    | predicate hv ha hs hr _ => exact absurd ⟨hv, _, _, ha, hs, hr⟩ (hnone _ _)
    | _ => rfl

theorem evaluateLoose_exact_null :
    let p : Predicate := ⟨0, fun viewer entity => .probe viewer entity (.finish (.ok true))⟩
    let s : Store := ⟨Table.empty.insert "post" "edit" (.predicate p)⟩
    let run := s.evaluateLoose none (some (.string "edit")) (some (.object (.single "post" .null))) Memory.fresh
    run.trace.invocations = [(p, none, some .null)] := by
  intro p s run
  have hfinds : s.Finds none (some (.string "edit")) (some (.object (.single "post" .null))) p (some .null) :=
    ⟨by decide, "edit", "post", rfl, .member "post" .null, rfl⟩
  obtain ⟨hrun, hnested⟩ := (evaluateLoose_exact s Memory.fresh _ _ _).2.1 p _ hfinds
  rw [show run.trace.invocations = _ from hrun, hnested (.probe _ _ (.finish _))]

end Store

end Permit
