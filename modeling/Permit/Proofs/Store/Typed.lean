import Permit.Proofs.Store.Run

/-!
# Loose calls and typed calls

A loose call with good arguments is the typed call on what its arguments come to. With a bad argument it is refused, and
nothing else happens.
-/

namespace Permit

/-- The refusals that blame the arguments of a call. -/
def Refusal.ofArguments : Refusal → Bool
  | .invalidArgument .. | .invalidShape _ => true
  | .unknownType _ | .rule _ => false

namespace Store

variable {s : Store} {m : Memory} {viewer action subject type actions : Option Json}

/-! ## Arguments -/

theorem checkArguments_eq_ok {a : String} {sub : Subject} :
    checkArguments viewer action subject = .ok (a, sub) ↔
      Argument.checkViewer viewer = .ok () ∧ action = some (.string a) ∧ Subject.decode subject = .ok sub := by
  have htext : Argument.action.text action = .ok a ↔ action = some (.string a) := by
    match action with
    | none => simp [Argument.text]
    | some j => cases j <;> simp [Argument.text]
  rw [← htext]
  cases hv : Argument.checkViewer viewer <;> cases ha : Argument.action.text action <;>
    cases hs : Subject.decode subject <;>
    simp [checkArguments, hv, ha, hs, bind, Except.bind, pure, Except.pure]

theorem checkArguments_of_viewer {refusal : Refusal} (h : Argument.checkViewer viewer = .error refusal) :
    checkArguments viewer action subject = .error refusal := by
  simp [checkArguments, h, bind, Except.bind]

theorem checkArguments_of_action {refusal : Refusal} (hv : Argument.checkViewer viewer = .ok ())
    (h : Argument.action.text action = .error refusal) : checkArguments viewer action subject = .error refusal := by
  simp [checkArguments, hv, h, bind, Except.bind]

theorem checkArguments_of_subject {refusal : Refusal} {a : String} (hv : Argument.checkViewer viewer = .ok ())
    (ha : action = some (.string a)) (h : Subject.decode subject = .error refusal) :
    checkArguments viewer action subject = .error refusal := by
  subst ha
  simp [checkArguments, hv, h, Argument.text, bind, Except.bind]

theorem checkArguments_error {refusal : Refusal} (h : checkArguments viewer action subject = .error refusal) :
    refusal.ofArguments = true := by
  rcases Argument.checkViewer_cases viewer with hv | hv
  · by_cases ha : Kind.of action = .string
    · obtain ⟨a, rfl⟩ := Kind.of_eq_string.mp ha
      rcases Subject.decode_cases subject with hk | ⟨n, hn, hne⟩ | ⟨t, e, hnames⟩
      · rw [checkArguments_of_subject hv rfl (Subject.decode_of_typeless hk)] at h
        cases h; rfl
      · rw [checkArguments_of_subject hv rfl (Subject.decode_of_members hn hne)] at h
        cases h; rfl
      · rw [checkArguments_eq_ok.mpr ⟨hv, rfl, Subject.decode_of_names hnames⟩] at h
        cases h
    · rw [checkArguments_of_action hv (Argument.text_of_kind ha)] at h
      cases h; rfl
  · rw [checkArguments_of_viewer hv] at h
    cases h; rfl

theorem decodeNames_error {items : List Json} {refusal : Refusal} (h : Actions.decodeNames items = .error refusal) :
    refusal.ofArguments = true := by
  induction items with
  | nil => simp [Actions.decodeNames] at h
  | cons item rest ih =>
      cases item with
      | string name =>
          cases hr : Actions.decodeNames rest with
          | ok names => simp [Actions.decodeNames, hr, Except.map] at h
          | error r =>
              simp only [Actions.decodeNames, hr, Except.map, Except.error.injEq] at h
              exact ih (h ▸ hr)
      | _ => simp only [Actions.decodeNames, Except.error.injEq] at h; subst h; rfl

theorem decode_actions_error {refusal : Refusal} (h : Actions.decode actions = .error refusal) :
    refusal.ofArguments = true := by
  match actions with
  | some (.string name) => simp [Actions.decode] at h
  | some (.array items) =>
      cases hr : Actions.decodeNames items with
      | ok names => simp [Actions.decode, hr, Except.map] at h
      | error r =>
          simp only [Actions.decode, hr, Except.map, Except.error.injEq] at h
          exact decodeNames_error (h ▸ hr)
  | none | some .null | some (.bool _) | some (.number _) | some (.object _) =>
      simp only [Actions.decode, Except.error.injEq] at h; subst h; rfl

theorem changeArguments_error {refusal : Refusal} (h : changeArguments type actions = .error refusal) :
    refusal.ofArguments = true := by
  cases ht : Argument.type.text type with
  | error r =>
      have hk : Kind.of type ≠ .string := by
        intro hk
        obtain ⟨t, rfl⟩ := Kind.of_eq_string.mp hk
        cases ht
      rw [Argument.text_of_kind hk] at ht
      cases ht
      simp only [changeArguments, Argument.text_of_kind hk, bind, Except.bind, Except.error.injEq] at h
      subst h; rfl
  | ok t =>
      cases ha : Actions.decode actions with
      | error r =>
          simp only [changeArguments, ht, ha, bind, Except.bind, Except.error.injEq] at h
          exact decode_actions_error (h ▸ ha)
      | ok a => simp [changeArguments, ht, ha, bind, Except.bind, pure, Except.pure] at h

end Store

/-! ## Calls -/

namespace Call

def loose : Call → Bool
  | .evaluateLoose .. | .defineLoose .. | .undefineLoose .. => true
  | .evaluate .. | .define .. | .undefine .. => false

/-- The typed call that a call comes to, if its arguments are what they have to be. -/
def typed? : Call → Option Call
  | .evaluateLoose viewer action subject =>
      match Store.checkArguments viewer action subject with
      | .ok (action, subject) => some (.evaluate viewer action subject)
      | .error _ => none
  | .defineLoose type actions rule =>
      match Store.changeArguments type actions with
      | .ok (type, actions) => some (.define type actions rule)
      | .error _ => none
  | .undefineLoose type actions =>
      match Store.changeArguments type actions with
      | .ok (type, actions) => some (.undefine type actions)
      | .error _ => none
  | c => some c

variable {c d : Call}

theorem loose_of_typed? (h : c.typed? = some d) : d.loose = false := by
  cases c with
  | evaluate | define | undefine => cases h; rfl
  | evaluateLoose viewer action subject =>
      simp only [typed?] at h
      split at h <;> cases h; rfl
  | defineLoose type actions rule | undefineLoose type actions =>
      simp only [typed?] at h
      split at h <;> cases h; rfl

theorem checkViewer_of_typed? {viewer : Option Json} {action : String} {subject : Subject} (hl : c.loose = true)
    (h : c.typed? = some (.evaluate viewer action subject)) : Argument.checkViewer viewer = .ok () := by
  cases c with
  | evaluate | define | undefine => cases hl
  | evaluateLoose viewer' action' subject' =>
      simp only [typed?] at h
      split at h <;> cases h
      exact (Store.checkArguments_eq_ok.mp ‹_›).1
  | defineLoose | undefineLoose =>
      simp only [typed?] at h
      split at h <;> cases h

end Call

namespace Store

variable {c d : Call}

/-- A loose call with good arguments does what the typed call does. -/
theorem turn_of_typed? (h : c.typed? = some d) (s : Store) (m : Memory) : s.turn m c = s.turn m d := by
  cases c with
  | evaluate | define | undefine => cases h; rfl
  | evaluateLoose viewer action subject =>
      simp only [Call.typed?] at h
      split at h
      · rename_i a sub hargs
        cases h
        obtain ⟨hv, -, -⟩ := checkArguments_eq_ok.mp hargs
        simp only [turn, perform, evaluateLoose, hargs, evaluate, Table.evaluate_of_accepted hv]
      · cases h
  | defineLoose type actions rule =>
      simp only [Call.typed?] at h
      split at h
      · rename_i t a hargs
        cases h
        simp only [turn, perform, defineLoose, hargs]; rfl
      · cases h
  | undefineLoose type actions =>
      simp only [Call.typed?] at h
      split at h
      · rename_i t a hargs
        cases h
        simp only [turn, perform, undefineLoose, hargs]
      · cases h

/-- A call with bad arguments gets the same refusal from every store. -/
theorem refused_of_not_typed (h : c.typed? = none) :
    ∃ refusal, refusal.ofArguments = true ∧ ∀ s m, turn s m c = (⟨.returned (.error refusal), []⟩, s, m) := by
  cases c with
  | evaluate | define | undefine => cases h
  | evaluateLoose viewer action subject =>
      simp only [Call.typed?] at h
      split at h
      · cases h
      · rename_i refusal hargs
        refine ⟨refusal, checkArguments_error hargs, fun s m => ?_⟩
        simp only [turn, perform, evaluateLoose, hargs]; rfl
  | defineLoose type actions rule =>
      simp only [Call.typed?] at h
      split at h
      · cases h
      · rename_i refusal hargs
        refine ⟨refusal, changeArguments_error hargs, fun s m => ?_⟩
        simp only [turn, perform, defineLoose, hargs]; rfl
  | undefineLoose type actions =>
      simp only [Call.typed?] at h
      split at h
      · cases h
      · rename_i refusal hargs
        refine ⟨refusal, changeArguments_error hargs, fun s m => ?_⟩
        simp only [turn, perform, undefineLoose, hargs]; rfl

theorem turn_of_not_typed (h : c.typed? = none) (s : Store) (m : Memory) :
    ∃ refusal, refusal.ofArguments = true ∧ s.turn m c = (⟨.returned (.error refusal), []⟩, s, m) := by
  obtain ⟨refusal, hargs, hturn⟩ := refused_of_not_typed h
  exact ⟨refusal, hargs, hturn s m⟩

/-- All that a call can come to. -/
inductive Turned (s : Store) (m : Memory) (c : Call) : Done × Store × Memory → Prop where
  | refused {refusal} (h : c.typed? = none) (hargs : refusal.ofArguments = true) :
      Turned s m c (⟨.returned (.error refusal), []⟩, s, m)
  | evaluated {viewer action subject} {run : Run Answer} (h : c.typed? = some (.evaluate viewer action subject))
      (hrun : s.evaluate viewer action subject m = run) :
      Turned s m c (⟨run.outcome.map (·.map .allowed), run.trace⟩, s, run.memory)
  | defined {type actions rule} (h : c.typed? = some (.define type actions rule)) :
      Turned s m c (⟨.returned (.ok .changed), [.emitted (.defining type actions.size rule.kind)]⟩,
        ⟨s.table.define type actions.names rule⟩, m)
  | unknown {type actions} (h : c.typed? = some (.undefine type actions)) (hk : s.knows type = false) :
      Turned s m c (⟨.returned (.error (.unknownType type)), [.emitted (.undefinedUnknown type)]⟩, s, m)
  | undefined {type actions t removed} (h : c.typed? = some (.undefine type actions))
      (hu : s.table.undefine? type actions.names = some (t, removed)) :
      Turned s m c (⟨.returned (.ok .changed), [.emitted (.undefined type removed actions.size)]⟩, ⟨t⟩, m)

theorem turned (s : Store) (m : Memory) (c : Call) : s.Turned m c (s.turn m c) := by
  cases htyped : c.typed? with
  | none =>
      obtain ⟨refusal, hargs, hturn⟩ := turn_of_not_typed htyped s m
      rw [hturn]
      exact .refused htyped hargs
  | some d =>
      rw [turn_of_typed? htyped]
      cases d with
      | evaluate viewer action subject =>
          rw [turn_evaluate]
          exact .evaluated htyped rfl
      | define type actions rule =>
          rw [turn_define]
          exact .defined htyped
      | undefine type actions =>
          cases hk : s.knows type with
          | false =>
              rw [turn_undefine_of_not_knows hk]
              exact .unknown htyped hk
          | true =>
              obtain ⟨t, removed, hu⟩ := undefine?_of_knows hk actions.names
              rw [turn_undefine_of_some hu]
              exact .undefined htyped hu
      | evaluateLoose | defineLoose | undefineLoose => cases Call.loose_of_typed? htyped

end Store

end Permit
