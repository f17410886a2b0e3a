import Permit.Proofs.Store.Loose

/-!
# What a check keeps to itself

Only a predicate looks into a viewer or an entity. What a check comes to and what it tells depend on the kinds of its
arguments, on the type and the action that they name, and on the answer of the predicate, and on nothing else in them.
-/

namespace Permit

/-- The two come to the same, and tell the same events. -/
def Run.LooksLike {α : Type} (r r' : Run α) : Prop := r.outcome = r'.outcome ∧ r.trace.events = r'.trace.events

/-- Loose subjects that differ only in what they hold, if they hold anything. -/
inductive Subject.Alike : Option Json → Option Json → Prop where
  | same {subject} (hobject : Kind.of subject ≠ .object) (harray : Kind.of subject ≠ .array) : Alike subject subject
  | named {subject subject' type entity entity'} (hkind : Kind.of subject = Kind.of subject')
      (h : Names subject type entity) (h' : Names subject' type entity') : Alike subject subject'
  | misshapen {subject subject' n} (h : members? subject = some n) (h' : members? subject' = some n) (hn : n ≠ 1) :
      Alike subject subject'

/-! ## Decisions -/

variable {viewer viewer' action subject subject' entity entity' : Option Json} {m m' : Memory}

theorem Predicate.events_invoke {p : Predicate} (h : (p.script viewer entity).Solitary) (ask : Asked) (m : Memory) :
    (p.invoke ask viewer entity m).trace.events = [] :=
  h.events ask p.cell m

/-- What a decision comes to and tells depends on the viewer and the entity only through what a predicate makes of them. -/
theorem Table.decide_looksLike {t : Table} {ask : Asked} {action : String} {subject subject' : Subject}
    (htype : subject'.typeName = subject.typeName)
    (hp : ∀ p, t.rule? subject.typeName action = some (.predicate p) →
      (p.invoke ask viewer subject.value? m).LooksLike (p.invoke ask viewer' subject'.value? m')) :
    (t.decide ask viewer action subject m).LooksLike (t.decide ask viewer' action subject' m') := by
  cases hr : t.rule? subject.typeName action with
  | none =>
      have hr' : t.rule? subject'.typeName action = none := by rw [htype, hr]
      cases hk : t.knows subject.typeName with
      | false =>
          have hk' : t.knows subject'.typeName = false := by rw [htype, hk]
          rw [decide_of_not_knows hk, decide_of_not_knows hk', htype]
          exact ⟨rfl, rfl⟩
      | true =>
          have hk' : t.knows subject'.typeName = true := by rw [htype, hk]
          rw [decide_of_missing hk hr, decide_of_missing hk' hr', htype]
          exact ⟨rfl, rfl⟩
  | some rule =>
      have hr' : t.rule? subject'.typeName action = some rule := by rw [htype, hr]
      have hrule : (rule.decide ask viewer subject.value? m).LooksLike (rule.decide ask viewer' subject'.value? m') := by
        cases rule with
        | allow | deny => exact ⟨rfl, rfl⟩
        | predicate p => exact hp p hr
      obtain ⟨houtcome, hevents⟩ := hrule
      rw [decide_of_rule hr, decide_of_rule hr', htype]
      refine ⟨congrArg (Outcome.map _) houtcome, ?_⟩
      simp only [Trace.events_append, houtcome, hevents]

namespace Store

/-! ## Arguments -/

/-- Alike arguments are refused with the same words, or name the same type. -/
theorem checkArguments_alike (hv : Kind.of viewer = Kind.of viewer') (hs : Subject.Alike subject subject') :
    (∃ refusal, checkArguments viewer action subject = .error refusal ∧
      checkArguments viewer' action subject' = .error refusal) ∨
    (Kind.of viewer ∉ Kind.scalars ∧ ∃ a type entity entity', action = some (.string a) ∧
      Subject.Names subject type entity ∧ Subject.Names subject' type entity') := by
  by_cases hscalar : Kind.of viewer ∈ Kind.scalars
  · have hbad := Argument.checkViewer_of_scalar hscalar
    have hbad' := Argument.checkViewer_of_scalar (hv ▸ hscalar)
    rw [← hv] at hbad'
    exact .inl ⟨_, checkArguments_of_viewer hbad, checkArguments_of_viewer hbad'⟩
  have hgood := Argument.checkViewer_eq_ok.mpr hscalar
  have hgood' := Argument.checkViewer_eq_ok.mpr (hv ▸ hscalar)
  by_cases ha : Kind.of action = .string
  · obtain ⟨a, ha⟩ := Kind.of_eq_string.mp ha
    cases hs with
    | same =>
        rcases Subject.decode_cases subject with hk | ⟨n, hn, hne⟩ | ⟨type, entity, hnames⟩
        · have hbad := Subject.decode_of_typeless hk
          exact .inl ⟨_, checkArguments_of_subject hgood ha hbad, checkArguments_of_subject hgood' ha hbad⟩
        · have hbad := Subject.decode_of_members hn hne
          exact .inl ⟨_, checkArguments_of_subject hgood ha hbad, checkArguments_of_subject hgood' ha hbad⟩
        · exact .inr ⟨hscalar, a, type, entity, entity, ha, hnames, hnames⟩
    | named _ hnames hnames' => exact .inr ⟨hscalar, a, _, _, _, ha, hnames, hnames'⟩
    | misshapen hn hn' hne =>
        exact .inl ⟨_, checkArguments_of_subject hgood ha (Subject.decode_of_members hn hne),
          checkArguments_of_subject hgood' ha (Subject.decode_of_members hn' hne)⟩
  · exact .inl ⟨_, checkArguments_of_action hgood (Argument.text_of_kind ha),
      checkArguments_of_action hgood' (Argument.text_of_kind ha)⟩

/-! ## Checks -/

/-- What a predicate answers when a check on the store comes to it. -/
def verdict (s : Store) (m : Memory) (p : Predicate) (viewer entity : Option Json) : Outcome (Except Failure Bool) :=
  (p.invoke (s.table.evaluate s.table.depth) viewer entity m).outcome

/-- Where both checks find a predicate, it checks nothing else and gives both the same answer. -/
def SameVerdict (s : Store) (m m' : Memory) (action viewer subject viewer' subject' : Option Json) : Prop :=
  ∀ p entity entity', s.Finds viewer action subject p entity → s.Finds viewer' action subject' p entity' →
    (p.script viewer entity).Solitary ∧ (p.script viewer' entity').Solitary ∧
      s.verdict m p viewer entity = s.verdict m' p viewer' entity'

theorem evaluateLoose_of_alike {s : Store} (hv : Kind.of viewer = Kind.of viewer') (hs : Subject.Alike subject subject')
    (hp : s.SameVerdict m m' action viewer subject viewer' subject') :
    (s.evaluateLoose viewer action subject m).LooksLike (s.evaluateLoose viewer' action subject' m') := by
  rcases checkArguments_alike hv hs with ⟨refusal, hbad, hbad'⟩ | ⟨hscalar, a, type, entity, entity', ha, hn, hn'⟩
  · rw [evaluateLoose_of_error hbad, evaluateLoose_of_error hbad']
    exact ⟨rfl, rfl⟩
  · have hscalar' : Kind.of viewer' ∉ Kind.scalars := hv ▸ hscalar
    rw [evaluateLoose_of_names hscalar ha hn, evaluateLoose_of_names hscalar' ha hn']
    refine Table.decide_looksLike (by rw [Subject.typeName_of, Subject.typeName_of]) fun p hrule => ?_
    rw [Subject.typeName_of] at hrule
    rw [Subject.value?_of, Subject.value?_of]
    obtain ⟨hsolitary, hsolitary', hverdict⟩ :=
      hp p entity entity' ⟨hscalar, a, type, ha, hn, hrule⟩ ⟨hscalar', a, type, ha, hn', hrule⟩
    refine ⟨hverdict, ?_⟩
    rw [Predicate.events_invoke hsolitary, Predicate.events_invoke hsolitary']

theorem evaluate_of_not_predicate {s : Store} {action : String} {subject subject' : Subject}
    (hv : Kind.of viewer ∉ Kind.scalars) (hv' : Kind.of viewer' ∉ Kind.scalars)
    (htype : subject'.typeName = subject.typeName) (hp : ∀ p, s.rule? subject.typeName action ≠ some (.predicate p)) :
    (s.evaluate viewer action subject m).LooksLike (s.evaluate viewer' action subject' m') := by
  rw [evaluate, Table.evaluate_of_accepted (Argument.checkViewer_eq_ok.mpr hv),
    Table.evaluate_of_accepted (Argument.checkViewer_eq_ok.mpr hv')]
  exact Table.decide_looksLike htype fun p hrule => absurd hrule (hp p)

theorem evaluateLoose_eq_evaluate {s : Store} {type a : String} (hv : Kind.of viewer ∉ Kind.scalars)
    (hn : Subject.Names subject type entity) :
    s.evaluateLoose viewer (some (.string a)) subject = s.evaluate viewer a (.of type entity) := by
  rw [evaluateLoose_of_names hv rfl hn, evaluate, Table.evaluate_of_accepted (Argument.checkViewer_eq_ok.mpr hv)]

/-- Two loose checks for one action whose viewers are of one kind and whose subjects are alike look alike, if a predicate
that they come to answers both the same. Where no predicate stands, the viewers may be any that are accepted, and the
subjects any of one type. -/
theorem evaluateLoose_discreet (s : Store) (m m' : Memory) :
    (∀ viewer viewer' action subject subject' : Option Json, Kind.of viewer = Kind.of viewer' →
      Subject.Alike subject subject' → s.SameVerdict m m' action viewer subject viewer' subject' →
      (s.evaluateLoose viewer action subject m).LooksLike (s.evaluateLoose viewer' action subject' m')) ∧
    (∀ (viewer viewer' : Option Json) (type a : String), Kind.of viewer ∉ Kind.scalars → Kind.of viewer' ∉ Kind.scalars →
      (∀ p, s.rule? type a ≠ some (.predicate p)) →
      (∀ subject subject' entity entity', Subject.Names subject type entity → Subject.Names subject' type entity' →
        (s.evaluateLoose viewer (some (.string a)) subject m).LooksLike
          (s.evaluateLoose viewer' (some (.string a)) subject' m')) ∧
      (∀ subject subject' : Subject, subject.typeName = type → subject'.typeName = type →
        (s.evaluate viewer a subject m).LooksLike (s.evaluate viewer' a subject' m'))) := by
  refine ⟨fun viewer viewer' action subject subject' hv hs hp => evaluateLoose_of_alike hv hs hp, ?_⟩
  intro viewer viewer' type a hv hv' hp
  refine ⟨fun subject subject' entity entity' hn hn' => ?_, fun subject subject' ht ht' => ?_⟩
  · rw [evaluateLoose_eq_evaluate hv hn, evaluateLoose_eq_evaluate hv' hn']
    refine evaluate_of_not_predicate hv hv' (by rw [Subject.typeName_of, Subject.typeName_of]) ?_
    rwa [Subject.typeName_of]
  · exact evaluate_of_not_predicate hv hv' (ht'.trans ht.symm) (ht ▸ hp)

/-- The viewers and the entities differ, and the predicate sees that, but it answers both the same. For an action without
a rule not even the kind of the viewer tells. -/
theorem evaluateLoose_discreet_post :
    let p : Predicate := ⟨0, fun viewer entity => .probe viewer entity (.finish (.ok viewer.isSome))⟩
    let s : Store := ⟨Table.empty.insert "post" "edit" (.predicate p)⟩
    let viewer := some (Json.object (.single "id" (.string "a")))
    let viewer' := some (Json.object (.single "id" (.string "b")))
    let subject := some (Json.object (.single "post" (.string "draft")))
    let subject' := some (Json.object (.single "post" .null))
    let edit := some (Json.string "edit")
    Kind.of viewer = Kind.of viewer' ∧ Subject.Alike subject subject' ∧
    s.SameVerdict Memory.fresh Memory.fresh edit viewer subject viewer' subject' ∧
    (s.evaluateLoose viewer edit subject Memory.fresh).LooksLike
      (s.evaluateLoose viewer' edit subject' Memory.fresh) ∧
    (∀ p, s.rule? "post" "see" ≠ some (.predicate p)) ∧
    (s.evaluate none "see" (.bare "post") Memory.fresh).LooksLike
      (s.evaluate viewer "see" (.entity "post" .null) Memory.fresh) := by
  intro p s viewer viewer' subject subject' edit
  have hs : Subject.Alike subject subject' := .named rfl (.member "post" (.string "draft")) (.member "post" .null)
  have hp : s.SameVerdict Memory.fresh Memory.fresh edit viewer subject viewer' subject' := by
    rintro q e e' ⟨-, a, type, ha, hn, hrule⟩ -
    change some (Json.string "edit") = some (.string a) at ha
    change Subject.Names (some (.object (.single "post" (.string "draft")))) type e at hn
    cases ha
    cases hn
    change some (Rule.predicate p) = some (.predicate q) at hrule
    obtain rfl : p = q := by simpa using hrule
    exact ⟨.probe _ _ (.finish _), .probe _ _ (.finish _), rfl⟩
  have hsee : ∀ p, s.rule? "post" "see" ≠ some (.predicate p) := fun q hq => by cases hq
  obtain ⟨halike, hfree⟩ := evaluateLoose_discreet s Memory.fresh Memory.fresh
  exact ⟨rfl, hs, hp, halike viewer viewer' edit subject subject' rfl hs hp, hsee,
    (hfree none viewer "post" "see" (by decide) (by decide) hsee).2 (.bare "post") (.entity "post" .null) rfl rfl⟩

end Store

end Permit
