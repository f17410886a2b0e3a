import Permit.Proofs.Store.History

/-!
# Loose arguments and their encodings

A loose subject that is accepted is the encoding of what it comes to, but for a list of one item, which comes to what the
object with that item as its member `0` comes to. Loose actions that are accepted are the encoding of what they come to;
of a list that is not, the first item that is no text is blamed, and the calls that change a store hand that blame on.
-/

namespace Permit

/-! ## Subjects -/

namespace Subject

variable {v : Option Json} {s : Subject} {type : String} {entity : Json}

theorem of_typeName (s : Subject) : of s.typeName s.value? = s := by
  cases s <;> rfl

theorem names_bare_iff : Names v type none ↔ v = some (.string type) := by
  constructor
  · intro h
    cases h
    rfl
  · rintro rfl
    exact .bare type

theorem names_entity_iff :
    Names v type (some entity) ↔ v = some (.object (.single type entity)) ∨ type = "0" ∧ v = some (.array [entity]) := by
  constructor
  · intro h
    cases h with
    | member => exact .inl rfl
    | item => exact .inr ⟨rfl, rfl⟩
  · rintro (rfl | ⟨rfl, rfl⟩)
    · exact .member type entity
    · exact .item entity

theorem decode_eq_ok_iff : decode v = .ok s ↔ Names v s.typeName s.value? := by
  constructor
  · intro h
    rcases decode_cases v with hk | ⟨n, hn, hne⟩ | ⟨type, entity, hnames⟩
    · rw [decode_of_typeless hk] at h
      cases h
    · rw [decode_of_members hn hne] at h
      cases h
    · rw [decode_of_names hnames] at h
      cases h
      rwa [typeName_of, value?_of]
  · intro h
    rw [decode_of_names h, of_typeName]

theorem decode_eq_bare_iff : decode v = .ok (.bare type) ↔ v = some (.string type) :=
  decode_eq_ok_iff.trans names_bare_iff

theorem decode_eq_entity_iff :
    decode v = .ok (.entity type entity) ↔
      v = some (.object (.single type entity)) ∨ type = "0" ∧ v = some (.array [entity]) :=
  decode_eq_ok_iff.trans names_entity_iff

theorem decode_eq_error_iff {refusal : Refusal} :
    decode v = .error refusal ↔
      (∃ n, members? v = some n ∧ n ≠ 1 ∧ refusal = .invalidShape n) ∨
        Kind.of v ∈ Kind.typeless ∧ refusal = .invalidArgument .subject (Kind.of v) := by
  constructor
  · intro h
    rcases decode_cases v with hk | ⟨n, hn, hne⟩ | ⟨type, entity, hnames⟩
    · rw [decode_of_typeless hk] at h
      cases h
      exact .inr ⟨hk, rfl⟩
    · rw [decode_of_members hn hne] at h
      cases h
      exact .inl ⟨n, hn, hne, rfl⟩
    · rw [decode_of_names hnames] at h
      cases h
  · rintro (⟨n, hn, hne, rfl⟩ | ⟨hk, rfl⟩)
    · exact decode_of_members hn hne
    · exact decode_of_typeless hk

/-- A list of one item, and an object with that item, or one related to it, as its member `0`. -/
def Twins (related : Json → Json → Prop) : Json → Json → Prop
  | .array [a], .object (.single type b) => type = "0" ∧ related a b
  | .object (.single type a), .array [b] => type = "0" ∧ related a b
  | _, _ => False

/-- The values that are accepted, with what they come to. -/
inductive Accepted : Json → Subject → Prop where
  | bare (type : String) : Accepted (.string type) (.bare type)
  | member (type : String) (entity : Json) : Accepted (.object (.single type entity)) (.entity type entity)
  | item (entity : Json) : Accepted (.array [entity]) (.entity "0" entity)

theorem accepted_of_decode {v : Json} (h : decode (some v) = .ok s) : Accepted v s := by
  cases s with
  | bare type =>
      obtain rfl := Option.some.inj (decode_eq_bare_iff.mp h)
      exact .bare type
  | entity type entity =>
      rcases decode_eq_entity_iff.mp h with hv | ⟨rfl, hv⟩
      · obtain rfl := Option.some.inj hv
        exact .member type entity
      · obtain rfl := Option.some.inj hv
        exact .item entity

theorem encode_of_decode {v : Json} (h : decode (some v) = .ok s) (hitem : ∀ item, v ≠ .array [item]) :
    s.encode = v := by
  cases accepted_of_decode h with
  | bare | member => rfl
  | item entity => exact absurd rfl (hitem entity)

/-- Besides itself an accepted value has at most its twin for company. -/
theorem decode_eq_decode_iff {v w : Json} (h : decode (some v) = .ok s) :
    decode (some w) = .ok s ↔ w = v ∨ Twins Eq v w := by
  have hv := accepted_of_decode h
  constructor
  · intro hw
    cases hv with
    | bare =>
        cases accepted_of_decode hw with
        | bare => exact .inl rfl
    | member =>
        cases accepted_of_decode hw with
        | member => exact .inl rfl
        | item => exact .inr ⟨rfl, rfl⟩
    | item =>
        cases accepted_of_decode hw with
        | member => exact .inr ⟨rfl, rfl⟩
        | item => exact .inl rfl
  · rintro (rfl | htwins)
    · exact h
    · unfold Twins at htwins
      split at htwins
      · obtain ⟨rfl, rfl⟩ := htwins
        exact h
      · obtain ⟨rfl, rfl⟩ := htwins
        exact h
      · exact htwins.elim

theorem same_iff_of_decode {v w : Json} {t : Subject} (hv : decode (some v) = .ok s) (hw : decode (some w) = .ok t) :
    s.same t = true ↔ v.same w = true ∨ Twins (fun a b => a.same b = true) v w := by
  cases accepted_of_decode hv with
  | bare name =>
      cases accepted_of_decode hw with
      | bare | member | item => simp [same, Json.same, Twins]
  | member type a =>
      cases accepted_of_decode hw with
      | bare | member | item => simp [same, Json.same, Json.sameMembers, Twins]
  | item a =>
      cases accepted_of_decode hw with
      | bare | item => simp [same, Json.same, Json.sameItems, Twins]
      | member type b => simp [same, Json.same, Twins, eq_comm (a := "0")]

/-- A subject is decoded to what it was encoded from, and each subject that can be decoded is the encoding of what it comes
to, or a list of one item. Such a list and the object with the item as its member `0` come to the same, and no other two
values do, whether values are told apart as they are written or as the rules compare them. What cannot be decoded holds
members, but not one, and is refused with their number, or it holds none and names nothing, and is refused for its kind. -/
theorem decode_fibres :
    (∀ s : Subject, decode (some s.encode) = .ok s) ∧
    (∀ v type, decode v = .ok (.bare type) ↔ v = some (.string type)) ∧
    (∀ v type entity, decode v = .ok (.entity type entity) ↔
      v = some (.object (.single type entity)) ∨ type = "0" ∧ v = some (.array [entity])) ∧
    (∀ v s, decode (some v) = .ok s → (∀ item, v ≠ .array [item]) → s.encode = v) ∧
    (∀ v w s, decode (some v) = .ok s → (decode (some w) = .ok s ↔ w = v ∨ Twins Eq v w)) ∧
    (∀ v w s t, decode (some v) = .ok s → decode (some w) = .ok t →
      (s.same t = true ↔ v.same w = true ∨ Twins (fun a b => a.same b = true) v w)) ∧
    (∀ v refusal, decode v = .error refusal ↔
      (∃ n, members? v = some n ∧ n ≠ 1 ∧ refusal = .invalidShape n) ∨
        Kind.of v ∈ Kind.typeless ∧ refusal = .invalidArgument .subject (Kind.of v)) :=
  ⟨decode_encode, fun _ _ => decode_eq_bare_iff, fun _ _ _ => decode_eq_entity_iff, fun _ _ => encode_of_decode,
    fun _ _ _ => decode_eq_decode_iff, fun _ _ _ _ => same_iff_of_decode, fun _ _ => decode_eq_error_iff⟩

/-- A list of null and an object with null under `0` are decoded alike, an object with an empty name is what it was
encoded from, and a list of two objects is refused with its length. -/
theorem decode_fibres_null :
    let list := Json.array [.null]
    let object := Json.object (.single "0" .null)
    let nested := Json.object (.single "" (.array [.object .nil]))
    decode (some list) = .ok (.entity "0" .null) ∧ decode (some object) = .ok (.entity "0" .null) ∧
    Twins Eq list object ∧ (Subject.entity "" (.array [.object .nil])).encode = nested ∧
    decode (some (.array [object, nested])) = .error (.invalidShape 2) := by
  intro list object nested
  obtain ⟨-, -, hentity, hencode, hfibre, -, herror⟩ := decode_fibres
  have hlist : decode (some list) = .ok (.entity "0" .null) := (hentity _ _ _).mpr (.inr ⟨rfl, rfl⟩)
  have hobject : decode (some object) = .ok (.entity "0" .null) := (hentity _ _ _).mpr (.inl rfl)
  have hne : object ≠ list := nofun
  refine ⟨hlist, hobject, ((hfibre list object _ hlist).mp hobject).resolve_left hne, ?_, ?_⟩
  · exact hencode nested _ ((hentity _ _ _).mpr (.inl rfl)) nofun
  · exact (herror _ _).mpr (.inl ⟨2, rfl, by decide, rfl⟩)

end Subject

/-! ## Actions -/

namespace Actions

variable {v : Option Json} {refusal : Refusal}

theorem decodeNames_eq_ok_iff {items : List Json} {names : List String} :
    decodeNames items = .ok names ↔ items = names.map .string := by
  constructor
  · intro h
    induction items generalizing names with
    | nil =>
        cases h
        rfl
    | cons item rest ih =>
        cases item with
        | string name =>
            cases hrest : decodeNames rest with
            | ok others =>
                simp only [decodeNames, hrest, Except.map, Except.ok.injEq] at h
                rw [← h, List.map_cons, ih hrest]
            | error => simp [decodeNames, hrest, Except.map] at h
        | _ => cases h
  · rintro rfl
    exact decodeNames_map names

/-- The first item that is not a text is blamed. -/
theorem decodeNames_eq_error_iff {items : List Json} :
    decodeNames items = .error refusal ↔
      ∃ (before : List String) (bad : Json) (after : List Json), items = before.map .string ++ bad :: after ∧
        Kind.of (some bad) ≠ .string ∧ refusal = .invalidArgument .actions (Kind.of (some bad)) := by
  constructor
  · intro h
    induction items with
    | nil => cases h
    | cons item rest ih =>
        cases item with
        | string name =>
            cases hrest : decodeNames rest with
            | ok => simp [decodeNames, hrest, Except.map] at h
            | error r =>
                simp only [decodeNames, hrest, Except.map, Except.error.injEq] at h
                obtain ⟨before, bad, after, rfl, hbad⟩ := ih (h ▸ hrest)
                exact ⟨name :: before, bad, after, rfl, hbad⟩
        | _ =>
            cases h
            exact ⟨[], _, rest, rfl, by simp [Kind.of], rfl⟩
  · rintro ⟨before, bad, after, rfl, hbad, rfl⟩
    induction before with
    | nil =>
        cases bad with
        | string => exact absurd rfl hbad
        | _ => rfl
    | cons name before ih => simp only [List.map_cons, List.cons_append, decodeNames, ih, Except.map]

theorem decode_eq_ok_iff {actions : Actions} : decode v = .ok actions ↔ v = some actions.encode := by
  constructor
  · intro h
    match v with
    | some (.string name) =>
        cases h
        rfl
    | some (.array items) =>
        cases hitems : decodeNames items with
        | ok names =>
            simp only [decode, hitems, Except.map, Except.ok.injEq] at h
            rw [← h, encode, decodeNames_eq_ok_iff.mp hitems]
        | error => simp [decode, hitems, Except.map] at h
    | none | some .null | some (.bool _) | some (.number _) | some (.object _) => cases h
  · rintro rfl
    exact decode_encode actions

theorem decode_array_eq_error_iff {items : List Json} :
    decode (some (.array items)) = .error refusal ↔ decodeNames items = .error refusal := by
  rw [decode]
  cases decodeNames items with
  | ok | error => simp [Except.map]

theorem decode_eq_error_iff :
    decode v = .error refusal ↔
      Kind.of v ≠ .string ∧ Kind.of v ≠ .array ∧ refusal = .invalidArgument .actions (Kind.of v) ∨
        ∃ (before : List String) (bad : Json) (after : List Json),
          v = some (.array (before.map .string ++ bad :: after)) ∧
            Kind.of (some bad) ≠ .string ∧ refusal = .invalidArgument .actions (Kind.of (some bad)) := by
  match v with
  | some (.array items) => 
      rw [decode_array_eq_error_iff, decodeNames_eq_error_iff]
      simp [Kind.of]
  | some (.string name) => simp [decode, Kind.of]
  | none | some .null | some (.bool _) | some (.number _) | some (.object _) => simp [decode, Kind.of, eq_comm]

end Actions

/-! ## Calls that change a store -/

namespace Store

variable {v : Option Json} {refusal : Refusal} {actions : Actions}

theorem changeArguments_eq (type : String) (v : Option Json) :
    changeArguments (some (.string type)) v = (Actions.decode v).map (type, ·) := by
  cases h : Actions.decode v with
  | ok | error => simp [changeArguments, Argument.text, h, bind, Except.bind, pure, Except.pure, Except.map]

theorem turn_defineLoose_of_error (h : Actions.decode v = .error refusal) (s : Store) (m : Memory) (type : String)
    (rule : Rule) :
    s.turn m (.defineLoose (some (.string type)) v rule) = (⟨.returned (.error refusal), []⟩, s, m) := by
  simp only [turn, perform, defineLoose, changeArguments_eq, h, Except.map]
  rfl

theorem turn_undefineLoose_of_error (h : Actions.decode v = .error refusal) (s : Store) (m : Memory) (type : String) :
    s.turn m (.undefineLoose (some (.string type)) v) = (⟨.returned (.error refusal), []⟩, s, m) := by
  simp only [turn, perform, undefineLoose, changeArguments_eq, h, Except.map]
  rfl

theorem turn_defineLoose_of_ok (h : Actions.decode v = .ok actions) (s : Store) (m : Memory) (type : String)
    (rule : Rule) :
    s.turn m (.defineLoose (some (.string type)) v rule) = s.turn m (.define type actions rule) := by
  refine turn_of_typed? ?_ s m
  simp only [Call.typed?, changeArguments_eq, h, Except.map]

theorem turn_undefineLoose_of_ok (h : Actions.decode v = .ok actions) (s : Store) (m : Memory) (type : String) :
    s.turn m (.undefineLoose (some (.string type)) v) = s.turn m (.undefine type actions) := by
  refine turn_of_typed? ?_ s m
  simp only [Call.typed?, changeArguments_eq, h, Except.map]

theorem turn_defineLoose_fails_iff {s : Store} {m : Memory} {type : String} {rule : Rule} :
    (s.turn m (.defineLoose (some (.string type)) v rule)).1.result = .returned (.error refusal) ↔
      Actions.decode v = .error refusal := by
  cases h : Actions.decode v with
  | ok actions =>
      rw [turn_defineLoose_of_ok h, turn_define]
      simp
  | error r =>
      rw [turn_defineLoose_of_error h]
      simp

theorem turn_undefineLoose_fails_iff {s : Store} {m : Memory} {type : String} :
    (s.turn m (.undefineLoose (some (.string type)) v)).1.result = .returned (.error refusal) ↔
      Actions.decode v = .error refusal ∨
        (∃ actions, Actions.decode v = .ok actions) ∧ s.knows type = false ∧ refusal = .unknownType type := by
  cases h : Actions.decode v with
  | ok actions =>
      rw [turn_undefineLoose_of_ok h, turn_undefine_result]
      cases hk : s.knows type with
      | true | false => simp [eq_comm]
  | error r =>
      rw [turn_undefineLoose_of_error h]
      simp

/-- Actions are decoded to what they were encoded from, and actions that can be decoded are the encoding of what they come
to. What cannot be decoded is neither a text nor a list, and is refused for its kind, or is a list, and is refused for the
kind of its first item that is no text. A definition for a named type fails exactly for this, with this refusal, and does
nothing then; a removal fails for this, in the same way, or for its type. -/
theorem changes_decode_actions :
    (∀ actions : Actions, Actions.decode (some actions.encode) = .ok actions) ∧
    (∀ v actions, Actions.decode v = .ok actions ↔ v = some actions.encode) ∧
    (∀ v refusal, Actions.decode v = .error refusal ↔
      Kind.of v ≠ .string ∧ Kind.of v ≠ .array ∧ refusal = .invalidArgument .actions (Kind.of v) ∨
        ∃ (before : List String) (bad : Json) (after : List Json),
          v = some (.array (before.map .string ++ bad :: after)) ∧
            Kind.of (some bad) ≠ .string ∧ refusal = .invalidArgument .actions (Kind.of (some bad))) ∧
    (∀ (s : Store) m type v rule,
      (∀ refusal, Actions.decode v = .error refusal →
        s.turn m (.defineLoose (some (.string type)) v rule) = (⟨.returned (.error refusal), []⟩, s, m) ∧
        s.turn m (.undefineLoose (some (.string type)) v) = (⟨.returned (.error refusal), []⟩, s, m)) ∧
      (∀ actions, Actions.decode v = .ok actions →
        (s.turn m (.defineLoose (some (.string type)) v rule)).1.result = .returned (.ok .changed) ∧
        (s.turn m (.undefineLoose (some (.string type)) v)).1.result =
          .returned (if s.knows type then .ok .changed else .error (.unknownType type))) ∧
      ∀ refusal,
        ((s.turn m (.defineLoose (some (.string type)) v rule)).1.result = .returned (.error refusal) ↔
          Actions.decode v = .error refusal) ∧
        ((s.turn m (.undefineLoose (some (.string type)) v)).1.result = .returned (.error refusal) ↔
          Actions.decode v = .error refusal ∨
            (∃ actions, Actions.decode v = .ok actions) ∧ s.knows type = false ∧ refusal = .unknownType type)) := by
  refine ⟨Actions.decode_encode, fun _ _ => Actions.decode_eq_ok_iff, fun _ _ => Actions.decode_eq_error_iff, ?_⟩
  intro s m type v rule
  refine ⟨fun refusal h => ?_, fun actions h => ?_, fun refusal => ?_⟩
  · exact ⟨turn_defineLoose_of_error h s m type rule, turn_undefineLoose_of_error h s m type⟩
  · rw [turn_defineLoose_of_ok h, turn_undefineLoose_of_ok h, turn_undefine_result]
    exact ⟨rfl, rfl⟩
  · exact ⟨turn_defineLoose_fails_iff, turn_undefineLoose_fails_iff⟩

/-- Of two items that are no texts the first is blamed, and nothing is defined of the names before it. -/
theorem changes_decode_actions_mixed :
    let mixed := some (Json.array [.string "edit", .null, .string "see", .bool true])
    let s : Store := ⟨Table.empty.insert "post" "see" .allow⟩
    Actions.decode mixed = .error (.invalidArgument .actions .null) ∧
    s.turn Memory.fresh (.defineLoose (some (.string "post")) mixed .allow) =
      (⟨.returned (.error (.invalidArgument .actions .null)), []⟩, s, Memory.fresh) ∧
    (s.turn Memory.fresh (.undefineLoose (some (.string "post")) (some (.array [])))).1.result =
      .returned (.ok .changed) := by
  intro mixed s
  obtain ⟨hencode, -, herror, hturn⟩ := changes_decode_actions
  have hmixed : Actions.decode mixed = .error (.invalidArgument .actions .null) :=
    (herror _ _).mpr (.inr ⟨["edit"], .null, [.string "see", .bool true], rfl, by decide, rfl⟩)
  obtain ⟨hblamed, -, -⟩ := hturn s Memory.fresh "post" mixed .allow
  obtain ⟨-, hdone, -⟩ := hturn s Memory.fresh "post" (some (.array [])) .allow
  exact ⟨hmixed, (hblamed _ hmixed).1, (hdone _ (hencode (.many []))).2⟩

/-- The actions of a removal that fails may be good: a type that is not known is refused for itself. -/
theorem undefineLoose_blames_type :
    let call := Call.undefineLoose (some (.string "ghost")) (some (.string "see"))
    (empty.turn Memory.fresh call).1.result = .returned (.error (.unknownType "ghost")) ∧
    Actions.decode (some (.string "see")) = .ok (.one "see") ∧
    ∀ actual, Refusal.unknownType "ghost" ≠ .invalidArgument .actions actual :=
  ⟨rfl, rfl, nofun⟩

end Store

end Permit
