import Permit.Blog
import Permit.Proofs.Json.Path
import Permit.Proofs.Store.History
import Permit.Proofs.Store.Purge

/-!
# What the blog allows

Every answer of the blog, and which of them change when its rule for authors is copied to other actions and removed from
them again. Authorship is a comparison of two properties, and what is missing compares as null: so besides the author a
viewer without an identity passes for the author of what has none.
-/

namespace Permit

/-! ## Stores that find the same rule -/

namespace Store

variable {viewer : Option Json} {action action' : String} {subject : Subject}

/-- What a check comes to. -/
def answer (s : Store) (m : Memory) (viewer : Option Json) (action : String) (subject : Subject) : Outcome Answer :=
  (s.evaluate viewer action subject m).outcome

theorem answer_of_accepted (hv : Argument.checkViewer viewer = .ok ()) (s : Store) (action : String) (subject : Subject)
    (m : Memory) :
    s.answer m viewer action subject =
      if s.knows subject.typeName then
        match s.rule? subject.typeName action with
        | none => .returned (.ok false)
        | some rule => s.ruleAnswer m rule viewer subject.value?
      else .returned (.error (.unknownType subject.typeName)) := by
  rw [answer, evaluate, Table.evaluate_of_accepted hv]
  exact Table.decide_outcome _ _ _ _ _ _

/-- What a check comes to depends on the store only through the rule that it finds, if this rule is self-contained. -/
theorem answer_congr {s s' : Store} (hk : s.knows subject.typeName = s'.knows subject.typeName)
    (hr : s.rule? subject.typeName action = s'.rule? subject.typeName action')
    (hrule : ∀ rule, s.rule? subject.typeName action = some rule → rule.SelfContained) (viewer : Option Json)
    (m : Memory) :
    s.answer m viewer action subject = s'.answer m viewer action' subject := by
  rcases Argument.checkViewer_cases viewer with hv | hv
  · rw [answer_of_accepted hv, answer_of_accepted hv, hk, hr]
    cases hfound : s'.rule? subject.typeName action' with
    | none => rfl
    | some rule =>
        have hself : rule.SelfContained := hrule rule (hr.trans hfound)
        simp only [ruleAnswer, hself.decide_eq (s.table.evaluate s.table.depth) (s'.table.evaluate s'.table.depth)]
  · rw [answer, answer, evaluate, evaluate, Table.evaluate_of_refused hv, Table.evaluate_of_refused hv]

end Store

namespace Blog

open Json (Nothing)

def store : Store := ⟨table⟩

/-- What a value holds under a name; null if it has no such member. -/
def held (x : Option Json) (name : String) : Json := (x.bind (Json.get? name)).getD .null

/-- The answers of the blog to viewers that are accepted. -/
inductive Verdict (viewer : Option Json) : String → Subject → Answer → Prop where
  | unknown {action : String} {subject : Subject} (htype : subject.typeName ≠ "post") :
      Verdict viewer action subject (.error (.unknownType subject.typeName))
  | see {subject : Subject} (htype : subject.typeName = "post") : Verdict viewer "see" subject (.ok true)
  | other {action : String} {subject : Subject} (htype : subject.typeName = "post")
      (haction : action ∉ ["see", "edit", "create"]) : Verdict viewer action subject (.ok false)
  | createNobody {subject : Subject} (htype : subject.typeName = "post") (hviewer : Nothing viewer) :
      Verdict viewer "create" subject (.error (.rule (.unreadable ⟨"id", Kind.of viewer⟩)))
  | create {subject : Subject} (htype : subject.typeName = "post") (hviewer : ¬ Nothing viewer) :
      Verdict viewer "create" subject (.ok (held viewer "id").truthy)
  | editNobody {subject : Subject} (htype : subject.typeName = "post") (hviewer : Nothing viewer) :
      Verdict viewer "edit" subject (.error (.rule (.unreadable ⟨"id", Kind.of viewer⟩)))
  | editBare (hviewer : ¬ Nothing viewer) :
      Verdict viewer "edit" (.bare "post") (.error (.rule (.unreadable ⟨"authorId", .undefined⟩)))
  | editNull (hviewer : ¬ Nothing viewer) :
      Verdict viewer "edit" (.entity "post" .null) (.error (.rule (.unreadable ⟨"authorId", .null⟩)))
  | edit {entity : Json} (hviewer : ¬ Nothing viewer) (hentity : entity ≠ .null) :
      Verdict viewer "edit" (.entity "post" entity) (.ok ((held viewer "id").same (held (some entity) "authorId")))

variable {viewer : Option Json} {action : String} {subject : Subject} {answer : Answer} {m : Memory} {xs : Actions}

/-! ## The rules -/

theorem property_eq_held {x : Option Json} (h : ¬ Nothing x) (name : String) :
    Json.property x name = .ok (held x name) := by
  obtain ⟨value, rfl, hvalue⟩ := Json.not_nothing_iff.mp h
  exact Json.property_of_ne_null hvalue name

theorem knows_store (type : String) : store.knows type = ("post" == type) := by
  have hempty : Table.empty.knows type = false := rfl
  simp [store, Store.knows, table, Table.build, Table.step, Table.insert, Table.knows_setRow, hempty]

theorem rule?_store (action : String) :
    store.rule? "post" action =
      if "see" = action then some .allow else if "create" = action then some createRule
      else if "edit" = action then some editRule else none := by
  have hempty : Table.empty.rule? "post" action = none := rfl
  simp only [store, Store.rule?, table, Table.build, Table.step, List.foldl_cons, List.foldl_nil, Table.rule?_insert,
    hempty, true_and]

theorem rule?_store_of_not_mem (h : action ∉ ["see", "edit", "create"]) : store.rule? "post" action = none := by
  simp only [List.mem_cons, List.not_mem_nil, or_false, not_or] at h
  obtain ⟨hsee, hedit, hcreate⟩ := h
  rw [rule?_store, if_neg (Ne.symm hsee), if_neg (Ne.symm hcreate), if_neg (Ne.symm hedit)]

/-- The rules of the blog look at nothing but the viewer and the entity. -/
theorem selfContained_store (type action : String) (rule : Rule) (h : store.rule? type action = some rule) :
    rule.SelfContained := by
  have hknown : store.knows type = true := Table.knows_of_rule? h
  obtain rfl := beq_iff_eq.mp ((knows_store type).symm.trans hknown)
  have hedit : editRule.SelfContained := fun _ _ => ⟨.finish _, .finish _⟩
  have hcreate : createRule.SelfContained := fun _ _ => ⟨.finish _, .finish _⟩
  rw [rule?_store] at h
  split at h
  · cases h
    trivial
  · split at h
    · cases h
      exact hcreate
    · split at h
      · cases h
        exact hedit
      · cases h

theorem ruleAnswer_create (s : Store) (m : Memory) (viewer entity : Option Json) :
    s.ruleAnswer m createRule viewer entity =
      .returned (((Json.property viewer "id").map Json.truthy).mapError fun read => .rule (.unreadable read)) := by
  have hdecide : (createRule.decide (s.table.evaluate s.table.depth) viewer entity m).outcome =
      .returned (Condition.tested (((Json.property viewer "id").map some).map fun v => (v.map Json.truthy).getD false)) :=
    rfl
  rw [Store.ruleAnswer, hdecide]
  cases Json.property viewer "id" with
  | error read => rfl
  | ok id => rfl

theorem ruleAnswer_edit (s : Store) (m : Memory) (viewer entity : Option Json) :
    s.ruleAnswer m editRule viewer entity =
      .returned ((do
        let id ← Json.property viewer "id"
        let author ← Json.property entity "authorId"
        return id.same author).mapError fun read => .rule (.unreadable read)) := by
  have hdecide : (editRule.decide (s.table.evaluate s.table.depth) viewer entity m).outcome =
      .returned (Condition.tested do
        let id ← (Json.property viewer "id").map some
        let author ← (Json.property entity "authorId").map some
        return Json.sameOptional id author) :=
    rfl
  rw [Store.ruleAnswer, hdecide]
  cases Json.property viewer "id" with
  | error read => rfl
  | ok id =>
      cases Json.property entity "authorId" with
      | error read => rfl
      | ok author => rfl

/-! ## Answers -/

theorem answer_post (hv : Kind.of viewer ∉ Kind.scalars) (htype : subject.typeName = "post") (action : String)
    (m : Memory) :
    store.answer m viewer action subject =
      match store.rule? "post" action with
      | none => .returned (.ok false)
      | some rule => store.ruleAnswer m rule viewer subject.value? := by
  rw [Store.answer_of_accepted (Argument.checkViewer_eq_ok.mpr hv), htype, knows_store, beq_self_eq_true, if_pos rfl]

theorem answer_create (hv : Kind.of viewer ∉ Kind.scalars) (htype : subject.typeName = "post") (m : Memory) :
    store.answer m viewer "create" subject =
      .returned (((Json.property viewer "id").map Json.truthy).mapError fun read => .rule (.unreadable read)) :=
  (answer_post hv htype "create" m).trans (ruleAnswer_create store m viewer subject.value?)

theorem answer_edit (hv : Kind.of viewer ∉ Kind.scalars) (htype : subject.typeName = "post") (m : Memory) :
    store.answer m viewer "edit" subject =
      .returned ((do
        let id ← Json.property viewer "id"
        let author ← Json.property subject.value? "authorId"
        return id.same author).mapError fun read => .rule (.unreadable read)) :=
  (answer_post hv htype "edit" m).trans (ruleAnswer_edit store m viewer subject.value?)

theorem Verdict.answer_eq (h : Verdict viewer action subject answer) (hv : Kind.of viewer ∉ Kind.scalars) (m : Memory) :
    store.answer m viewer action subject = .returned answer := by
  cases h with
  | unknown htype =>
      have hunknown : store.knows subject.typeName = false :=
        (knows_store _).trans (beq_eq_false_iff_ne.mpr (Ne.symm htype))
      rw [Store.answer_of_accepted (Argument.checkViewer_eq_ok.mpr hv), hunknown]
      rfl
  | see htype => exact answer_post hv htype "see" m
  | other htype haction =>
      rw [answer_post hv htype, rule?_store_of_not_mem haction]
  | createNobody htype hviewer => rw [answer_create hv htype, Json.property_of_nothing hviewer]; rfl
  | create htype hviewer => rw [answer_create hv htype, property_eq_held hviewer]; rfl
  | editNobody htype hviewer => rw [answer_edit hv htype, Json.property_of_nothing hviewer]; rfl
  | editBare hviewer | editNull hviewer => rw [answer_edit hv rfl, property_eq_held hviewer]; rfl
  | @edit entity hviewer hentity =>
      have hauthor : Json.property (Subject.entity "post" entity).value? "authorId" = .ok (held (some entity) "authorId") :=
        property_eq_held (Json.not_nothing_iff.mpr ⟨entity, rfl, hentity⟩) "authorId"
      rw [answer_edit hv rfl, property_eq_held hviewer, hauthor]
      rfl

theorem exists_verdict (viewer : Option Json) (action : String) (subject : Subject) :
    ∃ answer, Verdict viewer action subject answer := by
  by_cases htype : subject.typeName = "post"
  · by_cases haction : action ∈ ["see", "edit", "create"]
    · rw [List.mem_cons, List.mem_cons, List.mem_singleton] at haction
      by_cases hviewer : Nothing viewer
      · rcases haction with rfl | rfl | rfl
        · exact ⟨_, .see htype⟩
        · exact ⟨_, .editNobody htype hviewer⟩
        · exact ⟨_, .createNobody htype hviewer⟩
      · rcases haction with rfl | rfl | rfl
        · exact ⟨_, .see htype⟩
        · cases subject with
          | bare type =>
              obtain rfl := htype
              exact ⟨_, .editBare hviewer⟩
          | entity type entity =>
              obtain rfl := htype
              by_cases hentity : entity = .null
              · subst hentity
                exact ⟨_, .editNull hviewer⟩
              · exact ⟨_, .edit hviewer hentity⟩
        · exact ⟨_, .create htype hviewer⟩
    · exact ⟨_, .other htype haction⟩
  · exact ⟨_, .unknown htype⟩

theorem answer_eq_iff (hv : Kind.of viewer ∉ Kind.scalars) :
    store.answer m viewer action subject = .returned answer ↔ Verdict viewer action subject answer := by
  constructor
  · intro h
    obtain ⟨other, hother⟩ := exists_verdict viewer action subject
    have hsame := hother.answer_eq hv m
    rw [h] at hsame
    cases hsame
    exact hother
  · intro h
    exact h.answer_eq hv m

/-! ## Authors -/

/-- The viewer is an object with an identity, the entity an object with an author, and the two are equal. -/
def Owns (viewer entity : Option Json) : Prop :=
  ∃ (v e : Dictionary Json) (id author : Json), viewer = some (.object v) ∧ entity = some (.object e) ∧
    v.get? "id" = some id ∧ e.get? "authorId" = some author ∧ id ≠ .null ∧ author ≠ .null ∧ id.same author = true

/-- There are a viewer and an entity, but the viewer has no identity and the entity no author. -/
def Ownerless (viewer entity : Option Json) : Prop :=
  Kind.of viewer ∈ [.array, .object] ∧ ¬ Nothing entity ∧ held viewer "id" = .null ∧ held entity "authorId" = .null

theorem held_ne_null {x : Option Json} {name : String} (h : held x name ≠ .null) :
    ∃ members : Dictionary Json, x = some (.object members) ∧ members.get? name = some (held x name) := by
  cases hget : x.bind (Json.get? name) with
  | none =>
      rw [held, hget] at h
      exact absurd rfl h
  | some value =>
      have hheld : held x name = value := by
        rw [held, hget]
        rfl
      obtain ⟨json, rfl, hjson⟩ := Option.bind_eq_some_iff.mp hget
      cases json with
      | object members => exact ⟨members, rfl, hjson.trans (congrArg some hheld.symm)⟩
      | _ => cases hjson

/-- Only null is the same as null. -/
theorem same_null {a b : Json} (h : a.same b = true) : a = .null ↔ b = .null := by
  constructor
  · rintro rfl
    cases b with
    | null => rfl
    | _ => cases h
  · rintro rfl
    cases a with
    | null => rfl
    | _ => cases h

/-- The viewers that are accepted and are something. -/
theorem kind_of_viewer_iff : Kind.of viewer ∈ [.array, .object] ↔ Kind.of viewer ∉ Kind.scalars ∧ ¬ Nothing viewer := by
  match viewer with
  | none => simp [Kind.of, Nothing]
  | some json => cases json <;> simp [Kind.of, Kind.scalars, Nothing]

theorem answer_edit_iff (htype : subject.typeName = "post") :
    store.answer m viewer "edit" subject = .returned (.ok true) ↔
      Kind.of viewer ∈ [.array, .object] ∧ ¬ Nothing subject.value? ∧
        (held viewer "id").same (held subject.value? "authorId") = true := by
  rw [kind_of_viewer_iff]
  by_cases hscalar : Kind.of viewer ∈ Kind.scalars
  · have hrefused := Table.evaluate_of_refused (Argument.checkViewer_of_scalar hscalar)
    rw [Store.answer, Store.evaluate, hrefused]
    exact iff_of_false (fun h => by cases h) fun h => h.1.1 hscalar
  rw [answer_edit hscalar htype]
  by_cases hviewer : Nothing viewer
  · rw [Json.property_of_nothing hviewer]
    exact iff_of_false (fun h => by cases h) fun h => h.1.2 hviewer
  rw [property_eq_held hviewer]
  by_cases hentity : Nothing subject.value?
  · rw [Json.property_of_nothing hentity]
    exact iff_of_false (fun h => by cases h) fun h => h.2.1 hentity
  rw [property_eq_held hentity]
  constructor
  · intro h
    injection h with h
    injection h with h
    exact ⟨⟨hscalar, hviewer⟩, hentity, h⟩
  · rintro ⟨-, -, h⟩
    exact congrArg (fun same => Outcome.returned (Except.ok same)) h

theorem owns_or_ownerless_iff {entity : Option Json} :
    Owns viewer entity ∨ Ownerless viewer entity ↔
      Kind.of viewer ∈ [.array, .object] ∧ ¬ Nothing entity ∧
        (held viewer "id").same (held entity "authorId") = true := by
  constructor
  · rintro (⟨v, e, id, author, rfl, rfl, hid, hauthor, -, -, hsame⟩ | ⟨hviewer, hentity, hid, hauthor⟩)
    · refine ⟨by simp [Kind.of], by simp [Nothing], ?_⟩
      simpa [held, Json.get?, hid, hauthor] using hsame
    · rw [hid, hauthor]
      exact ⟨hviewer, hentity, rfl⟩
  · rintro ⟨hviewer, hentity, hsame⟩
    by_cases hid : held viewer "id" = .null
    · exact .inr ⟨hviewer, hentity, hid, (same_null hsame).mp hid⟩
    · have hauthor : held entity "authorId" ≠ .null := mt (same_null hsame).mpr hid
      obtain ⟨v, rfl, hv⟩ := held_ne_null hid
      obtain ⟨e, rfl, he⟩ := held_ne_null hauthor
      exact .inl ⟨v, e, _, _, rfl, rfl, hv, he, hid, hauthor, hsame⟩

theorem Owns.not_ownerless {entity : Option Json} (h : Owns viewer entity) : ¬ Ownerless viewer entity := by
  obtain ⟨v, e, id, author, rfl, rfl, hid, -, hne, -, -⟩ := h
  rintro ⟨-, -, hnull, -⟩
  rw [held, Option.bind_some, Json.get?, hid] at hnull
  exact hne hnull

/-- Who may edit a post: its author, and where nobody is its author every viewer without an identity. So where the viewer
has an identity or the post an author, it is the author alone. -/
theorem edit_allows_iff (m : Memory) (viewer : Option Json) (subject : Subject) (htype : subject.typeName = "post") :
    (store.answer m viewer "edit" subject = .returned (.ok true) ↔
      Owns viewer subject.value? ∨ Ownerless viewer subject.value?) ∧
    (held viewer "id" ≠ .null ∨ held subject.value? "authorId" ≠ .null →
      (store.answer m viewer "edit" subject = .returned (.ok true) ↔ Owns viewer subject.value?)) ∧
    ¬ (Owns viewer subject.value? ∧ Ownerless viewer subject.value?) := by
  have hiff : store.answer m viewer "edit" subject = .returned (.ok true) ↔
      Owns viewer subject.value? ∨ Ownerless viewer subject.value? :=
    (answer_edit_iff htype).trans owns_or_ownerless_iff.symm
  refine ⟨hiff, fun hsome => ?_, fun h => h.1.not_ownerless h.2⟩
  have hnot : ¬ Ownerless viewer subject.value? := by
    rintro ⟨-, -, hid, hauthor⟩
    exact hsome.elim (absurd hid) (absurd hauthor)
  rw [hiff, or_iff_left hnot]

/-- The author of a post, as its identity says. -/
theorem edit_allows_iff_author :
    post.typeName = "post" ∧ store.answer Memory.fresh (some author) "edit" post = .returned (.ok true) ∧
    store.answer Memory.fresh (some stranger) "edit" post ≠ .returned (.ok true) := by
  have hauthor : Owns (some author) post.value? :=
    ⟨_, _, .ofNat 2, .ofNat 2, rfl, rfl, rfl, rfl, nofun, nofun, rfl⟩
  refine ⟨rfl, (edit_allows_iff Memory.fresh (some author) post rfl).1.mpr (.inl hauthor), ?_⟩
  have hstranger : held (some stranger) "id" ≠ .null := nofun
  intro h
  obtain ⟨v, e, id, author, hv, he, hid, hauthor, -, -, hsame⟩ :=
    ((edit_allows_iff Memory.fresh (some stranger) post rfl).2.1 (.inl hstranger)).mp h
  cases hv
  cases he
  cases hid
  cases hauthor
  cases hsame

/-- A viewer whose identity is null may edit a post without an author: what is missing compares as null. -/
theorem edit_allows_nobody :
    store.answer Memory.fresh (some (.object (.single "id" .null))) "edit" (.entity "post" (.object .nil)) =
      .returned (.ok true) ∧
    ¬ Owns (some (.object (.single "id" .null))) (some (.object .nil)) := by
  refine ⟨rfl, ?_⟩
  rintro ⟨v, e, id, author, hv, -, hid, -, hne, -⟩
  cases hv
  cases hid
  exact hne rfl

/-! ## The rule for authors, copied -/

/-- The blog after the actions have got a copy of the rule for authors. -/
def copied (m : Memory) (xs : Actions) : Done × Store × Memory :=
  store.turn m (.define "post" xs ((store.rule? "post" "edit").getD .deny))

/-- The blog after the rules of these actions have been removed again. -/
def removed (m : Memory) (xs : Actions) : Done × Store × Memory :=
  (copied m xs).2.1.turn (copied m xs).2.2 (.undefine "post" xs)

theorem rule?_copied (m : Memory) (xs : Actions) (type action : String) :
    (copied m xs).2.1.rule? type action =
      if "post" = type ∧ action ∈ xs.names then some editRule else store.rule? type action :=
  Table.rule?_define store.table "post" type action xs.names editRule

theorem knows_copied (m : Memory) (xs : Actions) (type : String) :
    (copied m xs).2.1.knows type = store.knows type := by
  have hdefined : (copied m xs).2.1.knows type = ("post" == type || store.knows type) :=
    Table.knows_define store.table "post" type xs.names editRule
  rw [hdefined, knows_store, Bool.or_self]

theorem removed_result (m : Memory) (xs : Actions) : (removed m xs).1.result = .returned (.ok .changed) := by
  rw [removed, Store.turn_undefine_result, knows_copied, knows_store]
  rfl

theorem knows_removed (m : Memory) (xs : Actions) (type : String) :
    (removed m xs).2.1.knows type = store.knows type := by
  rw [removed, Store.knows_turn, knows_copied]
  exact Bool.or_false _

theorem rule?_removed (m : Memory) (xs : Actions) (type action : String) :
    (removed m xs).2.1.rule? type action =
      if "post" = type ∧ action ∈ xs.names then none else store.rule? type action := by
  have hcall : (Call.undefine "post" xs).says? type action =
      if "post" = type ∧ action ∈ xs.names then some none else none := rfl
  rw [removed, Store.rule?_turn, hcall, rule?_copied]
  split
  · rfl
  · rfl

/-- A store that finds for a check the rule that the blog finds for another one gives it the same answer. -/
theorem answer_eq_of_rule? {s : Store} {action' : String} (hk : s.knows subject.typeName = store.knows subject.typeName)
    (hr : s.rule? subject.typeName action = store.rule? subject.typeName action') (viewer : Option Json) (m : Memory) :
    s.answer m viewer action subject = store.answer m viewer action' subject :=
  (Store.answer_congr hk.symm hr.symm (selfContained_store _ _) viewer m).symm

theorem answer_copied (htype : subject.typeName = "post") (haction : action ∈ xs.names) (viewer : Option Json)
    (m : Memory) :
    (copied m xs).2.1.answer m viewer action subject = store.answer m viewer "edit" subject := by
  refine answer_eq_of_rule? (knows_copied m xs _) ?_ viewer m
  rw [rule?_copied, htype, if_pos ⟨rfl, haction⟩]
  rfl

/-- All other checks come to what they came to before the rule was copied, and so they do when the copies are removed. -/
theorem answer_of_not_mem (h : subject.typeName = "post" → action ∉ xs.names) (viewer : Option Json) (m : Memory) :
    (copied m xs).2.1.answer m viewer action subject = store.answer m viewer action subject ∧
    (removed m xs).2.1.answer m viewer action subject = store.answer m viewer action subject := by
  have hother : ¬ ("post" = subject.typeName ∧ action ∈ xs.names) := fun hmem => h hmem.1.symm hmem.2
  constructor
  · refine answer_eq_of_rule? (knows_copied m xs _) ?_ viewer m
    rw [rule?_copied, if_neg hother]
  · refine answer_eq_of_rule? (knows_removed m xs _) ?_ viewer m
    rw [rule?_removed, if_neg hother]

theorem answer_removed (hv : Kind.of viewer ∉ Kind.scalars) (htype : subject.typeName = "post")
    (haction : action ∈ xs.names) (m : Memory) :
    (removed m xs).2.1.answer m viewer action subject = .returned (.ok false) := by
  have hnone : (removed m xs).2.1.rule? "post" action = none :=
    (rule?_removed m xs "post" action).trans (if_pos ⟨rfl, haction⟩)
  rw [Store.answer_of_accepted (Argument.checkViewer_eq_ok.mpr hv), htype, knows_removed, hnone]
  rfl

/-- To define and remove leaves the blog as it was if, and only if, none of its own rules was among those removed. -/
theorem removed_restores_iff (m : Memory) (xs : Actions) :
    (∀ viewer action subject,
      (removed m xs).2.1.answer m viewer action subject = store.answer m viewer action subject) ↔
    ∀ action ∈ xs.names, action ∉ ["see", "edit", "create"] := by
  constructor
  · intro hsame action haction hown
    -- A visitor without a name sees posts, and is told that there is no identity to read where it may not edit or create.
    have hvisitor : Kind.of none ∉ Kind.scalars := by decide
    have hfalse : store.answer m none action (.bare "post") = .returned (.ok false) :=
      (hsame none action (.bare "post")).symm.trans (answer_removed hvisitor rfl haction m)
    rw [List.mem_cons, List.mem_cons, List.mem_singleton] at hown
    rcases hown with rfl | rfl | rfl
    · rw [(Verdict.see rfl).answer_eq hvisitor] at hfalse
      cases hfalse
    · rw [(Verdict.editNobody rfl (.inl rfl)).answer_eq hvisitor] at hfalse
      cases hfalse
    · rw [(Verdict.createNobody rfl (.inl rfl)).answer_eq hvisitor] at hfalse
      cases hfalse
  · intro hforeign viewer action subject
    by_cases hmem : subject.typeName = "post" ∧ action ∈ xs.names
    · obtain ⟨htype, haction⟩ := hmem
      refine answer_eq_of_rule? (knows_removed m xs _) ?_ viewer m
      rw [rule?_removed, htype, if_pos ⟨rfl, haction⟩]
      exact (rule?_store_of_not_mem (hforeign action haction)).symm
    · exact (answer_of_not_mem (fun htype haction => hmem ⟨htype, haction⟩) viewer m).2

/-- The blog gives every accepted check exactly the answer that its clause says. With a copy of the rule for authors an
action of posts is answered as `edit` is, and all others as before. When the copies are removed, the answer to these
actions is no; so all is as before if, and only if, the blog had no rules for them. -/
theorem answer_verdict (m : Memory) (xs : Actions) :
    let copies := copied m xs
    let after := removed m xs
    (∀ viewer action subject, Kind.of viewer ∉ Kind.scalars →
      (∃ answer, Verdict viewer action subject answer) ∧
      ∀ answer, store.answer m viewer action subject = .returned answer ↔ Verdict viewer action subject answer) ∧
    copies.1.result = .returned (.ok .changed) ∧ after.1.result = .returned (.ok .changed) ∧
    (∀ viewer action subject, subject.typeName = "post" → action ∈ xs.names →
      copies.2.1.answer m viewer action subject = store.answer m viewer "edit" subject) ∧
    (∀ viewer action subject, Kind.of viewer ∉ Kind.scalars → subject.typeName = "post" → action ∈ xs.names →
      after.2.1.answer m viewer action subject = .returned (.ok false)) ∧
    (∀ viewer action subject, (subject.typeName = "post" → action ∉ xs.names) →
      copies.2.1.answer m viewer action subject = store.answer m viewer action subject ∧
      after.2.1.answer m viewer action subject = store.answer m viewer action subject) ∧
    ((∀ viewer action subject, after.2.1.answer m viewer action subject = store.answer m viewer action subject) ↔
      ∀ action ∈ xs.names, action ∉ ["see", "edit", "create"]) :=
  ⟨fun viewer action subject hv => ⟨exists_verdict viewer action subject, fun _ => answer_eq_iff hv⟩, rfl,
    removed_result m xs, fun viewer _ _ htype haction => answer_copied htype haction viewer m,
    fun _ _ _ hv htype haction => answer_removed hv htype haction m,
    fun viewer _ _ h => answer_of_not_mem h viewer m, removed_restores_iff m xs⟩

/-- The author may delete as long as the rule is copied, and a bare type gives the copy nothing to read either. -/
theorem answer_verdict_delete :
    let xs : Actions := .many ["delete", "archive"]
    let copies := (copied Memory.fresh xs).2.1
    let after := (removed Memory.fresh xs).2.1
    copies.answer Memory.fresh (some author) "delete" post = .returned (.ok true) ∧
    copies.answer Memory.fresh (some author) "delete" (.bare "post") =
      .returned (.error (.rule (.unreadable ⟨"authorId", .undefined⟩))) ∧
    after.answer Memory.fresh (some author) "delete" post = .returned (.ok false) ∧
    ∀ viewer action subject, after.answer Memory.fresh viewer action subject =
      store.answer Memory.fresh viewer action subject := by
  intro xs copies after
  have hviewer : ¬ Nothing (some author) := Json.not_nothing_iff.mpr ⟨author, rfl, nofun⟩
  obtain ⟨hverdict, -, -, hcopied, hremoved, -, hrestored⟩ := answer_verdict Memory.fresh xs
  refine ⟨?_, ?_, hremoved _ _ _ (by decide) rfl (by decide), hrestored.mpr (by decide)⟩
  · rw [hcopied (some author) "delete" post rfl (by decide)]
    exact ((hverdict _ _ _ (by decide)).2 _).mpr (.edit hviewer nofun)
  · rw [hcopied (some author) "delete" (.bare "post") rfl (by decide)]
    exact ((hverdict _ _ _ (by decide)).2 _).mpr (.editBare hviewer)

end Blog

end Permit
