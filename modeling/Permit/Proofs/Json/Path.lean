import Permit.Rule.Condition

/-!
# Paths of properties

Names read one after the other, each from what the read before it gave. A member that is not there reads as null, and
nothing is read from null; so a path fails at the first name that nothing is left to read from, and in a path that does
not fail only the last step may have missed.
-/

namespace Permit

namespace Json

/-- Reads the names one after the other; the first error ends the reading. -/
def follow : Option Json → List String → Except Unreadable (Option Json)
  | x, [] => .ok x
  | x, name :: names => do
      let value ← property x name
      follow (some value) names

/-- An absent value and null have no properties. -/
def Nothing (x : Option Json) : Prop := x = none ∨ x = some .null

/-- Each name of the path is a member of an object, and this is what the last one holds. -/
inductive Stored : Json → List String → Json → Prop where
  | here (value : Json) : Stored value [] value
  | member {members : Dictionary Json} {name : String} {value found : Json} {names : List String}
      (hget : members.get? name = some value) (hrest : Stored value names found) :
      Stored (.object members) (name :: names) found

/-- All but the last name of the path are members of objects, and what the last one is read from, though it is not null,
has no such member. -/
def Misses (root : Json) (names : List String) : Prop :=
  ∃ before last target, names = before ++ [last] ∧ Stored root before target ∧ target ≠ .null ∧
    ∀ members : Dictionary Json, target = .object members → members.get? last = none

/-- The first name of a path that there is nothing to read from, and what its target is instead. -/
def Gap (x : Option Json) (names : List String) (name : String) (target : Option Json) : Prop :=
  ∃ before after, names = before ++ name :: after ∧ follow x before = .ok target ∧ Nothing target ∧
    ∀ shorter, shorter <+: before → shorter ≠ before → ∃ value, follow x shorter = .ok value ∧ ¬ Nothing value

variable {x target : Option Json} {names before after : List String} {name : String} {e : Unreadable}

/-! ## One property -/

theorem property_of_nothing (h : Nothing x) (name : String) : property x name = .error ⟨name, Kind.of x⟩ := by
  rcases h with rfl | rfl
  · rfl
  · rfl

theorem property_of_ne_null {value : Json} (h : value ≠ .null) (name : String) :
    property (some value) name = .ok ((value.get? name).getD .null) := by
  cases value with
  | null => exact absurd rfl h
  | _ => rfl

theorem not_nothing_iff : ¬ Nothing x ↔ ∃ value, x = some value ∧ value ≠ .null := by
  cases x with
  | none => simp [Nothing]
  | some value => simp [Nothing]

/-! ## Paths -/

theorem follow_of_nothing (h : Nothing x) (name : String) (names : List String) :
    follow x (name :: names) = .error ⟨name, Kind.of x⟩ := by
  rw [follow, property_of_nothing h]
  rfl

theorem follow_of_ne_null {value : Json} (h : value ≠ .null) (name : String) (names : List String) :
    follow (some value) (name :: names) = follow (some ((value.get? name).getD .null)) names := by
  rw [follow, property_of_ne_null h]
  rfl

/-- To read on from where a path has led is to read the longer path. -/
theorem follow_append (x : Option Json) (xs ys : List String) :
    follow x (xs ++ ys) = follow x xs >>= fun y => follow y ys := by
  induction xs generalizing x with
  | nil => rfl
  | cons name names ih =>
      rw [List.cons_append, follow, follow]
      cases property x name with
      | error e => rfl
      | ok value => exact ih (some value)

theorem follow_append_of_ok (h : follow x before = .ok target) (after : List String) :
    follow x (before ++ after) = follow target after := by
  rw [follow_append, h]
  rfl

/-- What a path that does not fail reads first. -/
theorem first_of_follow (h : follow x (name :: names) = .ok target) :
    ∃ value, x = some value ∧ value ≠ .null ∧ follow (some ((value.get? name).getD .null)) names = .ok target := by
  by_cases hx : Nothing x
  · rw [follow_of_nothing hx] at h
    cases h
  · obtain ⟨value, rfl, hvalue⟩ := not_nothing_iff.mp hx
    rw [follow_of_ne_null hvalue] at h
    exact ⟨value, rfl, hvalue, h⟩

/-- After at least one read there is a value, be it null. -/
theorem exists_of_follow_cons (h : follow x (name :: names) = .ok target) : ∃ value, target = some value := by
  induction names generalizing x name with
  | nil =>
      obtain ⟨value, -, -, hrest⟩ := first_of_follow h
      cases hrest
      exact ⟨_, rfl⟩
  | cons next rest ih =>
      obtain ⟨value, -, -, hrest⟩ := first_of_follow h
      exact ih hrest

theorem eq_null_of_nothing (h : follow x before = .ok target) (hne : before ≠ []) (ht : Nothing target) :
    target = some .null := by
  obtain ⟨name, names, rfl⟩ := List.exists_cons_of_ne_nil hne
  obtain ⟨value, rfl⟩ := exists_of_follow_cons h
  rcases ht with ht | ht
  · cases ht
  · exact ht

/-- What a path reads from on its way is something. -/
theorem not_nothing_of_follow (h : follow x (before ++ after) = .ok target) (hne : after ≠ []) :
    ∃ value, follow x before = .ok value ∧ ¬ Nothing value := by
  obtain ⟨name, names, rfl⟩ := List.exists_cons_of_ne_nil hne
  cases hbefore : follow x before with
  | error e =>
      rw [follow_append, hbefore] at h
      cases h
  | ok value =>
      rw [follow_append_of_ok hbefore] at h
      obtain ⟨found, rfl, hfound, -⟩ := first_of_follow h
      exact ⟨some found, rfl, not_nothing_iff.mpr ⟨found, rfl, hfound⟩⟩

/-! ## Paths that fail -/

theorem Gap.follow_eq (h : Gap x names name target) : follow x names = .error ⟨name, Kind.of target⟩ := by
  obtain ⟨before, after, rfl, hbefore, htarget, -⟩ := h
  rw [follow_append_of_ok hbefore, follow_of_nothing htarget]

theorem exists_gap (h : follow x names = .error e) : ∃ target, Gap x names e.property target := by
  -- The longest part of the path that does not fail ends at the gap.
  suffices hsplit : ∃ before after target, names = before ++ e.property :: after ∧ follow x before = .ok target ∧
      Nothing target by
    obtain ⟨before, after, target, hnames, hbefore, htarget⟩ := hsplit
    refine ⟨target, before, after, hnames, hbefore, htarget, fun shorter hprefix hne => ?_⟩
    obtain ⟨rest, rfl⟩ := hprefix
    refine not_nothing_of_follow hbefore fun hrest => hne ?_
    rw [hrest, List.append_nil]
  induction names generalizing x with
  | nil => cases h
  | cons name names ih =>
      by_cases hx : Nothing x
      · rw [follow_of_nothing hx] at h
        cases h
        exact ⟨[], names, x, rfl, rfl, hx⟩
      · obtain ⟨value, rfl, hvalue⟩ := not_nothing_iff.mp hx
        rw [follow_of_ne_null hvalue] at h
        obtain ⟨before, after, target, hnames, hbefore, htarget⟩ := ih h
        refine ⟨name :: before, after, target, by rw [hnames, List.cons_append], ?_, htarget⟩
        rw [follow_of_ne_null hvalue, hbefore]

theorem follow_eq_error_iff :
    follow x names = .error e ↔ ∃ target, Gap x names e.property target ∧ e.target = Kind.of target := by
  constructor
  · intro h
    obtain ⟨target, hgap⟩ := exists_gap h
    have hsame := Except.error.inj (h.symm.trans hgap.follow_eq)
    exact ⟨target, hgap, congrArg Unreadable.target hsame⟩
  · rintro ⟨target, hgap, htarget⟩
    rw [hgap.follow_eq, ← htarget]

theorem follow_fails_iff (hne : names ≠ []) :
    (∃ e, follow x names = .error e) ↔
      Nothing x ∨ ∃ before after, names = before ++ after ∧ before ≠ [] ∧ after ≠ [] ∧
        follow x before = .ok (some .null) := by
  constructor
  · rintro ⟨e, h⟩
    obtain ⟨target, before, after, hnames, hbefore, htarget, -⟩ := exists_gap h
    by_cases hempty : before = []
    · subst hempty
      cases hbefore
      exact .inl htarget
    · obtain rfl := eq_null_of_nothing hbefore hempty htarget
      exact .inr ⟨before, e.property :: after, hnames, hempty, List.cons_ne_nil _ _, hbefore⟩
  · rintro (hx | ⟨before, after, rfl, -, hafter, hbefore⟩)
    · obtain ⟨name, rest, rfl⟩ := List.exists_cons_of_ne_nil hne
      exact ⟨_, follow_of_nothing hx name rest⟩
    · obtain ⟨name, rest, rfl⟩ := List.exists_cons_of_ne_nil hafter
      exact ⟨_, (follow_append_of_ok hbefore _).trans (follow_of_nothing (.inr rfl) name rest)⟩

/-- Only an absent value to start from is called undefined. -/
theorem target_of_follow (h : follow x (name :: names) = .error e) :
    (x = none ∧ e = ⟨name, .undefined⟩) ∨ (x ≠ none ∧ e.target = .null) := by
  cases x with
  | none =>
      cases h
      exact .inl ⟨rfl, rfl⟩
  | some value =>
      refine .inr ⟨nofun, ?_⟩
      obtain ⟨target, ⟨before, after, -, hbefore, htarget, -⟩, hkind⟩ := follow_eq_error_iff.mp h
      have hnull : target = some .null := by
        by_cases hempty : before = []
        · subst hempty
          cases hbefore
          exact htarget.resolve_left nofun
        · exact eq_null_of_nothing hbefore hempty htarget
      rw [hkind, hnull]
      rfl

/-! ## Paths that do not fail -/

theorem Stored.follow_eq {root found : Json} (h : Stored root names found) :
    follow (some root) names = .ok (some found) := by
  induction h with
  | here value => rfl
  | @member members name value found names hget _ ih =>
      have hobject : Json.object members ≠ .null := nofun
      rw [follow_of_ne_null hobject, get?, hget, Option.getD_some, ih]

theorem Misses.follow_eq {root : Json} (h : Misses root names) : follow (some root) names = .ok (some .null) := by
  obtain ⟨before, last, target, rfl, hstored, htarget, hlast⟩ := h
  have hread : target.get? last = none := by
    cases target with
    | object members => exact hlast members rfl
    | _ => rfl
  rw [follow_append_of_ok hstored.follow_eq, follow_of_ne_null htarget, hread]
  rfl

theorem Misses.cons {members : Dictionary Json} {value : Json} (hget : members.get? name = some value)
    (h : Misses value names) : Misses (.object members) (name :: names) := by
  obtain ⟨before, last, target, rfl, hstored, hrest⟩ := h
  exact ⟨name :: before, last, target, rfl, .member hget hstored, hrest⟩

theorem stored_or_misses {root : Json} {value : Option Json} (h : follow (some root) names = .ok value) :
    (∃ found, Stored root names found ∧ value = some found) ∨ (Misses root names ∧ value = some .null) := by
  induction names generalizing root with
  | nil =>
      cases h
      exact .inl ⟨root, .here root, rfl⟩
  | cons name names ih =>
      obtain ⟨value, hvalue, hroot, hrest⟩ := first_of_follow h
      cases hvalue
      cases hget : root.get? name with
      | some next =>
          cases root with
          | object members =>
              rw [hget] at hrest
              rcases ih hrest with ⟨found, hstored, rfl⟩ | ⟨hmisses, rfl⟩
              · exact .inl ⟨found, .member hget hstored, rfl⟩
              · exact .inr ⟨hmisses.cons hget, rfl⟩
          | _ => cases hget
      -- What is missing reads as null, so no name may follow.
      | none =>
          rw [hget, Option.getD_none] at hrest
          cases names with
          | cons next rest =>
              rw [follow_of_nothing (.inr rfl)] at hrest
              cases hrest
          | nil =>
              cases hrest
              refine .inr ⟨⟨[], name, root, rfl, .here root, hroot, ?_⟩, rfl⟩
              rintro members rfl
              exact hget

theorem follow_eq_ok_iff {value : Option Json} (hne : names ≠ []) :
    follow x names = .ok value ↔
      ∃ root, x = some root ∧
        ((∃ found, Stored root names found ∧ value = some found) ∨ (Misses root names ∧ value = some .null)) := by
  constructor
  · intro h
    cases x with
    | none =>
        obtain ⟨name, rest, rfl⟩ := List.exists_cons_of_ne_nil hne
        obtain ⟨value, hvalue, -⟩ := first_of_follow h
        cases hvalue
    | some root => exact ⟨root, rfl, stored_or_misses h⟩
  · rintro ⟨root, rfl, ⟨found, hstored, rfl⟩ | ⟨hmisses, rfl⟩⟩
    · exact hstored.follow_eq
    · exact hmisses.follow_eq

/-! ## Paths in written predicates -/

theorem value_path (viewer entity : Option Json) (t : Term) (names : List String) :
    (names.foldl .property t).value viewer entity = t.value viewer entity >>= fun y => follow y names := by
  induction names generalizing t with
  | nil =>
      rw [List.foldl_nil]
      cases t.value viewer entity <;> rfl
  | cons name names ih =>
      rw [List.foldl_cons, ih, Term.value]
      cases t.value viewer entity with
      | error e => rfl
      | ok y =>
          show ((property y name).map some >>= fun z => follow z names) = follow y (name :: names)
          rw [follow]
          cases property y name <;> rfl

/-- A path fails exactly if there is nothing to start from, or if it comes upon null before its end. The error names the
first property that there is nothing to read from; its target is undefined only if there was no value to start from, and
then it is the first of all. A path that does not fail gives what is stored there, or null if its last step, and only
that, misses. Two paths one after the other are read as one, and so are the names of a written term. -/
theorem follow_fails_at_gap (x : Option Json) (first : String) (rest : List String) :
    let names := first :: rest
    ((∃ e, follow x names = .error e) ↔
      Nothing x ∨ ∃ before after, names = before ++ after ∧ before ≠ [] ∧ after ≠ [] ∧
        follow x before = .ok (some .null)) ∧
    (∀ e, follow x names = .error e ↔ ∃ target, Gap x names e.property target ∧ e.target = Kind.of target) ∧
    (∀ e, follow x names = .error e → (x = none ∧ e = ⟨first, .undefined⟩) ∨ (x ≠ none ∧ e.target = .null)) ∧
    (∀ value, follow x names = .ok value ↔
      ∃ root, x = some root ∧
        ((∃ found, Stored root names found ∧ value = some found) ∨ (Misses root names ∧ value = some .null))) ∧
    (∀ more, follow x (names ++ more) = follow x names >>= fun y => follow y more) ∧
    ∀ viewer entity (t : Term), t.value viewer entity = .ok x →
      (names.foldl .property t).value viewer entity = follow x names := by
  intro names
  have hne : names ≠ [] := List.cons_ne_nil first rest
  refine ⟨follow_fails_iff hne, fun e => follow_eq_error_iff, fun e => target_of_follow, fun value => follow_eq_ok_iff hne,
    follow_append x names, fun viewer entity t ht => ?_⟩
  rw [value_path, ht]
  rfl

/-- A post without an author reads as null, and the name of this author cannot be read. -/
theorem follow_fails_at_gap_author :
    let post := Json.object (.cons "author" .null (.cons "blog" (.object (.single "title" (.string "notes"))) .nil))
    follow (some post) ["author", "name", "first"] = .error ⟨"name", .null⟩ ∧
    follow none ["author", "name"] = .error ⟨"author", .undefined⟩ ∧
    follow (some post) ["blog", "title"] = .ok (some (.string "notes")) ∧
    follow (some post) ["blog", "title", "length"] = .ok (some .null) := by
  intro post
  have hblog : Stored post ["blog", "title"] (.string "notes") := .member rfl (.member rfl (.here _))
  obtain ⟨-, herror, -, -, -, -⟩ := follow_fails_at_gap (some post) "author" ["name", "first"]
  obtain ⟨-, -, htarget, -, -, -⟩ := follow_fails_at_gap none "author" ["name"]
  obtain ⟨-, -, -, hstored, -, -⟩ := follow_fails_at_gap (some post) "blog" ["title"]
  obtain ⟨-, -, -, hmisses, -, -⟩ := follow_fails_at_gap (some post) "blog" ["title", "length"]
  refine ⟨?_, ?_, ?_, ?_⟩
  · refine (herror ⟨"name", .null⟩).mpr ⟨some .null, ⟨["author"], ["first"], rfl, rfl, .inr rfl, ?_⟩, rfl⟩
    intro shorter hprefix hne
    rcases List.prefix_cons_iff.mp hprefix with rfl | ⟨rest, rfl, hrest⟩
    · exact ⟨some post, rfl, not_nothing_iff.mpr ⟨post, rfl, nofun⟩⟩
    · rw [List.prefix_nil.mp hrest] at hne
      exact absurd rfl hne
  · rcases htarget ⟨"author", .undefined⟩ rfl with ⟨-, he⟩ | ⟨hx, -⟩
    · rw [← he]
      rfl
    · exact absurd rfl hx
  · exact (hstored _).mpr ⟨post, rfl, .inl ⟨_, hblog, rfl⟩⟩
  · exact (hmisses _).mpr ⟨post, rfl, .inr ⟨⟨["blog", "title"], "length", _, rfl, hblog, nofun, nofun⟩, rfl⟩⟩

end Json

end Permit
