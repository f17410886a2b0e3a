import Mathlib.Logic.Relation
import Permit.Proofs.Store.Batches

/-!
# Changes that commute

Changes of different types, or of different actions of a type, may be made in either order, and so may any two removals.
The tables are the same, and so is what comes of each change, save that a removal is refused before the definition that
makes its type known. So changes may trade places in a run, and it leaves the same table.
-/

namespace Permit

/-- A definition, with its rule, or a removal. -/
structure Change where
  type : String
  actions : Actions
  rule? : Option Rule

namespace Change

variable {c d : Change}

def call (c : Change) : Call :=
  match c.rule? with
  | some rule => .define c.type c.actions rule
  | none => .undefine c.type c.actions

/-- The changes are about different types, or share no action. -/
def Independent (c d : Change) : Prop := c.type ≠ d.type ∨ ∀ action ∈ c.actions.names, action ∉ d.actions.names

theorem Independent.symm (h : c.Independent d) : d.Independent c :=
  h.imp Ne.symm fun hapart action hd hc => hapart action hc hd

theorem says?_call (c : Change) (type action : String) :
    c.call.says? type action = if c.type = type ∧ action ∈ c.actions.names then some c.rule? else none := by
  obtain ⟨t, actions, rule | rule⟩ := c <;> rfl

theorem introduces_call (c : Change) (type : String) : c.call.introduces type = (c.rule?.isSome && c.type == type) := by
  obtain ⟨t, actions, rule | rule⟩ := c <;> rfl

/-- Of independent changes one at most has a say on an action. -/
theorem Independent.says? (h : c.Independent d) (type action : String) :
    c.call.says? type action = none ∨ d.call.says? type action = none := by
  simp only [says?_call, ite_eq_right_iff, reduceCtorEq, imp_false, not_and]
  by_cases hc : c.type = type
  · by_cases hd : d.type = type
    · have hapart := h.resolve_left fun hne => hne (hc.trans hd.symm)
      by_cases ha : action ∈ c.actions.names
      · exact .inr fun _ => hapart action ha
      · exact .inl fun _ => ha
    · exact .inr fun hd' => absurd hd' hd
  · exact .inl fun hc' => absurd hc' hc

/-! ## What comes of a change -/

/-- What comes of a change, said by the types that are known and the rules that its actions have. -/
def done (s : Store) (c : Change) : Done :=
  match c.rule? with
  | some rule => ⟨.returned (.ok .changed), [.emitted (.defining c.type c.actions.size rule.kind)]⟩
  | none =>
      if s.knows c.type then
        let removed := (c.actions.names.toFinset.filter fun action => (s.rule? c.type action).isSome).card
        ⟨.returned (.ok .changed), [.emitted (.undefined c.type removed c.actions.size)]⟩
      else ⟨.returned (.error (.unknownType c.type)), [.emitted (.undefinedUnknown c.type)]⟩

theorem done_congr {s s' : Store} (hk : s.knows c.type = s'.knows c.type)
    (hr : ∀ action ∈ c.actions.names, s.rule? c.type action = s'.rule? c.type action) : c.done s = c.done s' := by
  have hfound : (c.actions.names.toFinset.filter fun action => (s.rule? c.type action).isSome) =
      c.actions.names.toFinset.filter fun action => (s'.rule? c.type action).isSome :=
    Finset.filter_congr fun action ha => by rw [hr action (List.mem_toFinset.mp ha)]
  rw [done, done, hk, hfound]

end Change

namespace Store

variable {s : Store} {c d : Change}

theorem turn_change (s : Store) (m : Memory) (c : Change) :
    (s.turn m c.call).1 = c.done s ∧ (s.turn m c.call).2.2 = m := by
  obtain ⟨type, actions, rule | rule⟩ := c
  · show (s.turn m (.undefine type actions)).1 = _ ∧ (s.turn m (.undefine type actions)).2.2 = m
    cases hk : s.knows type with
    | false =>
        rw [turn_undefine_of_not_knows hk]
        exact ⟨(if_neg (Bool.eq_false_iff.mp hk)).symm, rfl⟩
    | true =>
        rw [turn_undefine_of_knows hk, Table.foundIn_rowOf]
        exact ⟨(if_pos hk).symm, rfl⟩
  · exact ⟨rfl, rfl⟩

theorem runAll_changes (s : Store) (m : Memory) (c d : Change) :
    (s.runAll m [c.call, d.call]).1 = [c.done s, d.done (s.turn m c.call).2.1] := by
  obtain ⟨hc, hm⟩ := s.turn_change m c
  obtain ⟨hd, -⟩ := (s.turn m c.call).2.1.turn_change m d
  simp only [runAll_cons, runAll_nil, hc, hm, hd]

/-- The first change makes the type known from which the second removes actions. -/
def Opens (s : Store) (c d : Change) : Prop :=
  c.rule?.isSome = true ∧ d.rule? = none ∧ c.type = d.type ∧ s.knows d.type = false

/-- Of two independent changes the first matters for what comes of the second only by making its type known. -/
theorem done_turn_iff (h : c.Independent d) (m : Memory) :
    d.done s = d.done (s.turn m c.call).2.1 ↔ ¬ s.Opens c d := by
  have hknows : (s.turn m c.call).2.1.knows d.type = (s.knows d.type || (c.rule?.isSome && c.type == d.type)) := by
    rw [knows_turn, Change.introduces_call]
  constructor
  · rintro heq ⟨hdefines, hremoves, htype, hk⟩
    rw [hk, hdefines, htype, beq_self_eq_true] at hknows
    simp [Change.done, hremoves, hk, hknows] at heq
  · intro hopens
    -- A definition comes to the same in every store; a removal looks at its type and at its own actions.
    cases hrule : d.rule? with
    | some rule => simp only [Change.done, hrule]
    | none =>
        refine Change.done_congr ?_ fun action ha => ?_
        · cases hk : s.knows d.type with
          | true => rw [hknows, hk, Bool.true_or]
          | false =>
              have hfresh : (c.rule?.isSome && c.type == d.type) = false := by
                by_contra hopened
                rw [Bool.not_eq_false, Bool.and_eq_true, beq_iff_eq] at hopened
                exact hopens ⟨hopened.1, hrule, hopened.2, hk⟩
              rw [hknows, hk, hfresh, Bool.or_false]
        · have hsilent : c.call.says? d.type action = none := by
            refine (h.says? d.type action).resolve_right fun hnone => ?_
            rw [Change.says?_call, if_pos ⟨rfl, ha⟩] at hnone
            cases hnone
          rw [rule?_turn, hsilent, Option.getD_none]

end Store

/-! ## Changes that trade places -/

namespace Change

/-- Two changes next to each other trade places: they are independent, or both are removals. -/
inductive Swap : List Change → List Change → Prop where
  | independent (before after : List Change) {c d : Change} (h : c.Independent d) :
      Swap (before ++ c :: d :: after) (before ++ d :: c :: after)
  | removals (before after : List Change) {c d : Change} (hc : c.rule? = none) (hd : d.rule? = none) :
      Swap (before ++ c :: d :: after) (before ++ d :: c :: after)

variable {cs ds : List Change}

theorem Swap.perm (h : Swap cs ds) : cs.Perm ds := by
  cases h with
  | independent before after | removals before after => exact .append_left before (.swap _ _ after)

/-- Each action hears the same in the same order, for what two removals say of it is the same. -/
theorem Swap.says (h : Swap cs ds) (type action : String) :
    (cs.map Change.call).filterMap (Call.says? type action) = (ds.map Change.call).filterMap (Call.says? type action) := by
  cases h with
  | @independent before after c d hcd =>
      rcases hcd.says? type action with hnone | hnone <;> simp [List.filterMap_cons, hnone]
  | @removals before after c d hc hd =>
      have hwords : ∀ e : Change, e.rule? = none →
          e.call.says? type action = none ∨ e.call.says? type action = some none := by
        intro e he
        rw [Change.says?_call, he]
        split
        · exact .inr rfl
        · exact .inl rfl
      rcases hwords c hc with hc | hc <;> rcases hwords d hd with hd | hd <;> simp [hc, hd]

end Change

namespace Store

variable {s : Store} {c d : Change} {cs ds : List Change}

theorem table_of_swap (h : Change.Swap cs ds) (s : Store) (m : Memory) :
    (s.runAll m (cs.map Change.call)).2.1.table = (s.runAll m (ds.map Change.call)).2.1.table := by
  refine Table.Same.eq ⟨fun type => ?_, fun type action => ?_⟩
  · have hany : (cs.map Change.call).any (Call.introduces type) = (ds.map Change.call).any (Call.introduces type) :=
      (h.perm.map Change.call).any_eq
    rw [← Store.knows, ← Store.knows, knows_runAll, knows_runAll, History.knows, History.knows, hany]
  · rw [← Store.rule?, ← Store.rule?, rule?_runAll, rule?_runAll, History.rule?, History.rule?, h.says]

theorem table_of_swaps (h : Relation.ReflTransGen Change.Swap cs ds) (s : Store) (m : Memory) :
    (s.runAll m (cs.map Change.call)).2.1.table = (s.runAll m (ds.map Change.call)).2.1.table := by
  induction h with
  | refl => rfl
  | tail _ hlast ih => exact ih.trans (table_of_swap hlast s m)

/-- Two removals from one type leave the same store, whichever comes first, and what they share goes with the first. -/
theorem runAll_removals (hc : c.rule? = none) (hd : d.rule? = none) (htype : c.type = d.type) (s : Store) (m : Memory) :
    (s.runAll m [c.call, d.call]).2 = (s.runAll m [d.call, c.call]).2 ∧
    (s.runAll m [d.call, c.call]).1.map Done.result = ((s.runAll m [c.call, d.call]).1.map Done.result).reverse := by
  obtain ⟨type, xs, rule⟩ := c
  obtain ⟨type', ys, rule'⟩ := d
  cases hc
  cases hd
  cases htype
  show (s.runAll m [.undefine type xs, .undefine type ys]).2 = (s.runAll m [.undefine type ys, .undefine type xs]).2 ∧
    (s.runAll m [.undefine type ys, .undefine type xs]).1.map Done.result =
      ((s.runAll m [.undefine type xs, .undefine type ys]).1.map Done.result).reverse
  cases hk : s.knows type with
  | false => simp [runAll_cons, turn_undefine_of_not_knows hk]
  | true =>
      have hx : (Store.mk (s.table.without type xs.names)).knows type = true := s.table.knows_without type xs.names
      have hy : (Store.mk (s.table.without type ys.names)).knows type = true := s.table.knows_without type ys.names
      have hsame : s.table.without type (xs.names ++ ys.names) = s.table.without type (ys.names ++ xs.names) :=
        Table.without_congr (fun action => by simp [or_comm]) s.table type
      simp [runAll_cons, turn_undefine_of_knows hk, turn_undefine_of_knows hx, turn_undefine_of_knows hy,
        Table.without_without, hsame]

theorem results_of_opens (h : s.Opens c d) (m : Memory) :
    (s.runAll m [c.call, d.call]).1.map Done.result = [.returned (.ok .changed), .returned (.ok .changed)] ∧
    (s.runAll m [d.call, c.call]).1.map Done.result =
      [.returned (.error (.unknownType d.type)), .returned (.ok .changed)] := by
  obtain ⟨hdefines, hremoves, htype, hk⟩ := h
  obtain ⟨rule, hrule⟩ := Option.isSome_iff_exists.mp hdefines
  have hknows : (s.turn m c.call).2.1.knows d.type = true := by
    simp [knows_turn, Change.introduces_call, hdefines, htype]
  rw [runAll_changes, runAll_changes]
  simp [Change.done, hrule, hremoves, hk, hknows]

/-- Independent changes leave the same table in either order. Each comes to the same and tells the same, unless one of them
makes the type known from which the other removes actions: then the removal is refused if it comes first, and only then.
Two removals from one type leave the same store, and each gets the same answer in either order. So if changes trade places
in a run of them, the table that it leaves is the same. -/
theorem runAll_commutes (s : Store) (m : Memory) :
    (∀ c d : Change, c.Independent d →
      let cd := s.runAll m [c.call, d.call]
      let dc := s.runAll m [d.call, c.call]
      cd.2.1.table = dc.2.1.table ∧ (dc.1 = cd.1.reverse ↔ ¬ (s.Opens c d ∨ s.Opens d c))) ∧
    (∀ c d : Change, s.Opens c d →
      (s.runAll m [c.call, d.call]).1.map Done.result = [.returned (.ok .changed), .returned (.ok .changed)] ∧
      (s.runAll m [d.call, c.call]).1.map Done.result =
        [.returned (.error (.unknownType d.type)), .returned (.ok .changed)]) ∧
    (∀ c d : Change, c.rule? = none → d.rule? = none → c.type = d.type →
      let cd := s.runAll m [c.call, d.call]
      let dc := s.runAll m [d.call, c.call]
      cd.2 = dc.2 ∧ dc.1.map Done.result = (cd.1.map Done.result).reverse) ∧
    ∀ cs ds, Relation.ReflTransGen Change.Swap cs ds →
      (s.runAll m (cs.map Change.call)).2.1.table = (s.runAll m (ds.map Change.call)).2.1.table := by
  refine ⟨fun c d h => ⟨?same, ?told⟩, fun c d h => results_of_opens h m, fun c d hc hd ht => runAll_removals hc hd ht s m,
    fun cs ds h => table_of_swaps h s m⟩
  case same => exact table_of_swap (.independent [] [] h) s m
  case told =>
    have hd : d.done s = d.done (s.turn m c.call).2.1 ↔ ¬ s.Opens c d := done_turn_iff h m
    have hc : c.done s = c.done (s.turn m d.call).2.1 ↔ ¬ s.Opens d c := done_turn_iff h.symm m
    rw [runAll_changes, runAll_changes, not_or, ← hd, ← hc]
    simp only [List.reverse_cons, List.reverse_nil, List.nil_append, List.singleton_append, List.cons.injEq, and_true]
    exact and_congr_right fun _ => eq_comm

/-- Of one type different actions are defined and removed, and of another, which is not known, too. -/
theorem runAll_commutes_post :
    let s : Store := ⟨Table.empty.insert "post" "see" .allow⟩
    let edit : Change := ⟨"post", .one "edit", some .deny⟩
    let see : Change := ⟨"post", .many ["see", "see"], none⟩
    let all : Change := ⟨"post", .many ["edit", "see"], none⟩
    let draft : Change := ⟨"draft", .one "edit", some .allow⟩
    let undraft : Change := ⟨"draft", .one "see", none⟩
    let after := fun cs : List Change => s.runAll Memory.fresh (cs.map Change.call)
    edit.Independent see ∧ (after [see, edit]).1 = (after [edit, see]).1.reverse ∧
    s.Opens draft undraft ∧ (after [undraft, draft]).1 ≠ (after [draft, undraft]).1.reverse ∧
    (after [undraft, draft]).1.map Done.result =
      [.returned (.error (.unknownType "draft")), .returned (.ok .changed)] ∧
    (after [see, all]).2 = (after [all, see]).2 ∧
    (after [edit, see, all]).2.1.table = (after [see, edit, all]).2.1.table := by
  intro s edit see all draft undraft after
  have hposts : edit.Independent see := .inr (by decide)
  have hdrafts : draft.Independent undraft := .inr (by decide)
  have hopens : s.Opens draft undraft := ⟨rfl, rfl, rfl, rfl⟩
  obtain ⟨hindependent, hrefused, hremovals, hswaps⟩ := runAll_commutes s Memory.fresh
  have hknown : ¬ (s.Opens edit see ∨ s.Opens see edit) := by
    rintro (⟨-, -, -, h⟩ | ⟨h, -⟩) <;> cases h
  exact ⟨hposts, (hindependent edit see hposts).2.mpr hknown, hopens,
    fun heq => (hindependent draft undraft hdrafts).2.mp heq (.inl hopens), (hrefused draft undraft hopens).2,
    (hremovals see all rfl rfl rfl).1, hswaps [edit, see, all] [see, edit, all] (.single (.independent [] [all] hposts))⟩

end Store

end Permit
