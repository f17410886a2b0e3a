import Permit.Proofs.Check.Nesting
import Permit.Proofs.Shared.Outermost

/-!
# Checks that end

On a shared store whose rules refer to each other without a circle every check ends, and the limit on nested checks is
never met. Which checks a written predicate may make can be read off its condition, so circles can be looked for there.
-/

namespace Permit

/-! ## What written predicates refer to -/

namespace Condition

mutual
/-- The types and actions that a condition checks if it is decided that far. -/
def named : Condition → List (String × String)
  | .constant _ | .truthy _ | .equal _ _ | .ofKind _ _ | .fail _ | .panic _ | .sequence _ => []
  | .not c | .context _ c | .probe c => named c
  | .all cs | .any cs => namedIn cs
  | .check action type => [(type, action)]

def namedIn : List Condition → List (String × String)
  | [] => []
  | c :: cs => named c ++ namedIn cs
end

variable {viewer entity : Option Json} {type action : String}

mutual
/-- A script checks what its condition names, or what comes after the condition does. -/
theorem mem_named_of_mayCheck {after : After} (c : Condition)
    (h : (c.script viewer entity after).MayCheck type action) :
    (type, action) ∈ c.named ∨ ∃ answer, (after answer).MayCheck type action := by
  match c with
  | .constant _ | .truthy _ | .equal _ _ | .ofKind _ _ | .fail _ => exact .inr ⟨_, h⟩
  | .not c | .context _ c =>
      rw [script] at h
      rcases mem_named_of_mayCheck c h with hnamed | ⟨answer, hafter⟩
      · exact .inl hnamed
      · exact .inr ⟨_, hafter⟩
  | .all cs => exact mem_namedIn_of_allOf cs h
  | .any cs => exact mem_namedIn_of_anyOf cs h
  | .panic message => cases h
  | .probe c =>
      cases h with
      | probe _ _ h => exact mem_named_of_mayCheck c h
  | .sequence flags =>
      cases h with
      | load n h =>
          cases h with
          | save _ h =>
              split at h
              · exact .inr ⟨_, h⟩
              · cases h
  | .check action' type' =>
      cases h with
      | here _ htype =>
          rw [Subject.typeName_of] at htype
          exact .inl (List.mem_singleton.mpr (by rw [htype]))
      | check _ _ _ answer h => exact .inr ⟨_, h⟩

theorem mem_namedIn_of_allOf {after : After} (cs : List Condition)
    (h : (allOf viewer entity cs after).MayCheck type action) :
    (type, action) ∈ namedIn cs ∨ ∃ answer, (after answer).MayCheck type action := by
  match cs with
  | [] => exact .inr ⟨_, h⟩
  | c :: cs =>
      rw [allOf] at h
      rcases mem_named_of_mayCheck c h with hnamed | ⟨answer, hnext⟩
      · exact .inl (List.mem_append_left _ hnamed)
      · split at hnext
        · exact (mem_namedIn_of_allOf cs hnext).imp_left (List.mem_append_right _)
        · exact .inr ⟨_, hnext⟩

theorem mem_namedIn_of_anyOf {after : After} (cs : List Condition)
    (h : (anyOf viewer entity cs after).MayCheck type action) :
    (type, action) ∈ namedIn cs ∨ ∃ answer, (after answer).MayCheck type action := by
  match cs with
  | [] => exact .inr ⟨_, h⟩
  | c :: cs =>
      rw [anyOf] at h
      rcases mem_named_of_mayCheck c h with hnamed | ⟨answer, hnext⟩
      · exact .inl (List.mem_append_left _ hnamed)
      · split at hnext
        · exact (mem_namedIn_of_anyOf cs hnext).imp_left (List.mem_append_right _)
        · exact .inr ⟨_, hnext⟩
end

end Condition

theorem Table.Refers.mem_named {t : Table} {key key' : String × String} {cell : Nat} {c : Condition}
    (h : t.Refers key key') (hrule : t.rule? key.1 key.2 = some (.predicate (c.predicate cell))) : key' ∈ c.named := by
  obtain ⟨p, viewer, entity, hp, hmay⟩ := h
  rw [hrule] at hp
  cases hp
  rcases c.mem_named_of_mayCheck hmay with hnamed | ⟨answer, hfinish⟩
  · exact hnamed
  · cases hfinish

/-! ## Shared stores -/

namespace Shared

variable {sh : Shared} {m : Memory} {viewer : Option Json} {action : String}

/-- A check on a shared store ends if it would end on the bare store, also if its subject panics. -/
theorem perform_evaluate_ends (h : ∀ given, (sh.store.evaluate viewer action given m).outcome ≠ .exhausted)
    (subject : Conversion Subject) : (sh.perform m (.evaluate viewer action subject)).1.outcome ≠ .exhausted := by
  cases hpoisoned : sh.poisoned with
  | true =>
      rw [perform_of_poisoned hpoisoned m (by simp)]
      exact nofun
  | false =>
      rcases Argument.checkViewer_cases viewer with hv | hv
      · cases subject with
        | gives given =>
            rw [perform_evaluate_gives hpoisoned hv]
            exact fun hexhausted => h given (Outcome.map_eq_exhausted.mp hexhausted)
        | panics message =>
            rw [perform_evaluate hpoisoned, checking_of_accepted hv]
            exact nofun
      · rw [perform_evaluate hpoisoned, checking_of_refused hv]
        exact nofun

/-- If no rule refers to itself, directly or through others, every check on a shared store ends. Checks nest at most one
level deeper than there are predicates, and at that depth no predicate is asked any more; and any number of levels
beyond that of the predicates is as good as the number that a store allows. -/
theorem perform_of_acyclic (sh : Shared) (h : sh.store.table.Acyclic) (m : Memory) (viewer : Option Json)
    (action : String) (subject : Conversion Subject) :
    let t := sh.store.table
    (sh.perform m (.evaluate viewer action subject)).1.outcome ≠ .exhausted ∧
    ∀ given,
      let q : Inquiry := ⟨viewer, action, given, m⟩
      (∀ levels, t.nesting levels q ≤ t.predicateCount + 1) ∧
      (∀ levels n q' p, t.Reaches levels q n q' → q'.Asks t p → levels < n + t.predicateCount) ∧
      ∀ levels, t.predicateCount < levels →
        (q.run (t.evaluate levels)).outcome ≠ .exhausted ∧
        q.run (t.evaluate levels) = sh.store.evaluate viewer action given m := by
  intro t
  have hdepth : t.predicateCount < t.depth + 1 := Nat.lt_succ_of_le (Nat.le_add_left _ _)
  refine ⟨perform_evaluate_ends (fun given => (h.run_eq hdepth ⟨viewer, action, given, m⟩).1) subject, ?_⟩
  intro given q
  refine ⟨fun levels => ?_, ?_, ?_⟩
  · exact (h.nesting_le_within levels q).trans (Nat.add_le_add_right (t.card_within_le q.key) 1)
  · intro levels n q' p hreaches hasks
    have hcard : levels + (t.within q'.key).card ≤ n + (t.within q.key).card := h.card_of_reaches hreaches
    have hpos : 0 < (t.within q'.key).card := Table.card_within_pos hasks.rule
    have hle := t.card_within_le q.key
    omega
  · intro levels hlevels
    obtain ⟨hends, hrun⟩ := h.run_eq hlevels q
    exact ⟨hends, hrun.trans (h.run_eq hdepth q).2.symm⟩

theorem orphans_acyclic : orphans.table.Acyclic := by
  refine .of_rank (fun key => if key.2 = "see" then 2 else if key.2 = "edit" then 1 else 0) fun key key' hrefers => ?_
  obtain ⟨p, -, -, hp, -⟩ := id hrefers
  have hrule : orphans.table.rule? key.1 key.2 =
      if "post" = key.1 ∧ key.2 ∈ ["edit"] then
        some (.predicate (Condition.predicate 1 (.context "cannot edit" (.check "run" "blog"))))
      else if "post" = key.1 ∧ key.2 ∈ ["see"] then some (.predicate (Condition.predicate 0 (.check "edit" "post")))
      else none := by
    rw [orphans, Table.rule?_define, Table.rule?_define]
    rfl
  split at hrule
  · rename_i hedit
    have hnamed := List.mem_singleton.mp (hrefers.mem_named hrule)
    simp [hnamed, List.mem_singleton.mp hedit.2]
  · split at hrule
    · rename_i hsee
      have hnamed := List.mem_singleton.mp (hrefers.mem_named hrule)
      simp [hnamed, List.mem_singleton.mp hsee.2]
    · rw [hrule] at hp
      cases hp

/-- Two predicates, and a check that goes three levels deep: the third is refused for its type. -/
theorem perform_of_acyclic_orphans :
    let t := orphans.table
    let see : Inquiry := ⟨none, "see", .bare "post", Memory.fresh⟩
    let edit : Inquiry := ⟨none, "edit", .bare "post", Memory.fresh⟩
    t.Acyclic ∧ t.predicateCount = 2 ∧
    ((Shared.of orphans).perform Memory.fresh (.evaluate none "see" (.gives (.bare "post")))).1.outcome ≠ .exhausted ∧
    t.nesting 9 see = 3 ∧ t.nesting 9 see ≤ t.predicateCount + 1 ∧
    (t.Reaches 9 see 8 edit ∧ 9 < 8 + t.predicateCount) ∧
    see.run (t.evaluate 3) = orphans.evaluate none "see" (.bare "post") Memory.fresh := by
  intro t see edit
  obtain ⟨hends, hlevels⟩ := perform_of_acyclic (.of orphans) orphans_acyclic Memory.fresh none "see" (.gives (.bare "post"))
  obtain ⟨hnesting, hasked, hrun⟩ := hlevels (.bare "post")
  have hreaches : t.Reaches 9 see 8 edit := .next .here List.mem_cons_self
  exact ⟨orphans_acyclic, rfl, hends, rfl, hnesting 9, ⟨hreaches, hasked 9 8 edit _ hreaches ⟨rfl, rfl⟩⟩,
    (hrun 3 (by decide)).2⟩

end Shared

end Permit
