import Permit.Proofs.Shared.Breaking
import Permit.Proofs.Shared.Serial

/-!
# Poisoned locks

Over a run of calls a lock is poisoned from the first change that breaks, and from no other call. The store stays from
then on as the calls before that change left it, and every call but the making of handles panics and does nothing else.
A check that panics leaves no mark.
-/

namespace Permit

namespace Shared

variable {sh : Shared} {m : Memory} {c d : Call} {calls : List Call} {i j : Nat} {message : String}

/-- What stands before the call with a number: the shared store and the numbers that predicates keep. -/
def before (sh : Shared) (m : Memory) (calls : List Call) (i : Nat) : Shared × Memory := (sh.runAll m (calls.take i)).2

/-- What came of the call with a number, with what it left in the trace. -/
def came? (sh : Shared) (m : Memory) (calls : List Call) (i : Nat) : Option (Result × Trace) := (sh.runAll m calls).1[i]?

theorem came?_of_call (h : calls[i]? = some c) (sh : Shared) (m : Memory) :
    sh.came? m calls i =
      let run := ((sh.before m calls i).1.perform (sh.before m calls i).2 c).1
      some (run.outcome, run.trace) :=
  runAll_getElem? h sh m

theorem before_succ (h : calls[i]? = some c) (sh : Shared) (m : Memory) :
    (sh.before m calls (i + 1)).1 = ((sh.before m calls i).1.perform (sh.before m calls i).2 c).2 :=
  congrArg Prod.fst (runAll_take_succ h sh m)

theorem before_succ_of_none (h : calls[i]? = none) (sh : Shared) (m : Memory) :
    sh.before m calls (i + 1) = sh.before m calls i :=
  congrArg Prod.snd (runAll_take_succ_of_none h sh m)

/-! ## Which calls poison -/

/-- The change takes the lock, and breaks. -/
def BreaksAt (sh : Shared) (m : Memory) (calls : List Call) (i : Nat) (message : String) : Prop :=
  (∃ c, calls[i]? = some c ∧ c.Breaks message) ∧ (sh.before m calls i).1.poisoned = false ∧
    ∃ tried, sh.came? m calls i = some (.panicked message, List.replicate tried .converted)

theorem poisoned_perform (sh : Shared) (m : Memory) (c : Call) :
    (sh.perform m c).2.poisoned = true ↔ sh.poisoned = true ∨ ∃ message, c.Breaks message := by
  cases h : sh.poisoned with
  | true =>
      refine iff_of_true ?_ (.inl rfl)
      by_cases hc : c = .clone
      · subst hc
        exact h
      · rw [perform_of_poisoned h m hc]
        exact h
  | false =>
      rcases c.whole_or_breaks with hc | ⟨message, hc⟩
      · refine iff_of_false ?_ ?_
        · simp [perform_of_whole h hc m]
        · rintro (hp | ⟨message, hb⟩)
          · cases hp
          · exact hb.not_whole hc
      · obtain ⟨tried, hrun⟩ := perform_of_breaks h hc m
        rw [hrun]
        exact iff_of_true rfl (.inr ⟨message, hc⟩)

theorem breaksAt_of_breaks (hc : calls[i]? = some c) (hb : c.Breaks message)
    (h : (sh.before m calls i).1.poisoned = false) : sh.BreaksAt m calls i message := by
  obtain ⟨tried, hrun⟩ := perform_of_breaks h hb (sh.before m calls i).2
  refine ⟨⟨c, hc, hb⟩, h, tried, ?_⟩
  rw [came?_of_call hc, hrun]

theorem poisoned_before_succ (sh : Shared) (m : Memory) (calls : List Call) (i : Nat) :
    (sh.before m calls (i + 1)).1.poisoned = true ↔
      (sh.before m calls i).1.poisoned = true ∨ ∃ message, sh.BreaksAt m calls i message := by
  cases hc : calls[i]? with
  | none =>
      rw [before_succ_of_none hc]
      refine ⟨.inl, ?_⟩
      rintro (hp | ⟨message, ⟨c, hc', -⟩, -⟩)
      · exact hp
      · rw [hc] at hc'
        cases hc'
  | some c =>
      rw [before_succ hc, poisoned_perform]
      constructor
      · rintro (hp | ⟨message, hb⟩)
        · exact .inl hp
        · cases hp : (sh.before m calls i).1.poisoned with
          | true => exact .inl rfl
          | false => exact .inr ⟨message, breaksAt_of_breaks hc hb hp⟩
      · rintro (hp | ⟨message, ⟨c', hc', hb⟩, -⟩)
        · exact .inl hp
        · rw [hc] at hc'
          cases hc'
          exact .inr ⟨message, hb⟩

theorem exists_breaksAt_succ (sh : Shared) (m : Memory) (calls : List Call) (i : Nat) :
    (∃ j message, j < i + 1 ∧ sh.BreaksAt m calls j message) ↔
      (∃ j message, j < i ∧ sh.BreaksAt m calls j message) ∨ ∃ message, sh.BreaksAt m calls i message := by
  constructor
  · rintro ⟨j, message, hj, hb⟩
    rcases Nat.lt_succ_iff_lt_or_eq.mp hj with hlt | rfl
    · exact .inl ⟨j, message, hlt, hb⟩
    · exact .inr ⟨message, hb⟩
  · rintro (⟨j, message, hj, hb⟩ | ⟨message, hb⟩)
    · exact ⟨j, message, Nat.lt_succ_of_lt hj, hb⟩
    · exact ⟨i, message, Nat.lt_succ_self i, hb⟩

/-- A lock is poisoned exactly when a change has taken it and broken. -/
theorem poisoned_before_iff (h : sh.poisoned = false) (m : Memory) (calls : List Call) (i : Nat) :
    (sh.before m calls i).1.poisoned = true ↔ ∃ j message, j < i ∧ sh.BreaksAt m calls j message := by
  induction i with
  | zero =>
      refine iff_of_false ?_ ?_
      · simp [before, runAll, h]
      · rintro ⟨j, message, hj, -⟩
        exact absurd hj (Nat.not_lt_zero j)
  | succ i ih => rw [poisoned_before_succ, exists_breaksAt_succ, ih]

/-! ## After a change that broke -/

theorem store_perform_of_poisoned (h : sh.poisoned = true) (m : Memory) (c : Call) :
    (sh.perform m c).2.store = sh.store := by
  by_cases hc : c = .clone
  · subst hc
    rfl
  · rw [perform_of_poisoned h m hc]

theorem stays_of_poisoned (sh : Shared) (m : Memory) (calls : List Call) (i k : Nat)
    (h : (sh.before m calls i).1.poisoned = true) :
    (sh.before m calls (i + k)).1.store = (sh.before m calls i).1.store ∧
    (sh.before m calls (i + k)).1.poisoned = true := by
  induction k with
  | zero => exact ⟨rfl, h⟩
  | succ k ih =>
      obtain ⟨hstore, hpoisoned⟩ := ih
      rw [← Nat.add_assoc]
      cases hc : calls[i + k]? with
      | none =>
          rw [before_succ_of_none hc]
          exact ⟨hstore, hpoisoned⟩
      | some c =>
          rw [before_succ hc]
          refine ⟨?_, (poisoned_perform _ _ c).mpr (.inl hpoisoned)⟩
          rw [store_perform_of_poisoned hpoisoned, hstore]

theorem BreaksAt.stays (h : sh.BreaksAt m calls j message) (hi : j < i) :
    (sh.before m calls i).1.store = (sh.before m calls j).1.store ∧ (sh.before m calls i).1.poisoned = true := by
  obtain ⟨⟨c, hc, hb⟩, hsound, -⟩ := h
  obtain ⟨tried, hrun⟩ := perform_of_breaks hsound hb (sh.before m calls j).2
  have hnext : (sh.before m calls (j + 1)).1 = { (sh.before m calls j).1 with poisoned := true } := by
    rw [before_succ hc, hrun]
  have hafter := stays_of_poisoned sh m calls (j + 1) (i - (j + 1)) (by rw [hnext])
  rw [Nat.add_sub_cancel' hi, hnext] at hafter
  exact hafter

theorem came?_of_poisoned (h : (sh.before m calls i).1.poisoned = true) (hd : calls[i]? = some d) (hclone : d ≠ .clone) :
    sh.came? m calls i = some (.panicked poisonMessage, []) := by
  rw [came?_of_call hd, perform_of_poisoned h _ hclone]

theorem came?_clone (hd : calls[i]? = some .clone) (sh : Shared) (m : Memory) :
    sh.came? m calls i = some (.returned (.ok (.handle (sh.before m calls i).1.handles)), []) :=
  came?_of_call hd sh m

/-! ## Checks leave no mark -/

theorem perform_evaluate_shared (sh : Shared) (m : Memory) (viewer : Option Json) (action : String)
    (subject : Conversion Subject) : (sh.perform m (.evaluate viewer action subject)).2 = sh :=
  reading_shared ..

theorem before_evaluate {viewer : Option Json} {action : String} {subject : Conversion Subject}
    (h : calls[i]? = some (.evaluate viewer action subject)) (sh : Shared) (m : Memory) :
    (sh.before m calls (i + 1)).1 = (sh.before m calls i).1 := by
  rw [before_succ h, perform_evaluate_shared]

theorem memory_checking {s : Store} (hs : s.table.Stateless) (m : Memory) (viewer : Option Json) (action : String)
    (subject : Conversion Subject) : (checking s viewer action subject m).memory = m := by
  rcases Argument.checkViewer_cases viewer with hv | hv
  · rw [checking_of_accepted hv]
    cases subject with
    | gives subject => exact hs.evaluate_memory _ viewer action subject m
    | panics message => rfl
  · rw [checking_of_refused hv]
    rfl

theorem memory_perform_evaluate (hs : sh.store.table.Stateless) (m : Memory) (viewer : Option Json) (action : String)
    (subject : Conversion Subject) : (sh.perform m (.evaluate viewer action subject)).1.memory = m := by
  cases h : sh.poisoned with
  | true =>
      have hcheck : Call.evaluate viewer action subject ≠ .clone := nofun
      rw [perform_of_poisoned h m hcheck]
  | false =>
      rw [perform_evaluate h]
      exact memory_checking hs m viewer action subject

/-- Without a check by rules that keep nothing, all other calls of the run come to the same. -/
theorem runAll_eraseIdx_evaluate {viewer : Option Json} {action : String} {subject : Conversion Subject}
    (h : calls[i]? = some (.evaluate viewer action subject)) (hs : (sh.before m calls i).1.store.table.Stateless) :
    sh.runAll m (calls.eraseIdx i) = ((sh.runAll m calls).1.eraseIdx i, (sh.runAll m calls).2) := by
  induction calls generalizing sh m i with
  | nil => simp at h
  | cons c cs ih =>
      cases i with
      | zero =>
          cases h
          have hstateless : sh.store.table.Stateless := hs
          simp only [List.eraseIdx_cons_zero, runAll, perform_evaluate_shared, memory_perform_evaluate hstateless]
      | succ i =>
          simp only [List.getElem?_cons_succ] at h
          have hrest : ((sh.perform m c).2.before (sh.perform m c).1.memory cs i).1.store.table.Stateless := hs
          simp only [List.eraseIdx_cons_succ, runAll, ih h hrest]

/-! ## Whole runs -/

/-- How the lock fares in a run of calls. -/
structure Poisoning (sh : Shared) (m : Memory) (calls : List Call) : Prop where
  poisoned : ∀ i, (sh.before m calls i).1.poisoned = true ↔ ∃ j message, j < i ∧ sh.BreaksAt m calls j message
  stays : ∀ i j message, sh.BreaksAt m calls j message → j < i →
    (sh.before m calls i).1.store = (sh.before m calls j).1.store
  panics : ∀ i j message c, sh.BreaksAt m calls j message → j < i → calls[i]? = some c → c ≠ .clone →
    sh.came? m calls i = some (.panicked poisonMessage, [])
  /-- Handles can still be made, and they are handles of the same store. -/
  clones : ∀ i, calls[i]? = some .clone →
    sh.came? m calls i = some (.returned (.ok (.handle (sh.before m calls i).1.handles)), [])
  checks : ∀ i viewer action subject, calls[i]? = some (.evaluate viewer action subject) →
    (sh.before m calls (i + 1)).1 = (sh.before m calls i).1
  /-- Whatever came of the check, all other calls come to the same without it. -/
  erased : ∀ i viewer action subject, calls[i]? = some (.evaluate viewer action subject) →
    (sh.before m calls i).1.store.table.Stateless →
    sh.runAll m (calls.eraseIdx i) = ((sh.runAll m calls).1.eraseIdx i, (sh.runAll m calls).2)

theorem poisoning (h : sh.poisoned = false) (m : Memory) (calls : List Call) : sh.Poisoning m calls where
  poisoned := poisoned_before_iff h m calls
  stays _ _ _ hb hlt := (hb.stays hlt).1
  panics _ _ _ _ hb hlt hc hclone := came?_of_poisoned (hb.stays hlt).2 hc hclone
  clones _ hc := came?_clone hc sh m
  checks _ _ _ _ hc := before_evaluate hc sh m
  erased _ _ _ _ hc hs := runAll_eraseIdx_evaluate hc hs

end Shared

end Permit
