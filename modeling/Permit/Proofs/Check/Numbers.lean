import Permit.Proofs.Check.Below

/-!
# Numbers that predicates keep

What is done with the numbers of predicates while a check is made, use by use, at every depth. A number that is found is
the one that was left last, by whatever copy of the predicate; and only a predicate that was asked uses its number.
-/

namespace Permit

/-- One use of the number that a predicate keeps. -/
inductive Use where
  /-- The predicate is asked while it keeps this number. -/
  | began (predicate : Predicate) (viewer entity : Option Json) (number : Nat)
  | loaded (predicate : Predicate) (number : Nat)
  | saved (predicate : Predicate) (number : Nat)

namespace Use

def predicate : Use → Predicate
  | .began p _ _ _ | .loaded p _ | .saved p _ => p

def invocation? : Use → Option (Predicate × Option Json × Option Json)
  | .began p viewer entity _ => some (p, viewer, entity)
  | .loaded .. | .saved .. => none

/-- The number that the predicate finds. -/
def found? : Use → Option Nat
  | .began _ _ _ number | .loaded _ number => some number
  | .saved .. => none

/-- The number that is left in the cell, if one is. -/
def left? (cell : Nat) : Use → Option Nat
  | .saved p number => if p.cell = cell then some number else none
  | .began .. | .loaded .. => none

end Use

/-- The numbers as some uses leave them: in each cell the last one that was saved there. -/
def Memory.leftBy (m : Memory) (uses : List Use) : Memory :=
  fun cell => ((uses.filterMap (Use.left? cell)).getLast?).getD (m cell)

namespace Memory

@[simp] theorem leftBy_nil (m : Memory) : m.leftBy [] = m := rfl

theorem leftBy_append (m : Memory) (us vs : List Use) : m.leftBy (us ++ vs) = (m.leftBy us).leftBy vs := by
  funext cell
  simp only [leftBy, List.filterMap_append, List.getLast?_append, Option.getD_or]

@[simp] theorem leftBy_saved (m : Memory) (p : Predicate) (number : Nat) :
    m.leftBy [.saved p number] = m.set p.cell number := by
  funext cell
  by_cases h : p.cell = cell
  · simp [leftBy, Use.left?, set, h]
  · simp [leftBy, Use.left?, set, h, Ne.symm h]

@[simp] theorem leftBy_loaded (m : Memory) (p : Predicate) (number : Nat) : m.leftBy [.loaded p number] = m := rfl

@[simp] theorem leftBy_began (m : Memory) (p : Predicate) (viewer entity : Option Json) (number : Nat) :
    m.leftBy [.began p viewer entity number] = m := rfl

end Memory

/-- The predicate was asked in the course of these uses. -/
def Asks (uses : List Use) (p : Predicate) : Prop := ∃ viewer entity number, .began p viewer entity number ∈ uses

/-- After the past uses this one may come: it finds what they left, and it is a use by a predicate that was asked. -/
structure Use.Follows (m : Memory) (past : List Use) (u : Use) : Prop where
  found : ∀ number, u.found? = some number → number = m.leftBy past u.predicate.cell
  asked : Asks (past ++ [u]) u.predicate

/-- Each of the uses follows those before it. -/
def Coherent (m : Memory) : List Use → List Use → Prop
  | _, [] => True
  | past, u :: uses => u.Follows m past ∧ Coherent m (past ++ [u]) uses

namespace Coherent

variable {m : Memory} {past us vs : List Use}

theorem append (hus : Coherent m past us) (hvs : Coherent m (past ++ us) vs) : Coherent m past (us ++ vs) := by
  induction us generalizing past with
  | nil => simpa using hvs
  | cons u us ih => exact ⟨hus.1, ih hus.2 (by simpa using hvs)⟩

theorem follows {u : Use} (h : Coherent m past (us ++ u :: vs)) : u.Follows m (past ++ us) := by
  induction us generalizing past with
  | nil => simpa using h.1
  | cons v us ih => simpa using ih h.2

end Coherent

/-- The uses are what a run did with the numbers, from the past uses on. -/
structure Logged (m : Memory) (past : List Use) (after : Memory) (trace : Trace) (uses : List Use) : Prop where
  coherent : Coherent m past uses
  memory : after = m.leftBy (past ++ uses)
  invocations : trace.invocations = uses.filterMap Use.invocation?

namespace Logged

variable {m m' m'' : Memory} {past us vs : List Use} {t t' : Trace}

theorem nil (h : m' = m.leftBy past) (ht : t.invocations = []) : Logged m past m' t [] :=
  ⟨trivial, by simpa using h, ht⟩

theorem append (hus : Logged m past m' t us) (hvs : Logged m (past ++ us) m'' t' vs) :
    Logged m past m'' (t ++ t') (us ++ vs) :=
  ⟨hus.coherent.append hvs.coherent, by rw [hvs.memory, List.append_assoc],
    by rw [Trace.invocations_append, List.filterMap_append, hus.invocations, hvs.invocations]⟩

/-- A use that leaves nothing in the trace. -/
theorem cons {u : Use} (hu : u.Follows m past) (hsilent : u.invocation? = none)
    (h : Logged m (past ++ [u]) m' t us) : Logged m past m' t (u :: us) :=
  ⟨⟨hu, h.coherent⟩, by simpa using h.memory, by rw [List.filterMap_cons_none hsilent]; exact h.invocations⟩

/-- The rest of the trace does not matter. -/
theorem of_invocations (h : Logged m past m' t us) (ht : t'.invocations = t.invocations) : Logged m past m' t' us :=
  ⟨h.coherent, h.memory, ht.trans h.invocations⟩

end Logged

/-! ## Scripts -/

/-- What a script for a predicate does with the numbers; `below` says what the checks that it makes do with them. -/
def Script.uses (ask : Asked) (below : Inquiry → List Use) (p : Predicate) : Script → Memory → List Use
  | .finish _, _ | .panic _, _ => []
  | .probe _ _ next, m => next.uses ask below p m
  | .load next, m => .loaded p (m p.cell) :: (next (m p.cell)).uses ask below p m
  | .save value next, m => .saved p value :: next.uses ask below p (m.set p.cell value)
  | .check viewer action subject next, m =>
      below ⟨viewer, action, subject, m⟩ ++
        match ask viewer action subject m with
        | ⟨.returned answer, m', _⟩ => (next answer).uses ask below p m'
        | _ => []

/-- The uses that `below` gives for a check are what the check does with the numbers. -/
def Logs (m : Memory) (ask : Asked) (below : Inquiry → List Use) : Prop :=
  ∀ q past, q.memory = m.leftBy past → Logged m past (q.run ask).memory (q.run ask).trace (below q)

theorem Asks.append {past : List Use} {p : Predicate} (h : Asks past p) (us : List Use) : Asks (past ++ us) p := by
  obtain ⟨viewer, entity, number, hmem⟩ := h
  exact ⟨viewer, entity, number, List.mem_append_left us hmem⟩

theorem Script.logged_perform {m₀ m : Memory} {past : List Use} {p : Predicate} {ask : Asked}
    {below : Inquiry → List Use} (hbelow : Logs m₀ ask below) (hp : Asks past p) (hm : m = m₀.leftBy past)
    (script : Script) :
    Logged m₀ past (script.perform ask p.cell m).memory (script.perform ask p.cell m).trace
      (script.uses ask below p m) := by
  -- The past grows with every use, and the memory stays what it leaves; that is what carries the induction.
  induction script generalizing m past with
  | finish answer => exact .nil hm rfl
  | panic message => exact .nil hm rfl
  | probe viewer entity next ih =>
      rw [perform_probe]
      exact (ih hp hm).of_invocations rfl
  | load next ih =>
      rw [perform_load]
      refine .cons ⟨?_, hp.append _⟩ rfl (ih (m p.cell) (hp.append _) ?_)
      · rintro number ⟨⟩
        rw [hm]; rfl
      · rw [Memory.leftBy_append, Memory.leftBy_loaded, hm]
  | save value next ih =>
      rw [perform_save]
      refine .cons ⟨fun _ h => (by cases h), hp.append _⟩ rfl (ih (hp.append _) ?_)
      rw [Memory.leftBy_append, Memory.leftBy_saved, hm]
  | check viewer action subject next ih =>
      have hq := hbelow ⟨viewer, action, subject, m⟩ past hm
      rcases hrun : ask viewer action subject m with ⟨o, m', t⟩
      rw [Inquiry.run, hrun] at hq
      rw [perform, uses, hrun]
      cases o with
      | returned answer =>
          rw [Effect.bind_of_returned hrun]
          exact hq.append (ih answer (hp.append _) hq.memory)
      | panicked message =>
          rw [Effect.bind_of_panicked hrun, List.append_nil]
          exact hq
      | exhausted =>
          rw [Effect.bind_of_exhausted hrun, List.append_nil]
          exact hq

/-! ## Checks -/

namespace Table

/-- What a check does with the numbers when so many levels are left for it. -/
def uses (t : Table) : Nat → Inquiry → List Use
  | 0, _ => []
  | levels + 1, q =>
      match Argument.checkViewer q.viewer, t.rule? q.subject.typeName q.action with
      | .ok (), some (.predicate p) =>
          .began p q.viewer q.subject.value? (q.memory p.cell) ::
            (p.script q.viewer q.subject.value?).uses (t.evaluate levels) (t.uses levels) p q.memory
      | _, _ => []

variable {t : Table} {q : Inquiry}

theorem uses_of_predicate {p : Predicate} (hv : Argument.checkViewer q.viewer = .ok ())
    (hr : t.rule? q.subject.typeName q.action = some (.predicate p)) (levels : Nat) :
    t.uses (levels + 1) q =
      .began p q.viewer q.subject.value? (q.memory p.cell) ::
        (p.script q.viewer q.subject.value?).uses (t.evaluate levels) (t.uses levels) p q.memory := by
  rw [uses, hv, hr]

theorem uses_of_not_predicate (hr : ∀ p, t.rule? q.subject.typeName q.action ≠ some (.predicate p)) (levels : Nat) :
    t.uses (levels + 1) q = [] := by
  unfold uses
  split
  · rename_i p _ hp
    exact absurd hp (hr p)
  · rfl

theorem uses_of_refused {refusal : Refusal} (hv : Argument.checkViewer q.viewer = .error refusal) (levels : Nat) :
    t.uses (levels + 1) q = [] := by
  simp [uses, hv]

end Table

theorem Outcome.invocations_told (type action : String) (kind : Rule.Kind) (o : Outcome (Except Failure Bool)) :
    (o.told type action kind).invocations = [] := by
  cases o <;> rfl

theorem Predicate.logged_invoke {m₀ m : Memory} {past : List Use} {ask : Asked} {below : Inquiry → List Use}
    (hbelow : Logs m₀ ask below) (hm : m = m₀.leftBy past) (p : Predicate) (viewer entity : Option Json) :
    Logged m₀ past (p.invoke ask viewer entity m).memory (p.invoke ask viewer entity m).trace
      (.began p viewer entity (m p.cell) :: (p.script viewer entity).uses ask below p m) := by
  have hasked : Asks (past ++ [.began p viewer entity (m p.cell)]) p :=
    ⟨viewer, entity, m p.cell, List.mem_append_right past List.mem_cons_self⟩
  have hbegan : Logged m₀ past m [.invoked p viewer entity] [.began p viewer entity (m p.cell)] := by
    refine ⟨⟨⟨?_, hasked⟩, trivial⟩, ?_, rfl⟩
    · rintro number ⟨⟩
      rw [hm]; rfl
    · rw [Memory.leftBy_append, Memory.leftBy_began, hm]
  exact hbegan.append (Script.logged_perform hbelow hasked hbegan.memory (p.script viewer entity))

namespace Table

theorem logged_evaluate (t : Table) (m₀ : Memory) (levels : Nat) : Logs m₀ (t.evaluate levels) (t.uses levels) := by
  induction levels with
  | zero => exact fun q past hm => .nil hm rfl
  | succ levels ih =>
      intro q past hm
      rcases Argument.checkViewer_cases q.viewer with hv | hv
      · rw [Inquiry.run, evaluate_of_accepted hv]
        cases hr : t.rule? q.subject.typeName q.action with
        | none =>
            rw [uses_of_not_predicate (by simp [hr])]
            cases hk : t.knows q.subject.typeName with
            | false =>
                rw [decide_of_not_knows hk]
                exact .nil hm rfl
            | true =>
                rw [decide_of_missing hk hr]
                exact .nil hm rfl
        | some rule =>
            rw [decide_of_rule hr]
            cases rule with
            | allow | deny =>
                rw [uses_of_not_predicate (by simp [hr])]
                exact .nil hm rfl
            | predicate p =>
                rw [uses_of_predicate hv hr]
                refine (Predicate.logged_invoke ih hm p q.viewer q.subject.value?).of_invocations ?_
                rw [Trace.invocations_append, Outcome.invocations_told, List.append_nil]
                rfl
      · rw [uses_of_refused hv, Inquiry.run, evaluate_of_refused hv]
        exact .nil hm rfl

end Table

end Permit
