import Permit.Proofs.Shared.Breaking
import Permit.Proofs.Store.Loose
import Permit.Proofs.Store.Telling

/-!
# What the calls on a shared store tell

A check through a handle tells what it tells on the store itself. Where the lock is poisoned, or an argument panics,
nothing is told of any decision.
-/

namespace Permit

open Host (records)

namespace Shared

variable {sh : Shared} {m : Memory} {c : Call} {q : Inquiry}

/-- The check that a call asks for, if its subject is converted. -/
def Call.inquiry? (m : Memory) : Call → Option Inquiry
  | .evaluate viewer action (.gives subject) => some ⟨viewer, action, subject, m⟩
  | _ => none

/-- The checks that a call makes, at every depth. -/
def made (sh : Shared) (m : Memory) (c : Call) : List Deed :=
  match sh.poisoned, c.inquiry? m with
  | false, some q => sh.store.table.made (sh.store.table.depth + 1) q
  | _, _ => []

def madeBy (sh : Shared) (m : Memory) : List Call → List Deed
  | [] => []
  | c :: cs => sh.made m c ++ (sh.perform m c).2.madeBy (sh.perform m c).1.memory cs

/-! ## One call -/

/-- A check through a handle tells what it tells on the store: that its subject was converted is no record. -/
theorem checking_gives (s : Store) (m : Memory) (viewer : Option Json) (action : String) (subject : Subject) :
    let own := checking s viewer action (.gives subject) m
    let run := s.evaluate viewer action subject m
    own.outcome = run.outcome ∧ records own.trace = records run.trace := by
  rcases Argument.checkViewer_cases viewer with hv | hv
  · rw [checking_of_accepted hv]
    exact ⟨rfl, rfl⟩
  · rw [checking_of_refused hv, Store.evaluate, Table.evaluate_of_refused hv]
    exact ⟨rfl, rfl⟩

theorem tells_checking (s : Store) (m : Memory) (viewer : Option Json) (action : String) (subject : Subject) :
    s.Tells ⟨viewer, action, subject, m⟩ (checking s viewer action (.gives subject) m) := by
  obtain ⟨houtcome, hrecords⟩ := checking_gives s m viewer action subject
  rw [Store.Tells, houtcome, hrecords]
  exact s.tells_evaluate m viewer action subject

theorem records_checking_panics (s : Store) (m : Memory) (viewer : Option Json) (action message : String) :
    records (checking s viewer action (.panics message) m).trace = [] := by
  rcases Argument.checkViewer_cases viewer with hv | hv
  · rw [checking_of_accepted hv]
    rfl
  · rw [checking_of_refused hv]
    rfl

theorem records_of_poisoned (h : sh.poisoned = true) (m : Memory) (c : Call) :
    records (sh.perform m c).1.trace = [] := by
  by_cases hc : c = .clone
  · subst hc
    rfl
  · rw [perform_of_poisoned h m hc]
    rfl

theorem records_evaluate_panics (sh : Shared) (m : Memory) (viewer : Option Json) (action message : String) :
    records (sh.perform m (.evaluate viewer action (.panics message))).1.trace = [] := by
  cases h : sh.poisoned with
  | true => exact records_of_poisoned h m _
  | false =>
      rw [perform_evaluate h]
      exact records_checking_panics sh.store m viewer action message

theorem records_of_breaks {message : String} (h : sh.poisoned = false) (hc : c.Breaks message) (m : Memory) :
    records (sh.perform m c).1.trace = [] := by
  obtain ⟨tried, hrun⟩ := perform_of_breaks h hc m
  rw [hrun]
  simp [records, Trace.events]

theorem records_perform_inquiry (h : sh.poisoned = false) (hq : c.inquiry? m = some q) :
    records (sh.perform m c).1.trace = (sh.store.table.made (sh.store.table.depth + 1) q).flatMap Deed.own := by
  unfold Call.inquiry? at hq
  split at hq
  · rename_i viewer action subject
    cases hq
    rw [perform_evaluate h]
    exact (checking_gives sh.store m viewer action subject).2.trans
      (sh.store.table.records_made (sh.store.table.depth + 1) ⟨viewer, action, subject, m⟩)
  · cases hq

theorem decisions_perform_other (h : sh.poisoned = false) (hq : c.inquiry? m = none) :
    (records (sh.perform m c).1.trace).filter isDecision = [] := by
  rcases c.whole_or_breaks with hc | ⟨message, hc⟩
  · cases hc with
    | evaluate viewer action subject =>
        cases subject with
        | gives subject => cases hq
        | panics message =>
            rw [records_evaluate_panics]
            rfl
    | define type actions rule =>
        rw [perform_define h]
        rfl
    | undefine type actions =>
        cases hu : sh.store.table.undefine? type actions.names with
        | none =>
            rw [perform_undefine_of_none h m hu]
            rfl
        | some out =>
            rw [perform_undefine_of_some h m hu]
            rfl
    | knows type =>
        rw [perform_knows h]
        rfl
    | clone => rfl
  · rw [records_of_breaks h hc]
    rfl

theorem decisions_perform (sh : Shared) (m : Memory) (c : Call) :
    (records (sh.perform m c).1.trace).filter isDecision = (sh.made m c).filterMap Deed.decision? := by
  unfold made
  cases h : sh.poisoned with
  | true =>
      rw [records_of_poisoned h]
      rfl
  | false =>
      cases hq : c.inquiry? m with
      | none => exact decisions_perform_other h hq
      | some q => rw [records_perform_inquiry h hq, Deed.decisions_own]

/-! ## Many calls -/

theorem decisions_runAll (sh : Shared) (m : Memory) (calls : List Call) :
    ((sh.runAll m calls).1.flatMap fun d => records d.2).filter isDecision =
      (sh.madeBy m calls).filterMap Deed.decision? := by
  induction calls generalizing sh m with
  | nil => rfl
  | cons c cs ih =>
      simp only [runAll, madeBy, List.flatMap_cons, List.filter_append, List.filterMap_append, decisions_perform, ih]

/-- The law of the log. A check, typed or loose, on a store or through a handle, tells what the checks of its predicate
tell, in their order, and then about itself; with bad arguments, or on a poisoned lock, it tells nothing. Over a run the
decisions that are told are those that were made, at every depth, each once and in order. -/
theorem runAll_tells (sh : Shared) (m : Memory) :
    (∀ viewer action subject,
      sh.store.Tells ⟨viewer, action, subject, m⟩ (sh.store.evaluate viewer action subject m)) ∧
    (∀ levels q, records (q.run (sh.store.table.evaluate (levels + 1))).trace =
      (sh.store.table.below levels q).flatMap (fun q' => records (q'.run (sh.store.table.evaluate levels)).trace) ++
        (sh.store.table.deed q (q.run (sh.store.table.evaluate (levels + 1))).outcome).own) ∧
    (∀ viewer action subject,
      match Store.checkArguments viewer action subject with
      | .ok (a, sub) => sh.store.Tells ⟨viewer, a, sub, m⟩ (sh.store.evaluateLoose viewer action subject m)
      | .error refusal => refusal.ofArguments = true ∧
          sh.store.evaluateLoose viewer action subject m = ⟨.returned (.error refusal), m, []⟩) ∧
    (sh.poisoned = false → ∀ viewer action subject, ∃ own, sh.store.Tells ⟨viewer, action, subject, m⟩ own ∧
      (sh.perform m (.evaluate viewer action (.gives subject))).1 =
        ⟨own.outcome.map (·.map .allowed), own.memory, own.trace⟩) ∧
    (∀ viewer action message, records (sh.perform m (.evaluate viewer action (.panics message))).1.trace = []) ∧
    (sh.poisoned = true → ∀ c, records (sh.perform m c).1.trace = []) ∧
    (∀ calls, ((sh.store.runAll m calls).1.flatMap fun d => records d.trace).filter isDecision =
      (sh.store.madeBy m calls).filterMap Deed.decision?) ∧
    (∀ calls, ((sh.runAll m calls).1.flatMap fun d => records d.2).filter isDecision =
      (sh.madeBy m calls).filterMap Deed.decision?) := by
  refine ⟨sh.store.tells_evaluate m, sh.store.table.records_evaluate, ?_, ?_, sh.records_evaluate_panics m,
    fun h => records_of_poisoned h m, sh.store.decisions_runAll m, sh.decisions_runAll m⟩
  · intro viewer action subject
    cases h : Store.checkArguments viewer action subject with
    | ok good => exact Store.tells_evaluateLoose h sh.store m
    | error refusal => exact ⟨Store.checkArguments_error h, Store.evaluateLoose_of_error h sh.store m⟩
  · intro h viewer action subject
    exact ⟨_, tells_checking sh.store m viewer action subject, congrArg Prod.fst (perform_evaluate h m ..)⟩

/-- To see a post one asks whether one may edit it, and nobody may: two decisions, the inner one first. -/
theorem runAll_tells_nested :
    let p : Predicate :=
      ⟨0, fun viewer _ => .check viewer "edit" (.bare "post") fun answer => .finish (answer.mapError .refused)⟩
    let sh : Shared := .of ⟨Table.empty.define "post" ["see"] (.predicate p)⟩
    ((sh.runAll Memory.fresh [.evaluate none "see" (.gives (.bare "post"))]).1.flatMap fun d => records d.2).filter
        isDecision = [Deed.decision "post" "edit" .deny false, Deed.decision "post" "see" .predicate false] ∧
    (∃ own, sh.store.Tells ⟨none, "see", .bare "post", Memory.fresh⟩ own ∧
      (sh.perform Memory.fresh (.evaluate none "see" (.gives (.bare "post")))).1 =
        ⟨own.outcome.map (·.map .allowed), own.memory, own.trace⟩) ∧
    ∀ c, records (({ sh with poisoned := true } : Shared).perform Memory.fresh c).1.trace = [] := by
  intro p sh
  obtain ⟨-, -, -, hcheck, -, -, -, hrun⟩ := runAll_tells sh Memory.fresh
  obtain ⟨-, -, -, -, -, hpoisoned, -, -⟩ := runAll_tells { sh with poisoned := true } Memory.fresh
  refine ⟨?_, hcheck rfl none "see" (.bare "post"), hpoisoned rfl⟩
  rw [hrun]
  rfl

end Shared

end Permit
