import Permit.Proofs.Store.Typed

/-!
# Loose runs refine typed runs

Leave out of a run of loose calls those whose arguments are refused, and make the others with their converted arguments:
nothing else that the run does changes.
-/

namespace Permit

def Done.rejected (d : Done) : Bool :=
  match d.result with
  | .returned (.error refusal) => refusal.ofArguments
  | _ => false

namespace Store

variable {c d : Call} {calls : List Call}

theorem decide_not_ofArguments {t : Table} {ask : Asked} {viewer : Option Json} {action : String} {subject : Subject}
    {m : Memory} {refusal : Refusal}
    (h : (t.decide ask viewer action subject m).outcome = .returned (.error refusal)) :
    refusal.ofArguments = false := by
  rcases Table.decide_refusal h with ⟨rfl, -⟩ | ⟨failure, rfl⟩
  · rfl
  · rfl

theorem not_rejected_of_typed? (hl : c.loose = true) (h : c.typed? = some d) (s : Store) (m : Memory) :
    (s.turn m c).1.rejected = false := by
  rw [turn_of_typed? h]
  cases d with
  | evaluate viewer action subject =>
      have hv := Call.checkViewer_of_typed? hl h
      rw [turn_evaluate]
      simp only [Done.rejected, evaluate, Table.evaluate_of_accepted hv]
      cases ho : (s.table.decide (s.table.evaluate s.table.depth) viewer action subject m).outcome with
      | returned answer =>
          cases answer with
          | ok allowed => rfl
          | error refusal => exact decide_not_ofArguments ho
      | panicked message => rfl
      | exhausted => rfl
  | define type actions rule => rfl
  | undefine type actions =>
      cases hk : s.knows type with
      | true =>
          obtain ⟨t, removed, hu⟩ := undefine?_of_knows hk actions.names
          rw [turn_undefine_of_some hu]; rfl
      | false => rw [turn_undefine_of_not_knows hk]; rfl
  | evaluateLoose | defineLoose | undefineLoose => cases Call.loose_of_typed? h

theorem rejected_iff (hl : c.loose = true) (s : Store) (m : Memory) :
    (s.turn m c).1.rejected = true ↔ c.typed? = none := by
  constructor
  · intro hr
    cases h : c.typed? with
    | none => rfl
    | some d => rw [not_rejected_of_typed? hl h] at hr; cases hr
  · intro h
    obtain ⟨refusal, hargs, hturn⟩ := turn_of_not_typed h s m
    rw [hturn]; exact hargs

/-- A rejected call leaves no trace and changes nothing. -/
theorem turn_of_rejected (hl : c.loose = true) {s : Store} {m : Memory} (hr : (s.turn m c).1.rejected = true) :
    (s.turn m c).1.trace = [] ∧ (s.turn m c).2 = (s, m) := by
  obtain ⟨refusal, -, hturn⟩ := turn_of_not_typed ((rejected_iff hl s m).mp hr) s m
  rw [hturn]; exact ⟨rfl, rfl⟩

theorem runAll_typed (hl : ∀ c ∈ calls, c.loose = true) (s : Store) (m : Memory) :
    s.runAll m (calls.filterMap Call.typed?) =
      ((s.runAll m calls).1.filter (fun d => !d.rejected), (s.runAll m calls).2) := by
  induction calls generalizing s m with
  | nil => rfl
  | cons c cs ih =>
      have hc := hl c List.mem_cons_self
      have hcs : ∀ c ∈ cs, c.loose = true := fun c h => hl c (List.mem_cons_of_mem _ h)
      cases h : c.typed? with
      | none =>
          have hr := (rejected_iff hc s m).mpr h
          obtain ⟨-, hsame⟩ := turn_of_rejected hc hr
          rw [List.filterMap_cons_none h, runAll_cons, List.filter_cons_of_neg (by simp [hr]), hsame]
          exact ih hcs s m
      | some d =>
          have hr := not_rejected_of_typed? hc h s m
          rw [List.filterMap_cons_some h, runAll_cons, runAll_cons, List.filter_cons_of_pos (by simp [hr]),
            ← turn_of_typed? h, ih hcs]

theorem trace_of_rejected (hl : ∀ c ∈ calls, c.loose = true) (s : Store) (m : Memory) :
    ∀ d ∈ (s.runAll m calls).1, d.rejected = true → d.trace = [] := by
  induction calls generalizing s m with
  | nil => intro d hd; cases hd
  | cons c cs ih =>
      intro d hd hr
      rcases List.mem_cons.mp hd with rfl | hd
      · exact (turn_of_rejected (hl c List.mem_cons_self) hr).1
      · exact ih (fun c h => hl c (List.mem_cons_of_mem _ h)) _ _ d hd hr

theorem flatMap_filter_rejected {α : Type} {dones : List Done} (f : Trace → List α) (hf : f [] = [])
    (h : ∀ d ∈ dones, d.rejected = true → d.trace = []) :
    (dones.filter (fun d => !d.rejected)).flatMap (fun d => f d.trace) = dones.flatMap (fun d => f d.trace) := by
  induction dones with
  | nil => rfl
  | cons d ds ih =>
      have hds := ih fun d hd => h d (List.mem_cons_of_mem _ hd)
      cases hr : d.rejected with
      | false => rw [List.filter_cons_of_pos (by simp [hr]), List.flatMap_cons, List.flatMap_cons, hds]
      | true =>
          rw [List.filter_cons_of_neg (by simp [hr]), hds, List.flatMap_cons, h d List.mem_cons_self hr, hf,
            List.nil_append]

/-- A run of loose calls is the typed run of the calls that are not rejected: the same store and memory at the end, the
same results and traces of these calls, the same events and invocations in all. The rejected calls are those without a
typed form, and none of them has any effect. -/
theorem runAll_refines_typed (s : Store) (m : Memory) (calls : List Call) (hl : ∀ c ∈ calls, c.loose = true) :
    let run := s.runAll m calls
    let typed := s.runAll m (calls.filterMap Call.typed?)
    typed.2 = run.2 ∧
    typed.1 = run.1.filter (fun d => !d.rejected) ∧
    typed.1.flatMap (fun d => d.trace.events) = run.1.flatMap (fun d => d.trace.events) ∧
    typed.1.flatMap (fun d => d.trace.invocations) = run.1.flatMap (fun d => d.trace.invocations) ∧
    ∀ i c d, calls[i]? = some c → run.1[i]? = some d →
      (d.rejected = true ↔ c.typed? = none) ∧
      (d.rejected = true →
        d.trace = [] ∧ (s.runAll m (calls.take (i + 1))).2 = (s.runAll m (calls.take i)).2) := by
  intro run typed
  have htyped : typed = _ := runAll_typed hl s m
  have htrace := trace_of_rejected hl s m
  refine ⟨?_, ?_, ?_, ?_, ?_⟩
  · rw [htyped]
  · rw [htyped]
  · rw [htyped]; exact flatMap_filter_rejected Trace.events rfl htrace
  · rw [htyped]; exact flatMap_filter_rejected Trace.invocations rfl htrace
  · intro i c d hc hd
    have hlc := hl c (List.mem_of_getElem? hc)
    rw [runAll_getElem? hc] at hd
    cases hd
    refine ⟨rejected_iff hlc _ _, fun hr => ?_⟩
    obtain ⟨htrace, hsame⟩ := turn_of_rejected hlc hr
    exact ⟨htrace, by rw [runAll_take_succ hc, hsame]⟩

theorem runAll_refines_typed_batch :
    let calls : List Call :=
      [.defineLoose (some (.string "post")) (some (.array [.string "see", .null])) .allow,
        .defineLoose (some (.string "post")) (some (.array [.string "see"])) .allow,
        .evaluateLoose none (some (.string "see")) (some (.string "post"))]
    (∀ c ∈ calls, c.loose = true) ∧
    (empty.runAll Memory.fresh calls).1.map Done.rejected = [true, false, false] ∧
    (empty.runAll Memory.fresh (calls.filterMap Call.typed?)).1 =
      (empty.runAll Memory.fresh calls).1.filter (fun d => !d.rejected) :=
  ⟨by decide, rfl, (runAll_refines_typed empty Memory.fresh _ (by decide)).2.1⟩

end Store

end Permit
