import Mathlib.Data.List.Induction
import Mathlib.Tactic.FinCases
import Permit.Proofs.Shared.Linearization
import Permit.Proofs.Shared.Locking
import Permit.Proofs.Shared.Order
import Permit.Proofs.Shared.Poison

/-!
# Threads and poisoned locks

Whatever the threads do, and whatever their predicates and arguments panic with, the store and its lock are as the calls
settled so far leave them, one after the other. Once the lock is poisoned no predicate runs, and every call that is
settled panics.
-/

namespace Permit

namespace Shared

variable {programs : Nat → Program} {sh : Shared} {m : Memory} {σ σ' : Threads} {i j k : Nat} {mark : Mark}
  {call : Call} {e : Entry}

/-! ## What a step does to threads on a poisoned lock -/

/-- The check has not begun to be decided, or it has found the lock poisoned. -/
def Stage.Barred : Stage → Prop
  | .asking .. | .admitted .. => True
  | .running .. => False
  | .ended outcome => outcome = .panicked poisonMessage

def Activity.Barred : Activity → Prop
  | .busy _ (.checking c) => c.stage.Barred ∧ c.waiting = []
  | .idle | .busy _ _ => True

def Activity.Reading : Activity → Prop
  | .busy call (.checking _) => call.access = .reading
  | .idle | .busy _ _ => True

theorem Activity.barred_opening (call : Call) : (busy call call.opening).Barred := by
  cases call with
  | evaluate viewer action subject => exact ⟨trivial, rfl⟩
  | define | undefine | knows | clone => exact trivial

theorem Activity.reading_opening (call : Call) : (busy call call.opening).Reading := by
  cases call with
  | evaluate viewer action subject => rfl
  | define | undefine | knows | clone => exact trivial

/-- A thread that does not hold the lock for reading has no check under way that was decided. -/
theorem Activity.barred_of_reads {a : Activity} (h : a.reads = 0) : a.Barred := by
  match a with
  | .idle | .busy _ .calling | .busy _ .holding | .busy _ (.done _) | .busy _ (.leaving _) => exact trivial
  | .busy _ (.checking ⟨.asking .., []⟩) => exact ⟨trivial, rfl⟩
  | .busy _ (.checking ⟨.asking .., _ :: _⟩) => simp [reads, Checking.guards] at h
  | .busy _ (.checking ⟨.admitted .., _⟩) | .busy _ (.checking ⟨.running .., _⟩) | .busy _ (.checking ⟨.ended _, _⟩) =>
      simp [reads, Checking.guards, Stage.guards] at h

theorem Call.Breaks.access {message : String} (h : call.Breaks message) : call.access = .writing := by
  cases h <;> rfl

theorem poisoned_perform_writes (h : sh.poisoned = false) (hp : (sh.perform m call).2.poisoned = true) :
    call.access = .writing := by
  rcases (poisoned_perform sh m call).mp hp with hold | ⟨message, hb⟩
  · rw [h] at hold
    cases hold
  · exact hb.access

theorem perform_shared (sh : Shared) (m m' : Memory) (c : Call) : (sh.perform m c).2 = (sh.perform m' c).2 := by
  cases h : sh.poisoned with
  | true =>
      by_cases hc : c = .clone
      · subst hc
        rfl
      · rw [perform_of_poisoned h m hc, perform_of_poisoned h m' hc]
  | false =>
      rcases c.whole_or_breaks with hc | ⟨message, hb⟩
      · cases hc with
        | evaluate viewer action subject => rw [perform_evaluate_shared, perform_evaluate_shared]
        | define type actions rule => rw [perform_define h, perform_define h]
        | undefine type actions =>
            cases hu : sh.store.table.undefine? type actions.names with
            | none => rw [perform_undefine_of_none h m hu, perform_undefine_of_none h m' hu]
            | some out => rw [perform_undefine_of_some h m hu, perform_undefine_of_some h m' hu]
        | knows type => rw [perform_knows h, perform_knows h]
        | clone => rfl
      · obtain ⟨tried, hrun⟩ := perform_of_breaks h hb m
        obtain ⟨tried', hrun'⟩ := perform_of_breaks h hb m'
        rw [hrun, hrun']

theorem perform_reading (h : call.access = .reading) (sh : Shared) (m : Memory) : (sh.perform m call).2 = sh := by
  cases call with
  | evaluate | knows => exact reading_shared ..
  | define | undefine | clone => cases h

structure Threads.Guarded (σ : Threads) : Prop where
  fits : σ.lock.Fits σ.thread
  reading : ∀ i, (σ.thread i).activity.Reading
  barred : σ.shared.poisoned = true → ∀ i, (σ.thread i).activity.Barred

theorem Threads.Guarded.start (sh : Shared) (m : Memory) : (Threads.start sh m).Guarded where
  fits := .start sh m
  reading _ := trivial
  barred _ _ := trivial

theorem Threads.Guarded.set {lock : Lock} {memory : Memory} {th : Thread} (h : σ.Guarded)
    (hfits : lock.Fits (σ.setThread i th).thread) (hreading : th.activity.Reading)
    (hbarred : σ.shared.poisoned = true → th.activity.Barred) :
    Guarded { σ with lock := lock, memory := memory, thread := (σ.setThread i th).thread } where
  fits := hfits
  reading := forall_setThread (P := fun th => th.activity.Reading) hreading fun j _ => h.reading j
  barred hp := forall_setThread (P := fun th => th.activity.Barred) (hbarred hp) fun j _ => h.barred hp j

theorem Threads.Guarded.activity {a : Activity} (h : σ.Guarded) (ha : (σ.thread i).activity = a) :
    a.Reading ∧ (σ.shared.poisoned = true → a.Barred) := by
  subst ha
  exact ⟨h.reading i, fun hp => h.barred hp i⟩

theorem Stage.barred_consult (h : sh.poisoned = true) (above : Nat) (viewer : Option Json) (action : String)
    (subject : Conversion Subject) : (consult sh above viewer action subject).Barred := by
  have hended : consult sh above viewer action subject = .ended (.panicked poisonMessage) := if_pos h
  rw [hended]
  rfl

theorem Threads.Guarded.perform {run : Run (Except Refusal Reply)} (h : σ.Guarded)
    (hholding : (σ.thread i).activity = .busy call .holding) (hperform : σ.shared.perform σ.memory call = (run, sh))
    (hfits : σ.lock.Fits (σ.goTo i (.busy call (.done run.outcome))).thread) :
    Guarded ({ σ with shared := sh, memory := run.memory }.goTo i (.busy call (.done run.outcome))) where
  fits := hfits
  reading := forall_setThread (P := fun th => th.activity.Reading) trivial fun j _ => h.reading j
  barred hp := by
    refine forall_setThread (P := fun th => th.activity.Barred) trivial fun j _ => ?_
    cases hbefore : σ.shared.poisoned with
    | true => exact h.barred hbefore j
    | false =>
        -- The call has poisoned the lock just now, so it is a change, and no other thread reads.
        have hafter : (σ.shared.perform σ.memory call).2.poisoned = true := by
          rw [hperform]
          exact hp
        have hwrites : (σ.thread i).activity.writes := by
          rw [hholding]
          exact poisoned_perform_writes hbefore hafter
        exact Activity.barred_of_reads (h.fits.reads_of_writes hwrites j)

theorem Threads.Step.guarded (hstep : Step programs σ i mark σ') (h : σ.Guarded) : σ'.Guarded := by
  have hfits := hstep.fits h.fits
  cases hstep with
  | begin hidle _ _ => exact h.set hfits (Activity.reading_opening _) fun _ => Activity.barred_opening _
  | acquire hcalling _ => exact h.set hfits trivial fun _ => trivial
  | perform hholding hperform => exact h.perform hholding hperform hfits
  | release hdone => exact h.set hfits trivial fun _ => trivial
  | enter hasking _ =>
      obtain ⟨hreading, hbarred⟩ := h.activity hasking
      exact h.set hfits hreading fun hp => ⟨trivial, (hbarred hp).2⟩
  | consult hadmitted =>
      obtain ⟨hreading, hbarred⟩ := h.activity hadmitted
      exact h.set hfits hreading fun hp => ⟨Stage.barred_consult hp .., (hbarred hp).2⟩
  | proceed hrunning _ =>
      obtain ⟨hreading, hbarred⟩ := h.activity hrunning
      exact h.set hfits hreading fun hp => (hbarred hp).1.elim
  | resume hended =>
      obtain ⟨hreading, hbarred⟩ := h.activity hended
      exact h.set hfits hreading fun hp => absurd (hbarred hp).2 (List.cons_ne_nil _ _)
  | settle hended => exact h.set hfits trivial fun _ => trivial
  | finish hleaving => exact h.set hfits trivial fun _ => trivial

theorem Threads.Step.shared_of_quiet (hstep : Step programs σ i mark σ') (hmark : ∀ e, mark ≠ .settled e) :
    σ'.shared = σ.shared := by
  cases hstep with
  | begin | acquire | release | enter | consult | proceed | resume | finish => rfl
  | perform | settle => exact absurd rfl (hmark _)

/-- A call is settled as it is performed, or it is a check; on a poisoned lock that panics. -/
theorem Threads.Step.settled (hstep : Step programs σ i (.settled e) σ') (h : σ.Guarded) :
    σ'.shared = (σ.shared.perform σ.memory e.call).2 ∧
    ((σ.shared.perform σ.memory e.call).1.outcome = e.result ∨
      e.call.access = .reading ∧ (σ.shared.poisoned = true → e.result = .panicked poisonMessage)) := by
  cases hstep with
  | @perform call run sh' hholding hperform =>
      rw [hperform]
      exact ⟨rfl, .inl rfl⟩
  | @settle call outcome hended =>
      obtain ⟨hreading, hbarred⟩ := h.activity hended
      refine ⟨(perform_reading hreading σ.shared σ.memory).symm, .inr ⟨hreading, fun hp => ?_⟩⟩
      have houtcome : outcome = .panicked poisonMessage := (hbarred hp).1
      rw [houtcome]
      rfl

/-! ## Whole courses -/

/-- The calls that threads have settled account for the store and its lock, and for every change that breaks; no call
gets past a poisoned lock. -/
structure Barring (sh : Shared) (m : Memory) (order : List Entry) (now : Shared) : Prop where
  shared : (sh.before m (calls order) order.length).1 = now
  breaks : ∀ k e message, order[k]? = some e → e.call.Breaks message →
    (sh.before m (calls order) k).1.poisoned = false → e.result = .panicked message
  panics : ∀ k e, order[k]? = some e → e.call ≠ .clone →
    (sh.before m (calls order) k).1.poisoned = true → e.result = .panicked poisonMessage

theorem Barring.start (sh : Shared) (m : Memory) : Barring sh m [] sh where
  shared := rfl
  breaks _ _ _ h := by simp at h
  panics _ _ h := by simp at h

theorem before_calls_snoc {order : List Entry} (h : k ≤ order.length) (sh : Shared) (m : Memory) (e : Entry) :
    sh.before m (calls (order ++ [e])) k = sh.before m (calls order) k := by
  have hlength : k ≤ (calls order).length := by simpa [calls] using h
  rw [before, before, calls_snoc, List.take_append_of_le_length hlength]

theorem Barring.snoc {order : List Entry} {now now' : Shared} (h : Barring sh m order now) (m' : Memory)
    (hnow : now' = (now.perform m' e.call).2)
    (hresult : (now.perform m' e.call).1.outcome = e.result ∨
      e.call.access = .reading ∧ (now.poisoned = true → e.result = .panicked poisonMessage)) :
    Barring sh m (order ++ [e]) now' where
  shared := by
    have hlast : (calls (order ++ [e]))[order.length]? = some e.call := by simp [calls]
    rw [List.length_append, List.length_singleton, before_succ hlast, before_calls_snoc (Nat.le_refl _), h.shared, hnow]
    exact perform_shared ..
  breaks k f message hf hb hsound := by
    rcases getElem?_snoc hf with ⟨hlt, hold⟩ | ⟨rfl, rfl⟩
    · rw [before_calls_snoc (Nat.le_of_lt hlt)] at hsound
      exact h.breaks k f message hold hb hsound
    · rw [before_calls_snoc (Nat.le_refl _), h.shared] at hsound
      obtain ⟨tried, hrun⟩ := perform_of_breaks hsound hb m'
      rcases hresult with hperformed | ⟨hreading, -⟩
      · rw [← hperformed, hrun]
      · rw [hb.access] at hreading
        cases hreading
  panics k f hf hclone hp := by
    rcases getElem?_snoc hf with ⟨hlt, hold⟩ | ⟨rfl, rfl⟩
    · rw [before_calls_snoc (Nat.le_of_lt hlt)] at hp
      exact h.panics k f hold hclone hp
    · rw [before_calls_snoc (Nat.le_refl _), h.shared] at hp
      rcases hresult with hperformed | ⟨-, hpanics⟩
      · rw [← hperformed, perform_of_poisoned hp m' hclone]
      · exact hpanics hp

theorem course_guarded (programs : Nat → Program) (sh : Shared) (m : Memory) (schedule : List Nat) :
    (course programs sh m schedule).threads.Guarded := by
  induction schedule using List.reverseRecOn with
  | nil => exact .start sh m
  | append_singleton schedule i ih =>
      rcases course_snoc programs sh m schedule i with hstay | ⟨mark, σ, hstep, hnext⟩
      · rw [hstay]
        exact ih
      · rw [hnext]
        exact hstep.guarded ih

theorem course_barring (programs : Nat → Program) (sh : Shared) (m : Memory) (schedule : List Nat) :
    Barring sh m (entries (course programs sh m schedule).marks) (course programs sh m schedule).threads.shared := by
  induction schedule using List.reverseRecOn with
  | nil => exact .start sh m
  | append_singleton schedule i ih =>
      rcases course_snoc programs sh m schedule i with hstay | ⟨mark, σ, hstep, hnext⟩
      · rw [hstay]
        exact ih
      · rw [hnext]
        by_cases hmark : ∃ e, mark = .settled e
        · obtain ⟨e, rfl⟩ := hmark
          obtain ⟨hshared, hresult⟩ := hstep.settled (course_guarded programs sh m schedule)
          rw [entries_settled]
          exact ih.snoc _ hshared hresult
        · have hquiet : ∀ e, mark ≠ .settled e := fun e he => hmark ⟨e, he⟩
          rw [entries_quiet hquiet, hstep.shared_of_quiet hquiet]
          exact ih

/-- Changes that break poison the lock, and nothing else does, in every run of calls and in every course of threads. -/
theorem runAll_poisoning (sh : Shared) (m : Memory) (h : sh.poisoned = false) :
    (∀ calls, sh.Poisoning m calls) ∧
    ∀ programs schedule,
      let c := course programs sh m schedule
      Barring sh m (entries c.marks) c.threads.shared ∧
      (c.threads.shared.poisoned = true → ∀ i, (c.threads.thread i).activity.Barred) :=
  ⟨poisoning h m, fun programs schedule =>
    ⟨course_barring programs sh m schedule, (course_guarded programs sh m schedule).barred⟩⟩

/-- To see a post one has to be allowed to edit it, and the rule about that panics. -/
def fragile : Store :=
  ⟨(Table.empty.define "post" ["see"] (.predicate (passing "edit" (.bare "post")))).define "post" ["edit"]
    (.predicate ⟨1, fun _ _ => .panic "no viewer"⟩)⟩

/-- A check that panics two levels down, a change that breaks, and calls through an old handle and a new one. -/
def mishaps : List Call :=
  [.evaluate none "see" (.gives (.bare "post")), .define (.gives "post") (.panics "no actions") (.gives .allow), .clone,
    .knows "post", .undefine "post" (.panics "no actions"), .evaluate none "see" (.gives (.bare "post"))]

/-- One thread makes the change that breaks, while another one is about to ask. -/
def mishap : Nat → Program
  | 0 => .of [(0, .define (.gives "post") (.panics "no actions") (.gives .allow))]
  | 1 => .of [(0, .evaluate none "see" (.gives (.bare "post")))]
  | _ => fun _ => none

theorem runAll_poisoning_mishaps :
    let sh := Shared.of fragile
    let m := Memory.fresh
    (∃ trace, sh.came? m mishaps 0 = some (.panicked "no viewer", trace)) ∧
    (sh.before m mishaps 1).1 = sh ∧ sh.BreaksAt m mishaps 1 "no actions" ∧
    (∀ i, 1 < i → (sh.before m mishaps i).1.store = fragile) ∧
    sh.came? m mishaps 2 = some (.returned (.ok (.handle 1)), []) ∧
    (∀ i ∈ [3, 4, 5], sh.came? m mishaps i = some (.panicked poisonMessage, [])) ∧
    ∃ e, (entries (course mishap sh m [1, 0, 0, 0, 0, 1, 1, 1]).marks)[1]? = some e ∧ e.id = ⟨1, 0⟩ ∧
      e.result = .panicked poisonMessage := by
  have hsound : (Shared.of fragile).poisoned = false := rfl
  obtain ⟨hruns, hcourses⟩ := runAll_poisoning (.of fragile) Memory.fresh hsound
  have hrun := hruns mishaps
  have hfirst : ((Shared.of fragile).before Memory.fresh mishaps 1).1 = .of fragile := hrun.checks 0 none "see" _ rfl
  have hbreaks : (Shared.of fragile).BreaksAt Memory.fresh mishaps 1 "no actions" :=
    breaksAt_of_breaks rfl (.actions "post" (.gives .allow)) (by rw [hfirst]; rfl)
  refine ⟨⟨_, rfl⟩, hfirst, hbreaks, ?_, hrun.clones 2 rfl, ?_, ?_⟩
  · intro i hi
    rw [hrun.stays i 1 "no actions" hbreaks hi, hfirst]
    rfl
  · intro i hi
    fin_cases hi
    · exact hrun.panics 3 1 "no actions" (.knows "post") hbreaks (by decide) rfl nofun
    · exact hrun.panics 4 1 "no actions" _ hbreaks (by decide) rfl nofun
    · exact hrun.panics 5 1 "no actions" _ hbreaks (by decide) rfl nofun
  · obtain ⟨hbarring, -⟩ := hcourses mishap [1, 0, 0, 0, 0, 1, 1, 1]
    refine ⟨_, rfl, rfl, ?_⟩
    exact hbarring.panics 1 _ rfl nofun rfl

end Shared

end Permit
