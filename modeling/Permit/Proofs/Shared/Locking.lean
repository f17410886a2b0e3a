import Permit.Proofs.Shared.Threads

/-!
# Holding the lock

What the lock says about its holders is what the threads are doing. So while one thread writes no other one reads.
-/

namespace Permit

namespace Shared

def Stage.guards : Stage → Nat
  | .asking .. => 0
  | .admitted .. | .running .. | .ended _ => 1

/-- Every predicate that waits for a check has the lock for the check that it decides. -/
def Checking.guards (c : Checking) : Nat := c.stage.guards + c.waiting.length

namespace Activity

def reads : Activity → Nat
  | .busy call .holding | .busy call (.done _) => if call.access = .reading then 1 else 0
  | .busy _ (.checking c) => c.guards
  | .idle | .busy _ .calling | .busy _ (.leaving _) => 0

def writes : Activity → Prop
  | .busy call .holding | .busy call (.done _) => call.access = .writing
  | .idle | .busy _ .calling | .busy _ (.checking _) | .busy _ (.leaving _) => False

theorem reads_opening (call : Call) : (busy call call.opening).reads = 0 := by
  cases call <;> rfl

theorem not_writes_opening (call : Call) : ¬ (busy call call.opening).writes := by
  cases call <;> exact id

end Activity

theorem Checking.guards_proceed (cell : Nat) (waiting : List Waiting) (m : Memory) (script : Script) :
    (proceed cell waiting m script).1.guards = waiting.length + 1 := by
  cases script <;> simp [proceed, guards, Stage.guards, Nat.add_comm]

theorem Stage.guards_consult (sh : Shared) (above : Nat) (viewer : Option Json) (action : String)
    (subject : Conversion Subject) : (consult sh above viewer action subject).guards = 1 := by
  unfold consult lookUp
  repeat' split
  all_goals rfl

theorem Stage.guards_resumed (w : Waiting) (outcome : Outcome Answer) : (resumed w outcome).guards = 1 := by
  cases outcome <;> rfl

namespace Lock

structure Fits (l : Lock) (thread : Nat → Thread) : Prop where
  readers : ∀ i, l.readers.count i = (thread i).activity.reads
  writer : ∀ i, l.writer = some i ↔ (thread i).activity.writes
  apart : ∀ i, l.writer = some i → l.readers = []

variable {σ : Threads} {i j : Nat} {before : Activity} {th : Thread}

theorem Fits.start (sh : Shared) (m : Memory) : Fits (Threads.start sh m).lock (Threads.start sh m).thread where
  readers _ := rfl
  writer _ := by simp [Threads.start, free, Activity.writes]
  apart _ h := by cases h

/-- While a thread writes no other one reads. -/
theorem Fits.reads_of_writes (h : Fits σ.lock σ.thread) (hi : (σ.thread i).activity.writes) (j : Nat) :
    (σ.thread j).activity.reads = 0 := by
  have hempty := h.apart i ((h.writer i).mpr hi)
  rw [← h.readers j, hempty]
  rfl

/-- A lock that changes for one thread only fits if it fits that thread. -/
theorem Fits.set {l : Lock} (h : Fits σ.lock σ.thread)
    (hothers : ∀ j, j ≠ i → l.readers.count j = σ.lock.readers.count j ∧ (l.writer = some j ↔ σ.lock.writer = some j))
    (hreads : l.readers.count i = th.activity.reads) (hwrites : l.writer = some i ↔ th.activity.writes)
    (hapart : ∀ j, l.writer = some j → l.readers = []) : Fits l (σ.setThread i th).thread := by
  have hall : ∀ j, l.readers.count j = ((σ.setThread i th).thread j).activity.reads ∧
      (l.writer = some j ↔ ((σ.setThread i th).thread j).activity.writes) := by
    intro j
    by_cases hj : j = i
    · subst hj
      rw [Threads.setThread_self]
      exact ⟨hreads, hwrites⟩
    · rw [Threads.setThread_of_ne hj, ← h.readers j, ← h.writer j]
      exact hothers j hj
  exact ⟨fun j => (hall j).1, fun j => (hall j).2, hapart⟩

theorem Fits.stay (h : Fits σ.lock σ.thread) (hbefore : (σ.thread i).activity = before)
    (hreads : th.activity.reads = before.reads) (hwrites : th.activity.writes ↔ before.writes) :
    Fits σ.lock (σ.setThread i th).thread := by
  refine h.set (fun _ _ => ⟨rfl, Iff.rfl⟩) ?_ ?_ h.apart
  · rw [h.readers i, hbefore, hreads]
  · rw [h.writer i, hbefore, hwrites]

theorem Fits.take (h : Fits σ.lock σ.thread) (access : Access) (hbefore : (σ.thread i).activity = before)
    (hadmits : σ.lock.admits access) (hreads : th.activity.reads = before.reads + if access = .reading then 1 else 0)
    (hidle : ¬ before.writes) (hwrites : th.activity.writes ↔ access = .writing) :
    Fits (σ.lock.take i access) (σ.setThread i th).thread := by
  have hcount : σ.lock.readers.count i = before.reads := by rw [h.readers i, hbefore]
  cases access with
  | free => exact h.stay hbefore hreads (by simpa [hwrites] using hidle)
  | reading =>
      have hnone : σ.lock.writer = none := by simpa [admits] using hadmits
      refine h.set (fun j hj => ⟨List.count_cons_of_ne (Ne.symm hj), Iff.rfl⟩) ?_ ?_ fun j hj => ?_
      · simp [Lock.take, hreads, hcount]
      · simp [Lock.take, hwrites, hnone]
      · simp [Lock.take, hnone] at hj
  | writing =>
      obtain ⟨hnone, hempty⟩ : σ.lock.writer = none ∧ σ.lock.readers = [] := by simpa [admits] using hadmits
      refine h.set (fun j hj => ⟨rfl, ?_⟩) ?_ ?_ fun _ _ => hempty
      · simp [Lock.take, hnone, Ne.symm hj]
      · simpa [Lock.take, hreads] using hcount
      · simp [Lock.take, hwrites]

theorem Fits.release (h : Fits σ.lock σ.thread) (access : Access) (hbefore : (σ.thread i).activity = before)
    (hreads : before.reads = th.activity.reads + if access = .reading then 1 else 0)
    (hwrites : before.writes ↔ access = .writing) (hidle : ¬ th.activity.writes) :
    Fits (σ.lock.release i access) (σ.setThread i th).thread := by
  have hcount : σ.lock.readers.count i = before.reads := by rw [h.readers i, hbefore]
  cases access with
  | free => exact h.stay hbefore (by simpa using hreads.symm) (by simpa [hwrites] using hidle)
  | reading =>
      -- A reader is here, so no thread is writing.
      have hnone : ∀ j, σ.lock.writer ≠ some j := by
        intro j hj
        rw [h.apart j hj, hreads] at hcount
        simp at hcount
      refine h.set (fun j hj => ⟨List.count_erase_of_ne hj, Iff.rfl⟩) ?_ ?_ fun j hj => absurd hj (hnone j)
      · rw [Lock.release, List.count_erase_self, hcount, hreads]
        rfl
      · exact iff_of_false (hnone i) hidle
  | writing =>
      have hwriter : σ.lock.writer = some i := by
        rw [h.writer i, hbefore]
        exact hwrites.mpr rfl
      refine h.set (fun j hj => ⟨rfl, ?_⟩) (hcount.trans hreads) ?_ fun j hj => ?_
      · simp [Lock.release, hwriter, Ne.symm hj]
      · simp [Lock.release, hidle]
      · cases hj

end Lock

theorem Threads.Step.fits {programs : Nat → Program} {σ σ' : Threads} {i : Nat} {mark : Mark}
    (hstep : Step programs σ i mark σ') (h : σ.lock.Fits σ.thread) : σ'.lock.Fits σ'.thread := by
  cases hstep with
  | begin hidle _ _ =>
      exact h.stay hidle (Activity.reads_opening _) (iff_of_false (Activity.not_writes_opening _) id)
  | acquire hcalling hadmits =>
      exact h.take _ hcalling hadmits (Nat.zero_add _).symm id Iff.rfl
  | perform hholding _ =>
      exact h.stay hholding rfl Iff.rfl
  | release hdone =>
      refine h.release _ hdone ?_ Iff.rfl ?_
      · exact (Nat.zero_add _).symm
      · exact id
  | @enter _ _ _ _ waiting hasking hadmits =>
      refine h.take .reading hasking hadmits ?_ id ?_
      · exact (Nat.add_comm 1 _).trans (congrArg (· + 1) (Nat.zero_add waiting.length).symm)
      · exact iff_of_false id nofun
  | @consult _ _ _ _ waiting hadmitted =>
      refine h.stay hadmitted ?_ Iff.rfl
      exact congrArg (· + waiting.length) (Stage.guards_consult ..)
  | @proceed _ cell script waiting _ _ hrunning hproceed =>
      refine h.stay hrunning ?_ Iff.rfl
      have hguards := Checking.guards_proceed cell waiting σ.memory script
      rw [hproceed] at hguards
      exact hguards.trans (Nat.add_comm _ _)
  | @resume _ _ w waiting hended =>
      refine h.release .reading hended ?_ ?_ ?_
      · simp only [Activity.reads, Checking.guards, Stage.guards_resumed, List.length_cons, reduceIte]
        exact (Nat.add_assoc 1 waiting.length 1).symm
      · exact iff_of_false id nofun
      · exact id
  | settle hended =>
      refine h.release .reading hended rfl ?_ ?_
      · exact iff_of_false id nofun
      · exact id
  | finish hleaving =>
      exact h.stay hleaving rfl Iff.rfl

end Shared

end Permit
