import Permit.Proofs.Shared.Locking
import Permit.Proofs.Shared.Moves
import Permit.Proofs.Shared.Remainder

/-!
# Threads make moves

A check that holds the lock keeps what is left of it, since no one can change the table meanwhile. So when it ends it has
the answer that the check would have in one go, and every step of the threads is a move.
-/

namespace Permit

namespace Shared

open Effect (Alike)

variable {programs : Nat → Program} {m : Memory} {σ σ' : Threads} {i j : Nat} {mark : Mark} {th : Thread}
  {now now' : Table} {viewer : Option Json} {action : String} {subject : Conversion Subject}

/-! ## Sound threads -/

/-- What is left of the check is the whole check, on the present table or, as long as it does not hold the lock, on any. -/
structure Checking.Faithful (now : Table) (viewer : Option Json) (action : String) (subject : Conversion Subject)
    (c : Checking) : Prop where
  stateless : c.Stateless
  rest : ∀ t, c.guards = 0 ∨ t = now → Alike (c.rest t) (t.ask (t.depth + 1) viewer action subject)

def Phase.Sound (now : Table) (call : Call) : Phase → Prop
  | .checking c => ∃ viewer action subject, call = .evaluate viewer action subject ∧ c.Faithful now viewer action subject
  | .calling | .holding => ∀ viewer action subject, call ≠ .evaluate viewer action subject
  | .done _ | .leaving _ => True

def Activity.Sound (now : Table) : Activity → Prop
  | .idle => True
  | .busy call phase => call.Calm ∧ phase.Sound now call

structure Threads.Sound (m : Memory) (σ : Threads) : Prop where
  poisoned : σ.shared.poisoned = false
  stateless : σ.shared.store.table.Stateless
  memory : σ.memory = m
  fits : σ.lock.Fits σ.thread
  activity : ∀ i, (σ.thread i).activity.Sound σ.shared.store.table

namespace Checking.Faithful

variable {c : Checking} {waiting : List Waiting}

theorem opening (now : Table) (viewer : Option Json) (action : String) (subject : Conversion Subject) :
    Faithful now viewer action subject ⟨.asking viewer action subject, []⟩ where
  stateless := ⟨trivial, fun _ h => by cases h⟩
  rest _ _ := .refl _

/-- A check that does not hold the lock does not mind another table. -/
theorem frame (h : c.Faithful now viewer action subject) (hnow : c.guards = 0 ∨ now' = now) :
    c.Faithful now' viewer action subject where
  stateless := h.stateless
  rest t ht := by
    refine h.rest t ?_
    rcases hnow with hfree | rfl
    · exact .inl hfree
    · exact ht

theorem step {c' : Checking} (h : c.Faithful now viewer action subject) (hstateless : c'.Stateless)
    (hguards : c'.guards ≠ 0) (hrest : Alike (c'.rest now) (c.rest now)) : c'.Faithful now viewer action subject where
  stateless := hstateless
  rest t ht := by
    obtain rfl := ht.resolve_left hguards
    exact hrest.trans (h.rest t (.inr rfl))

theorem enter {v : Option Json} {a : String} {s : Conversion Subject}
    (h : Faithful now viewer action subject ⟨.asking v a s, waiting⟩) :
    Faithful now viewer action subject ⟨.admitted v a s, waiting⟩ := by
  refine h.step ⟨trivial, h.stateless.waiting⟩ ?_ (.refl _)
  simp [guards, Stage.guards]

theorem consult {sh : Shared} {v : Option Json} {a : String} {s : Conversion Subject} (hsound : sh.poisoned = false)
    (hstateless : sh.store.table.Stateless)
    (h : Faithful sh.store.table viewer action subject ⟨.admitted v a s, waiting⟩) :
    Faithful sh.store.table viewer action subject ⟨.consult sh waiting.length v a s, waiting⟩ := by
  refine h.step ⟨Stage.consult_stateless hstateless waiting.length v a s, h.stateless.waiting⟩ ?_ ?_
  · simp [guards, Stage.guards_consult]
  · exact resume_alike (Stage.consult_rest hsound waiting.length v a s) waiting

theorem proceed {cell : Nat} {script : Script} (h : Faithful now viewer action subject ⟨.running cell script, waiting⟩)
    (m : Memory) : (Checking.proceed cell waiting m script).1.Faithful now viewer action subject := by
  refine h.step (proceed_stateless h.stateless m) ?_ (proceed_rest h.stateless.stage now cell waiting m).2
  simp [guards_proceed]

theorem resume {w : Waiting} {outcome : Outcome Answer}
    (h : Faithful now viewer action subject ⟨.ended outcome, w :: waiting⟩) :
    Faithful now viewer action subject ⟨.resumed w outcome, waiting⟩ := by
  obtain ⟨hw, hwaiting⟩ := List.forall_mem_cons.mp h.stateless.waiting
  refine h.step ⟨Stage.resumed_stateless hw outcome, hwaiting⟩ ?_ (Stage.resumed_rest now w waiting outcome)
  simp [guards, Stage.guards_resumed]

/-- A check that has ended has the answer that it has in one go. -/
theorem ended {sh : Shared} {outcome : Outcome Answer} (hsound : sh.poisoned = false)
    (h : Faithful sh.store.table viewer action subject ⟨.ended outcome, []⟩) (m : Memory) :
    ∃ trace, sh.perform m (.evaluate viewer action subject) = (⟨outcome.map (·.map .allowed), m, trace⟩, sh) := by
  obtain ⟨houtcome, hmemory⟩ := h.rest sh.store.table (.inr rfl) m
  rw [← checking_eq_ask] at houtcome hmemory
  refine ⟨(checking sh.store viewer action subject m).trace, ?_⟩
  rw [perform_evaluate hsound]
  simp only [← houtcome, ← hmemory]
  rfl

end Checking.Faithful

theorem Activity.Sound.frame {a : Activity} (h : a.Sound now) (hnow : a.reads = 0 ∨ now' = now) : a.Sound now' := by
  cases a with
  | idle => exact trivial
  | busy call phase =>
      cases phase with
      | checking c =>
          obtain ⟨hcalm, viewer, action, subject, hcall, hfaithful⟩ := h
          exact ⟨hcalm, viewer, action, subject, hcall, hfaithful.frame hnow⟩
      | calling | holding | done result | leaving result => exact h

theorem Activity.sound_opening {call : Call} (h : call.Calm) (now : Table) : Sound now (.busy call call.opening) := by
  refine ⟨h, ?_⟩
  cases call with
  | evaluate viewer action subject => exact ⟨viewer, action, subject, rfl, .opening now viewer action subject⟩
  | define | undefine | knows | clone => exact fun _ _ _ => nofun

theorem Threads.Sound.start {s : Store} (h : s.table.Stateless) (m : Memory) : (start (.of s) m).Sound m where
  poisoned := rfl
  stateless := h
  memory := rfl
  fits := .start (.of s) m
  activity _ := trivial

theorem Threads.Sound.step {lock : Lock} (h : σ.Sound m) (hfits : lock.Fits (σ.setThread i th).thread)
    (hth : th.activity.Sound σ.shared.store.table) : ((σ.withLock lock).setThread i th).Sound m where
  poisoned := h.poisoned
  stateless := h.stateless
  memory := h.memory
  fits := hfits
  activity j := by
    by_cases hj : j = i
    · subst hj
      rw [setThread_self]
      exact hth
    · rw [setThread_of_ne hj]
      exact h.activity j

/-! ## The view from outside -/

def Activity.status (a : Activity) : Status :=
  match a with
  | .idle => .idle
  | .busy _ (.done result) | .busy _ (.leaving result) => .settled result
  | .busy call _ => .pending call (a.reads != 0)

def Thread.standing (th : Thread) : Standing := ⟨th.past, th.activity.status⟩

def Threads.view (σ : Threads) : View := ⟨σ.shared, fun i => (σ.thread i).standing⟩

theorem Threads.view_setThread (σ : Threads) (i : Nat) (th : Thread) :
    (σ.setThread i th).view = σ.view.set i th.standing := by
  refine congrArg (View.mk σ.shared) (funext fun j => ?_)
  by_cases hj : j = i
  · subst hj
    simp
  · simp [view, setThread_of_ne hj, hj]

theorem Threads.standing_view {a : Activity} (h : (σ.thread i).activity = a) :
    σ.view.standing i = ⟨(σ.thread i).past, a.status⟩ := by
  rw [← h]
  rfl

theorem Activity.status_opening (call : Call) : status (.busy call call.opening) = .pending call false := by
  cases call <;> rfl

theorem Activity.status_checking {c : Checking} (h : c.guards ≠ 0) (call : Call) :
    status (.busy call (.checking c)) = .pending call true := by
  simp [status, reads, h]

/-- While a thread writes, no pending call reads. -/
theorem Threads.Sound.not_reads (h : σ.Sound m) (hi : (σ.thread i).activity.writes) (j : Nat) (call : Call) :
    (σ.thread j).activity.status ≠ .pending call true := by
  intro hstatus
  have hreads := h.fits.reads_of_writes hi j
  unfold Activity.status at hstatus
  split at hstatus
  · cases hstatus
  · cases hstatus
  · cases hstatus
  · injection hstatus with _ hne
    simp [hreads] at hne

/-! ## Steps are moves -/

theorem Threads.Step.sound (hstep : Step programs σ i mark σ') (h : σ.Sound m)
    (hcalm : ∀ i past handle call, programs i past = some (handle, call) → call.Calm) : σ'.Sound m := by
  have hfits := hstep.fits h.fits
  have hown := h.activity i
  cases hstep with
  | begin hidle hprogram _ => exact h.step hfits (Activity.sound_opening (hcalm _ _ _ _ hprogram) _)
  | acquire hcalling _ =>
      rw [hcalling] at hown
      exact h.step hfits hown
  | @perform call run sh hholding hperform =>
      rw [hholding] at hown
      obtain ⟨result, trace, sh', hrun, hpoisoned, hstateless, hsame⟩ := hown.1.perform h.poisoned h.stateless m hown.2
      rw [h.memory, hrun] at hperform
      cases hperform
      refine ⟨hpoisoned, hstateless, rfl, hfits, fun j => ?_⟩
      by_cases hj : j = i
      · subst hj
        rw [goTo, setThread_self]
        exact ⟨hown.1, trivial⟩
      -- While one thread writes no other one has the lock, so the other checks do not mind the new table.
      · have hother : Activity.Sound sh.store.table (σ.thread j).activity := by
          refine (h.activity j).frame ?_
          by_cases hw : call.access = .writing
          · exact .inl (h.fits.reads_of_writes (by rw [hholding]; exact hw) j)
          · exact .inr (congrArg Store.table (hsame hw))
        rw [goTo, setThread_of_ne hj]
        exact hother
  | release hdone =>
      rw [hdone] at hown
      exact h.step hfits hown
  | enter hasking _ =>
      rw [hasking] at hown
      obtain ⟨hcall, viewer, action, subject, heq, hfaithful⟩ := hown
      exact h.step hfits ⟨hcall, viewer, action, subject, heq, hfaithful.enter⟩
  | consult hadmitted =>
      rw [hadmitted] at hown
      obtain ⟨hcall, viewer, action, subject, heq, hfaithful⟩ := hown
      exact h.step hfits ⟨hcall, viewer, action, subject, heq, hfaithful.consult h.poisoned h.stateless⟩
  | @proceed call cell script waiting checking m' hrunning hproceed =>
      rw [hrunning] at hown
      obtain ⟨hcall, viewer, action, subject, heq, hfaithful⟩ := hown
      have hmemory := (Checking.proceed_rest hfaithful.stateless.stage σ.shared.store.table cell waiting σ.memory).1
      have hnext := hfaithful.proceed σ.memory
      rw [hproceed] at hmemory hnext
      cases hmemory
      exact h.step hfits ⟨hcall, viewer, action, subject, heq, hnext⟩
  | resume hended =>
      rw [hended] at hown
      obtain ⟨hcall, viewer, action, subject, heq, hfaithful⟩ := hown
      exact h.step hfits ⟨hcall, viewer, action, subject, heq, hfaithful.resume⟩
  | settle hended =>
      rw [hended] at hown
      exact h.step hfits ⟨hown.1, trivial⟩
  | finish hleaving => exact h.step hfits trivial

theorem Threads.Step.move (hstep : Step programs σ i mark σ') (h : σ.Sound m) :
    Move programs m σ.view i mark σ'.view := by
  have hown := h.activity i
  cases hstep with
  | @begin handle call hidle hprogram hhandle =>
      have hmove : Move programs m σ.view i _ _ := .begin (standing_view hidle) hprogram hhandle
      rw [goTo, view_setThread, Thread.standing, Activity.status_opening]
      exact hmove
  | acquire hcalling _ =>
      rw [goTo, view_setThread]
      exact .work (standing_view hcalling) nofun
  | @perform call run sh hholding hperform =>
      rw [hholding] at hown
      obtain ⟨result, trace, sh', hrun, -, -, hsame⟩ := hown.1.perform h.poisoned h.stateless m hown.2
      rw [h.memory, hrun] at hperform
      cases hperform
      rw [goTo, view_setThread]
      refine .settle (standing_view hholding) hrun fun j past call' _ hpending => ?_
      by_cases hw : call.access = .writing
      · exact absurd (congrArg Standing.status hpending) (h.not_reads (by rw [hholding]; exact hw) j call')
      · exact hsame hw
  | release hdone =>
      rw [goTo, view_setThread]
      exact .leave (standing_view hdone)
  | enter hasking _ =>
      rw [goTo, view_setThread, Thread.standing, Activity.status_checking (by simp [Checking.guards, Stage.guards])]
      exact .work (standing_view hasking) fun _ => rfl
  | consult hadmitted =>
      have hbefore := standing_view hadmitted
      rw [Activity.status_checking (by simp [Checking.guards, Stage.guards])] at hbefore
      rw [goTo, view_setThread, Thread.standing,
        Activity.status_checking (by simp [Checking.guards, Stage.guards_consult])]
      exact .consult hbefore
  | @proceed call cell script waiting checking m' hrunning hproceed =>
      have hguards := Checking.guards_proceed cell waiting σ.memory script
      rw [hproceed] at hguards
      rw [goTo, view_setThread, Thread.standing, Activity.status_checking (by simp [hguards])]
      exact .work (standing_view hrunning) fun _ => rfl
  | resume hended =>
      rw [goTo, view_setThread, Thread.standing,
        Activity.status_checking (by simp [Checking.guards, Stage.guards_resumed])]
      exact .work (standing_view hended) fun _ => rfl
  | settle hended =>
      -- All that is left of the check is its outcome, so this is the outcome of the check in one go.
      rw [hended] at hown
      obtain ⟨-, viewer, action, subject, rfl, hfaithful⟩ := hown
      obtain ⟨trace, hperform⟩ := hfaithful.ended h.poisoned m
      rw [goTo, view_setThread]
      exact .settle (standing_view hended) hperform fun _ _ _ _ _ => rfl
  | finish hleaving =>
      rw [Threads.finish, view_setThread]
      exact .finish (standing_view hleaving)

end Shared

end Permit
