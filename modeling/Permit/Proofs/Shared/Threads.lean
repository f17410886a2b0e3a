import Permit.Store.Shared
import Permit.Proofs.Effect

/-!
# Threads

Any number of threads use one shared store, and what a thread calls next may depend on what came of its calls so far. To
take the lock, to work and to let go of the lock are steps of their own, and so is every step of a predicate; the steps
of different threads come in any order. A check that a predicate makes takes the lock once more.
-/

namespace Permit

namespace Shared

/-! ## The lock -/

inductive Access where
  | free
  | reading
  | writing
deriving DecidableEq

def Call.access : Call → Access
  | .evaluate .. | .knows _ => .reading
  | .define .. | .undefine .. => .writing
  | .clone => .free

/-- The threads that hold the lock for reading, each as often as it holds it, and the one that holds it for writing. -/
structure Lock where
  readers : List Nat
  writer : Option Nat

namespace Lock

def free : Lock := ⟨[], none⟩

/-- Readers may overlap; a writer excludes all others. -/
def admits (l : Lock) : Access → Bool
  | .free => true
  | .reading => l.writer.isNone
  | .writing => l.writer.isNone && l.readers.isEmpty

def take (l : Lock) (i : Nat) : Access → Lock
  | .free => l
  | .reading => { l with readers := i :: l.readers }
  | .writing => { l with writer := some i }

def release (l : Lock) (i : Nat) : Access → Lock
  | .free => l
  | .reading => { l with readers := l.readers.erase i }
  | .writing => { l with writer := none }

end Lock

/-! ## Checks under way -/

/-- A predicate that waits for the answer to a check it made. -/
structure Waiting where
  cell : Nat
  next : Answer → Script

inductive Stage where
  | asking (viewer : Option Json) (action : String) (subject : Conversion Subject)
  /-- It has the lock, and keeps it until it has ended. -/
  | admitted (viewer : Option Json) (action : String) (subject : Conversion Subject)
  | running (cell : Nat) (script : Script)
  | ended (outcome : Outcome Answer)

namespace Stage

/-- What a table makes of a check: an answer, or a predicate to be run. -/
def lookUp (t : Table) (viewer : Option Json) (action : String) (subject : Subject) : Stage :=
  match t.rule? subject.typeName action with
  | some .allow => .ended (.returned (.ok true))
  | some .deny => .ended (.returned (.ok false))
  | some (.predicate p) => .running p.cell (p.script viewer subject.value?)
  | none =>
      if t.knows subject.typeName then .ended (.returned (.ok false))
      else .ended (.returned (.error (.unknownType subject.typeName)))

/-- What a check comes to that has the lock, below so many others. -/
def consult (sh : Shared) (above : Nat) (viewer : Option Json) (action : String) (subject : Conversion Subject) : Stage :=
  if sh.poisoned then .ended (.panicked poisonMessage)
  else if sh.store.table.depth < above then .ended .exhausted
  else
    match Argument.checkViewer viewer, subject with
    | .error refusal, _ => .ended (.returned (.error refusal))
    | .ok (), .panics message => .ended (.panicked message)
    | .ok (), .gives subject => lookUp sh.store.table viewer action subject

/-- A predicate goes on with the answer to its check; a panic goes through it. -/
def resumed (w : Waiting) : Outcome Answer → Stage
  | .returned answer => .running w.cell (w.next answer)
  | .panicked message => .ended (.panicked message)
  | .exhausted => .ended .exhausted

end Stage

/-- A check with the predicates that wait for it, the innermost first. -/
structure Checking where
  stage : Stage
  waiting : List Waiting

def Checking.proceed (cell : Nat) (waiting : List Waiting) (m : Memory) : Script → Checking × Memory
  | .finish answer => (⟨.ended (.returned (answer.mapError .rule)), waiting⟩, m)
  | .panic message => (⟨.ended (.panicked message), waiting⟩, m)
  | .probe _ _ next => (⟨.running cell next, waiting⟩, m)
  | .load next => (⟨.running cell (next (m cell)), waiting⟩, m)
  | .save value next => (⟨.running cell next, waiting⟩, m.set cell value)
  | .check viewer action subject next => (⟨.asking viewer action (.gives subject), ⟨cell, next⟩ :: waiting⟩, m)

/-! ## Threads -/

abbrev Result := Outcome (Except Refusal Reply)

/-- Through which handle a thread makes which call, after its calls so far came to this; or it makes no more. -/
abbrev Program := List Result → Option (Nat × Call)

def Program.of (calls : List (Nat × Call)) : Program := fun past => calls[past.length]?

/-- How far a call has come. Only checks take more than one step under the lock. -/
inductive Phase where
  | calling
  | holding
  | done (result : Result)
  | checking (checking : Checking)
  | leaving (result : Result)

inductive Activity where
  | idle
  | busy (call : Call) (phase : Phase)

structure Thread where
  past : List Result
  activity : Activity

structure Threads where
  shared : Shared
  memory : Memory
  lock : Lock
  thread : Nat → Thread

/-- A call, by its thread and its place among the calls of the thread. -/
@[ext] structure CallId where
  thread : Nat
  index : Nat
deriving DecidableEq

structure Entry where
  id : CallId
  call : Call
  result : Result

inductive Mark where
  | began (id : CallId) (call : Call)
  /-- A check, or one below it, was decided by this table. -/
  | consulted (id : CallId) (table : Table)
  | settled (entry : Entry)
  | returned (id : CallId) (result : Result)
  | moved

def Call.opening : Call → Phase
  | .evaluate viewer action subject => .checking ⟨.asking viewer action subject, []⟩
  | _ => .calling

namespace Threads

def start (sh : Shared) (m : Memory) : Threads := ⟨sh, m, .free, fun _ => ⟨[], .idle⟩⟩

/-- The call that a thread is making or will make next. -/
def current (σ : Threads) (i : Nat) : CallId := ⟨i, (σ.thread i).past.length⟩

def setThread (σ : Threads) (i : Nat) (th : Thread) : Threads :=
  { σ with thread := fun j => if j = i then th else σ.thread j }

def goTo (σ : Threads) (i : Nat) (activity : Activity) : Threads := σ.setThread i ⟨(σ.thread i).past, activity⟩

def finish (σ : Threads) (i : Nat) (result : Result) : Threads := σ.setThread i ⟨(σ.thread i).past ++ [result], .idle⟩

def withLock (σ : Threads) (lock : Lock) : Threads := { σ with lock := lock }

/-- Takes one step of a thread, if it is not blocked. -/
def step? (programs : Nat → Program) (σ : Threads) (i : Nat) : Option (Mark × Threads) :=
  match (σ.thread i).activity with
  | .idle =>
      match programs i (σ.thread i).past with
      | none => none
      | some (handle, call) =>
          if handle < σ.shared.handles then some (.began (σ.current i) call, σ.goTo i (.busy call call.opening)) else none
  | .busy call .calling =>
      if σ.lock.admits call.access then
        some (.moved, (σ.withLock (σ.lock.take i call.access)).goTo i (.busy call .holding))
      else none
  | .busy call .holding =>
      let (run, sh) := σ.shared.perform σ.memory call
      some (.settled ⟨σ.current i, call, run.outcome⟩,
        { σ with shared := sh, memory := run.memory }.goTo i (.busy call (.done run.outcome)))
  | .busy call (.done result) =>
      some (.moved, (σ.withLock (σ.lock.release i call.access)).goTo i (.busy call (.leaving result)))
  | .busy call (.checking ⟨.asking viewer action subject, waiting⟩) =>
      if σ.lock.admits .reading then
        some (.moved, (σ.withLock (σ.lock.take i .reading)).goTo i
          (.busy call (.checking ⟨.admitted viewer action subject, waiting⟩)))
      else none
  | .busy call (.checking ⟨.admitted viewer action subject, waiting⟩) =>
      some (.consulted (σ.current i) σ.shared.store.table,
        σ.goTo i (.busy call (.checking ⟨.consult σ.shared waiting.length viewer action subject, waiting⟩)))
  | .busy call (.checking ⟨.running cell script, waiting⟩) =>
      let (checking, m) := Checking.proceed cell waiting σ.memory script
      some (.moved, { σ with memory := m }.goTo i (.busy call (.checking checking)))
  | .busy call (.checking ⟨.ended outcome, w :: waiting⟩) =>
      some (.moved, (σ.withLock (σ.lock.release i .reading)).goTo i
        (.busy call (.checking ⟨.resumed w outcome, waiting⟩)))
  | .busy call (.checking ⟨.ended outcome, []⟩) =>
      let result := outcome.map (·.map .allowed)
      some (.settled ⟨σ.current i, call, result⟩,
        (σ.withLock (σ.lock.release i .reading)).goTo i (.busy call (.leaving result)))
  | .busy _ (.leaving result) => some (.returned (σ.current i) result, σ.finish i result)

end Threads

/-- What threads have come to, and what they showed on the way. -/
structure Course where
  threads : Threads
  marks : List Mark

/-- A step of a thread that is blocked changes nothing. -/
def Course.step (programs : Nat → Program) (c : Course) (i : Nat) : Course :=
  match c.threads.step? programs i with
  | none => c
  | some (mark, threads) => ⟨threads, c.marks ++ [mark]⟩

/-- Lets the threads of a schedule take their steps, one after the other. -/
def course (programs : Nat → Program) (sh : Shared) (m : Memory) (schedule : List Nat) : Course :=
  schedule.foldl (Course.step programs) ⟨.start sh m, []⟩

/-! ## The rules of the steps -/

namespace Threads

variable {programs : Nat → Program} {σ σ' : Threads} {mark : Mark} {i j : Nat}

@[simp] theorem setThread_self (σ : Threads) (i : Nat) (th : Thread) : (σ.setThread i th).thread i = th := by
  simp [setThread]

theorem setThread_of_ne (h : j ≠ i) (σ : Threads) (th : Thread) : (σ.setThread i th).thread j = σ.thread j := by
  simp [setThread, h]

/-- What holds of all threads holds of all of them still, if it holds of the one that changes. -/
theorem forall_setThread {P : Thread → Prop} {th : Thread} (hself : P th) (hothers : ∀ j, j ≠ i → P (σ.thread j))
    (j : Nat) : P ((σ.setThread i th).thread j) := by
  by_cases hj : j = i
  · subst hj
    rw [setThread_self]
    exact hself
  · rw [setThread_of_ne hj]
    exact hothers j hj

inductive Step (programs : Nat → Program) (σ : Threads) (i : Nat) : Mark → Threads → Prop where
  | begin {handle call} : (σ.thread i).activity = .idle → programs i (σ.thread i).past = some (handle, call) →
      handle < σ.shared.handles →
      Step programs σ i (.began (σ.current i) call) (σ.goTo i (.busy call call.opening))
  | acquire {call} : (σ.thread i).activity = .busy call .calling → σ.lock.admits call.access →
      Step programs σ i .moved ((σ.withLock (σ.lock.take i call.access)).goTo i (.busy call .holding))
  | perform {call run sh} : (σ.thread i).activity = .busy call .holding →
      σ.shared.perform σ.memory call = (run, sh) →
      Step programs σ i (.settled ⟨σ.current i, call, run.outcome⟩)
        ({ σ with shared := sh, memory := run.memory }.goTo i (.busy call (.done run.outcome)))
  | release {call result} : (σ.thread i).activity = .busy call (.done result) →
      Step programs σ i .moved ((σ.withLock (σ.lock.release i call.access)).goTo i (.busy call (.leaving result)))
  | enter {call viewer action subject waiting} :
      (σ.thread i).activity = .busy call (.checking ⟨.asking viewer action subject, waiting⟩) →
      σ.lock.admits .reading →
      Step programs σ i .moved ((σ.withLock (σ.lock.take i .reading)).goTo i
        (.busy call (.checking ⟨.admitted viewer action subject, waiting⟩)))
  | consult {call viewer action subject waiting} :
      (σ.thread i).activity = .busy call (.checking ⟨.admitted viewer action subject, waiting⟩) →
      Step programs σ i (.consulted (σ.current i) σ.shared.store.table)
        (σ.goTo i (.busy call (.checking ⟨.consult σ.shared waiting.length viewer action subject, waiting⟩)))
  | proceed {call cell script waiting checking m} :
      (σ.thread i).activity = .busy call (.checking ⟨.running cell script, waiting⟩) →
      Checking.proceed cell waiting σ.memory script = (checking, m) →
      Step programs σ i .moved ({ σ with memory := m }.goTo i (.busy call (.checking checking)))
  | resume {call outcome w waiting} :
      (σ.thread i).activity = .busy call (.checking ⟨.ended outcome, w :: waiting⟩) →
      Step programs σ i .moved ((σ.withLock (σ.lock.release i .reading)).goTo i
        (.busy call (.checking ⟨.resumed w outcome, waiting⟩)))
  | settle {call outcome} : (σ.thread i).activity = .busy call (.checking ⟨.ended outcome, []⟩) →
      Step programs σ i (.settled ⟨σ.current i, call, outcome.map (·.map .allowed)⟩)
        ((σ.withLock (σ.lock.release i .reading)).goTo i (.busy call (.leaving (outcome.map (·.map .allowed)))))
  | finish {call result} : (σ.thread i).activity = .busy call (.leaving result) →
      Step programs σ i (.returned (σ.current i) result) (σ.finish i result)

theorem step_of_step? (h : σ.step? programs i = some (mark, σ')) : Step programs σ i mark σ' := by
  unfold step? at h
  split at h
  case h_1 hidle =>
      split at h
      · cases h
      · rename_i handle call hprogram
        split at h
        · cases h
          exact .begin hidle hprogram ‹_›
        · cases h
  case h_2 hcalling =>
      split at h
      · cases h
        exact .acquire hcalling ‹_›
      · cases h
  case h_3 hholding =>
      cases h
      exact .perform hholding rfl
  case h_4 hdone =>
      cases h
      exact .release hdone
  case h_5 hasking =>
      split at h
      · cases h
        exact .enter hasking ‹_›
      · cases h
  case h_6 hadmitted =>
      cases h
      exact .consult hadmitted
  case h_7 hrunning =>
      cases h
      exact .proceed hrunning rfl
  case h_8 hended =>
      cases h
      exact .resume hended
  case h_9 hended =>
      cases h
      exact .settle hended
  case h_10 hleaving =>
      cases h
      exact .finish hleaving

end Threads

/-- A schedule with one more step leaves the course as it was, or that thread takes its step. -/
theorem course_snoc (programs : Nat → Program) (sh : Shared) (m : Memory) (schedule : List Nat) (i : Nat) :
    course programs sh m (schedule ++ [i]) = course programs sh m schedule ∨
    ∃ mark σ, Threads.Step programs (course programs sh m schedule).threads i mark σ ∧
      course programs sh m (schedule ++ [i]) = ⟨σ, (course programs sh m schedule).marks ++ [mark]⟩ := by
  have hlast : course programs sh m (schedule ++ [i]) = (course programs sh m schedule).step programs i := by
    simp [course]
  rw [hlast, Course.step]
  cases hstep : (course programs sh m schedule).threads.step? programs i with
  | none => exact .inl rfl
  | some out => exact .inr ⟨out.1, out.2, Threads.step_of_step? hstep, rfl⟩

end Shared

end Permit
