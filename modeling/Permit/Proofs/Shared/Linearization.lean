import Mathlib.Data.List.Induction
import Permit.Proofs.Shared.Alone
import Permit.Proofs.Shared.Order
import Permit.Proofs.Shared.Simulation

/-!
# Shared stores are linearizable

However the steps of threads come, their calls have an order in which they could have been made one after the other, each
of them whole, with the same results and the same store at the end; and the order keeps to the times of the calls.
-/

namespace Permit

namespace Shared

variable {programs : Nat → Program} {m : Memory} {sh : Shared} {v v' : View} {i : Nat} {marks : List Mark}
  {id : CallId} {table table' : Table}

/-- The calls in this order explain what the threads have come to. -/
structure Linearizes (programs : Nat → Program) (sh : Shared) (m : Memory) (c : Course) (order : List Entry) : Prop
    extends Serial programs sh m order where
  once : (order.map Entry.id).Nodup
  began : ∀ e ∈ order, .began e.id e.call ∈ c.marks
  returned : ∀ id result, .returned id result ∈ c.marks → ∃ e ∈ order, e.id = id ∧ e.result = result
  complete : ∀ id call, .began id call ∈ c.marks → (c.threads.thread id.thread).activity = .idle →
    id ∈ order.map Entry.id
  realTime : ∀ a b, Precedes c.marks a b → b ∈ order.map Entry.id → [a, b].Sublist (order.map Entry.id)
  after : (sh.runAll m (calls order)).2 = (c.threads.shared, c.threads.memory)
  decided : ∀ k e table, order[k]? = some e → .consulted e.id table ∈ c.marks →
    (sh.runAll m (calls (order.take k))).2.1.store.table = table

/-- At some moment, while the call was under way, this was the table of the store. -/
def Stood (programs : Nat → Program) (sh : Shared) (m : Memory) (schedule : List Nat) (id : CallId) (table : Table) :
    Prop :=
  ∃ earlier later, schedule = earlier ++ later ∧
    (course programs sh m earlier).threads.shared.store.table = table ∧
    UnderWay (course programs sh m earlier).marks id

theorem Stood.snoc {schedule : List Nat} (h : Stood programs sh m schedule id table) (i : Nat) :
    Stood programs sh m (schedule ++ [i]) id table := by
  obtain ⟨earlier, later, rfl, hmoment⟩ := h
  exact ⟨earlier, later ++ [i], List.append_assoc .., hmoment⟩

/-! ## Whole courses -/

theorem Linear.start (s : Store) (m : Memory) : Linear programs (.of s) m [] (Threads.start (.of s) m).view where
  serial := .nil programs (.of s) m
  after := rfl
  account _ := rfl
  told i := .start programs (.of s) i
  began _ h := absurd h List.not_mem_nil
  realTime _ _ _ h := absurd h List.not_mem_nil
  decided _ _ _ _ h := absurd h List.not_mem_nil

section

variable {s : Store} (hs : s.table.Stateless)
  (hcalm : ∀ i past handle call, programs i past = some (handle, call) → call.Calm)

include hs hcalm

theorem course_linear (m : Memory) (schedule : List Nat) :
    let c := course programs (.of s) m schedule
    c.threads.Sound m ∧ Linear programs (.of s) m c.marks c.threads.view := by
  induction schedule using List.reverseRecOn with
  | nil => exact ⟨.start hs m, .start s m⟩
  | append_singleton schedule i ih =>
      obtain ⟨hsound, hlinear⟩ := ih
      rcases course_snoc programs (.of s) m schedule i with hstay | ⟨mark, σ, hstep, hnext⟩
      · rw [hstay]
        exact ⟨hsound, hlinear⟩
      · rw [hnext]
        exact ⟨hstep.sound hsound hcalm, hlinear.move (hstep.move hsound)⟩

theorem stood_of_consulted (m : Memory) (schedule : List Nat)
    (h : .consulted id table ∈ (course programs (.of s) m schedule).marks) :
    Stood programs (.of s) m schedule id table := by
  induction schedule using List.reverseRecOn with
  | nil => cases h
  | append_singleton schedule i ih =>
      obtain ⟨hsound, hlinear⟩ := course_linear hs hcalm m schedule
      rcases course_snoc programs (.of s) m schedule i with hstay | ⟨mark, σ, hstep, hnext⟩
      · rw [hstay] at h
        exact (ih h).snoc i
      · rw [hnext] at h
        rcases List.mem_append.mp h with hold | hnew
        · exact (ih hold).snoc i
        · obtain rfl := List.mem_singleton.mp hnew
          exact ⟨schedule, [i], rfl, hlinear.consulting (hstep.move hsound)⟩

theorem stood_of_settled (m : Memory) (schedule : List Nat) {k : Nat} {e : Entry}
    (h : (entries (course programs (.of s) m schedule).marks)[k]? = some e) :
    Stood programs (.of s) m schedule e.id ((Shared.of s).runAll m
      (calls ((entries (course programs (.of s) m schedule).marks).take k))).2.1.store.table := by
  induction schedule using List.reverseRecOn with
  | nil => cases h
  | append_singleton schedule i ih =>
      obtain ⟨hsound, hlinear⟩ := course_linear hs hcalm m schedule
      rcases course_snoc programs (.of s) m schedule i with hstay | ⟨mark, σ, hstep, hnext⟩
      · rw [hstay] at h ⊢
        exact (ih h).snoc i
      · rw [hnext] at h ⊢
        by_cases hmark : ∃ f, mark = .settled f
        · obtain ⟨f, rfl⟩ := hmark
          rw [entries_settled] at h ⊢
          rcases getElem?_snoc h with ⟨hlt, hold⟩ | ⟨rfl, rfl⟩
          · rw [List.take_append_of_le_length (Nat.le_of_lt hlt)]
            exact (ih hold).snoc i
          · rw [List.take_left]
            exact ⟨schedule, [i], rfl, hlinear.settling (hstep.move hsound)⟩
        · rw [entries_quiet (fun f hf => hmark ⟨f, hf⟩)] at h ⊢
          exact (ih h).snoc i

end

/-- Every course of threads is linearizable, and every check in it is decided by one table that was there meanwhile. -/
theorem course_linearizable (programs : Nat → Program) (s : Store) (m : Memory) (schedule : List Nat)
    (hs : s.table.Stateless) (hcalm : ∀ i past handle call, programs i past = some (handle, call) → call.Calm) :
    let c := course programs (.of s) m schedule
    ∃ order, Linearizes programs (.of s) m c order ∧ Alone s m order c.threads.shared.store ∧
      (∀ k e, order[k]? = some e →
        Stood programs (.of s) m schedule e.id ((Shared.of s).runAll m (calls (order.take k))).2.1.store.table) ∧
      (∀ id table table', .consulted id table ∈ c.marks → .consulted id table' ∈ c.marks → table = table') ∧
      ∀ id table, .consulted id table ∈ c.marks → Stood programs (.of s) m schedule id table := by
  obtain ⟨hsound, hlinear⟩ := course_linear hs hcalm m schedule
  refine ⟨entries (course programs (.of s) m schedule).marks, ⟨hlinear.serial, ?_, ?_, ?_, ?_, ?_, ?_, ?_⟩, ?_, ?_, ?_, ?_⟩
  · exact hlinear.serial.nodup
  · exact hlinear.began
  · exact fun id result hreturned => hlinear.mem_of_returned hreturned
  · intro id call hbegan hidle
    refine hlinear.complete hbegan ?_
    rw [Threads.standing_view hidle]
    rfl
  · exact hlinear.realTime
  · rw [hlinear.after, hsound.memory]
    rfl
  · exact hlinear.decided
  · have hcalls : ∀ e ∈ entries (course programs (.of s) m schedule).marks, e.call.Calm := by
      intro e he
      obtain ⟨k, hk⟩ := List.mem_iff_getElem?.mp he
      obtain ⟨handle, -, hasked⟩ := hlinear.serial.asked k e hk
      exact hcalm _ _ _ _ hasked
    have halone := Alone.of_legal rfl hcalls hlinear.serial.legal
    rw [hlinear.after] at halone
    exact halone
  · exact fun k e hk => stood_of_settled hs hcalm m schedule hk
  · exact fun id table table' ht ht' => hlinear.one_table ht ht'
  · exact fun id table ht => stood_of_consulted hs hcalm m schedule ht

/-! ## Two threads -/

def passing (action : String) (subject : Subject) : Predicate :=
  ⟨0, fun viewer _ => .check viewer action subject fun answer => .finish (answer.mapError .refused)⟩

/-- To see a post one has to be allowed to edit posts. -/
def posts : Store :=
  ⟨Table.empty.define "post" ["see"] (.predicate (passing "edit" (.bare "post")))⟩

/-- One thread allows to edit posts; the other makes a handle and asks through it. -/
def two : Nat → Program
  | 0 => .of [(0, .define (.gives "post") (.gives (.one "edit")) (.gives .allow))]
  | 1 => .of [(0, .clone), (1, .evaluate none "see" (.gives (.bare "post")))]
  | _ => fun _ => none

theorem posts_stateless : posts.table.Stateless := by
  have hempty : Table.empty.Stateless := fun _ _ _ h => by cases h
  have hrule : (Rule.predicate (passing "edit" (.bare "post"))).Stateless :=
    fun viewer _ => Script.Stateless.check viewer "edit" (.bare "post") fun answer => .finish (answer.mapError .refused)
  exact hempty.define hrule "post" ["see"]

theorem Program.calm_of {calls : List (Nat × Call)} {past : List Result} {handle : Nat} {call : Call}
    (hcalls : ∀ x ∈ calls, x.2.Calm) (h : Program.of calls past = some (handle, call)) : call.Calm :=
  hcalls (handle, call) (List.mem_of_getElem? h)

theorem two_calm (i : Nat) (past : List Result) (handle : Nat) (call : Call) (h : two i past = some (handle, call)) :
    call.Calm := by
  match i with
  | 0 => exact Program.calm_of (by simpa using .define "post" (.one "edit") trivial) h
  | 1 => exact Program.calm_of (by simpa using ⟨.clone, .evaluate none "see" (.gives (.bare "post"))⟩) h
  | _ + 2 => cases h

/-- The check begins first and keeps the definition waiting, so editing is not allowed yet. -/
theorem course_linearizable_two :
    let c := course two (.of posts) Memory.fresh [1, 1, 1, 1, 1, 1, 1, 1, 0, 0, 1, 1, 1, 1, 1, 1, 0, 1, 1, 0, 0, 0, 0]
    ∃ order, Linearizes two (.of posts) Memory.fresh c order ∧
      (∃ e ∈ order, e.id = ⟨1, 1⟩ ∧ e.result = .returned (.ok (.allowed false))) ∧
      ∃ e ∈ order, e.id = ⟨0, 0⟩ ∧ e.result = .returned (.ok .changed) := by
  obtain ⟨order, h, -⟩ := course_linearizable two posts Memory.fresh
    [1, 1, 1, 1, 1, 1, 1, 1, 0, 0, 1, 1, 1, 1, 1, 1, 0, 1, 1, 0, 0, 0, 0] posts_stateless two_calm
  refine ⟨order, h, h.returned ⟨1, 1⟩ _ ?_, h.returned ⟨0, 0⟩ _ ?_⟩
  · exact List.mem_of_getElem? (i := 16) rfl
  · exact List.mem_of_getElem? (i := 19) rfl

end Shared

end Permit
