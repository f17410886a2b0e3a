import Permit.Proofs.Shared.Perform
import Permit.Proofs.Shared.Remainder
import Permit.Proofs.Shared.Serial
import Permit.Proofs.Store.Run

/-!
# The store alone

Calls through handles come to what the same calls come to on a store that nobody shares.
-/

namespace Permit

namespace Shared

variable {sh : Shared} {m : Memory} {order : List Entry} {c : Call} {p : Permit.Call}

/-- The call on the store itself. To know a type and to make a handle are no such calls. -/
def Call.plain? : Call → Option Permit.Call
  | .evaluate viewer action (.gives subject) => some (.evaluate viewer action subject)
  | .define (.gives type) (.gives actions) (.gives rule) => some (.define type actions rule)
  | .undefine type (.gives actions) => some (.undefine type actions)
  | _ => none

def Reply.of : Permit.Reply → Reply
  | .allowed answer => .allowed answer
  | .changed => .changed

/-- What a handle tells of a call on the store itself. -/
def resultOf (d : Done) : Result := d.result.map (·.map Reply.of)

def plain (order : List Entry) : List Permit.Call := order.filterMap (·.call.plain?)

theorem plain_cons_of_some {e : Entry} (hp : e.call.plain? = some p) (order : List Entry) :
    plain (e :: order) = p :: plain order := by
  simp [plain, hp]

theorem plain_cons_of_none {e : Entry} (hp : e.call.plain? = none) (order : List Entry) :
    plain (e :: order) = plain order := by
  simp [plain, hp]

theorem map_allowed (o : Outcome Answer) :
    (o.map (·.map Permit.Reply.allowed)).map (·.map Reply.of) = o.map (·.map Reply.allowed) := by
  rw [Outcome.map_map]
  refine congrArg (fun f => o.map f) (funext fun answer => ?_)
  cases answer <;> rfl

theorem perform_of_plain (h : sh.poisoned = false) (hp : c.plain? = some p) (m : Memory) :
    ∃ trace, sh.perform m c =
      (⟨resultOf (sh.store.turn m p).1, (sh.store.turn m p).2.2, trace⟩, { sh with store := (sh.store.turn m p).2.1 }) := by
  unfold Call.plain? at hp
  split at hp
  · rename_i viewer action subject
    cases hp
    obtain ⟨houtcome, hmemory⟩ := sh.store.table.ask_gives (sh.store.table.depth + 1) viewer action subject m
    rw [← checking_eq_ask] at houtcome hmemory
    refine ⟨(checking sh.store viewer action (.gives subject) m).trace, ?_⟩
    rw [perform_evaluate h, Store.turn_evaluate]
    simp only [resultOf, map_allowed, houtcome, hmemory]
    rfl
  · cases hp
    exact ⟨_, perform_define h m _ _ _⟩
  · rename_i type actions
    cases hp
    cases hk : sh.store.knows type with
    | true =>
        obtain ⟨t, removed, hu⟩ := Store.undefine?_of_knows hk actions.names
        rw [Store.turn_undefine_of_some hu]
        exact ⟨_, perform_undefine_of_some h m hu⟩
    | false =>
        rw [Store.turn_undefine_of_not_knows hk]
        exact ⟨_, perform_undefine_of_none h m (Table.undefine?_eq_none.mpr hk)⟩
  · cases hp

theorem perform_of_not_plain (h : sh.poisoned = false) (hc : c.Calm) (hp : c.plain? = none) (m : Memory) :
    ∃ result trace handles, sh.perform m c = (⟨result, m, trace⟩, { sh with handles := handles }) := by
  cases hc with
  | evaluate viewer action subject =>
      cases subject with
      | gives subject => cases hp
      | panics message =>
          have hrun := perform_evaluate h m viewer action (.panics message)
          have hmemory : (checking sh.store viewer action (.panics message) m).memory = m := by
            unfold checking
            cases Argument.checkViewer viewer <;> rfl
          simp only [hmemory] at hrun
          exact ⟨_, _, sh.handles, hrun⟩
  | define | undefine => cases hp
  | knows type => exact ⟨_, _, _, perform_knows h m type⟩
  | clone => exact ⟨_, _, _, perform_clone sh m⟩

/-- The calls in this order, one after the other on the store alone, give the results and leave the last store. -/
structure Alone (s : Store) (m : Memory) (order : List Entry) (last : Store) : Prop where
  results : (order.filter (·.call.plain?.isSome)).map Entry.result = (s.runAll m (plain order)).1.map resultOf
  known : ∀ (k : Nat) (e : Entry) (type : String), order[k]? = some e → e.call = .knows type →
    e.result = .returned (.ok (.known ((s.runAll m (plain (order.take k))).2.1.knows type)))
  last : last = (s.runAll m (plain order)).2.1

namespace Alone

variable {s last : Store} {e : Entry}

theorem cons_plain (h : Alone (s.turn m p).2.1 (s.turn m p).2.2 order last) (hp : e.call.plain? = some p)
    (hresult : e.result = resultOf (s.turn m p).1) : Alone s m (e :: order) last where
  results := by
    rw [plain_cons_of_some hp, Store.runAll_cons, List.filter_cons_of_pos (by simp [hp]), List.map_cons,
      List.map_cons, hresult, h.results]
  known k f type hk hf := by
    cases k with
    | zero =>
        cases hk
        rw [hf] at hp
        cases hp
    | succ k =>
        rw [List.take_succ_cons, plain_cons_of_some hp, Store.runAll_cons]
        exact h.known k f type hk hf
  last := by
    rw [plain_cons_of_some hp, Store.runAll_cons]
    exact h.last

theorem cons_other (h : Alone s m order last) (hp : e.call.plain? = none)
    (hresult : ∀ type, e.call = .knows type → e.result = .returned (.ok (.known (s.knows type)))) :
    Alone s m (e :: order) last where
  results := by
    rw [plain_cons_of_none hp, List.filter_cons_of_neg (by simp [hp])]
    exact h.results
  known k f type hk hf := by
    cases k with
    | zero =>
        cases hk
        exact hresult type hf
    | succ k =>
        rw [List.take_succ_cons, plain_cons_of_none hp]
        exact h.known k f type hk hf
  last := by
    rw [plain_cons_of_none hp]
    exact h.last

theorem of_legal (h : sh.poisoned = false) (hcalm : ∀ e ∈ order, e.call.Calm)
    (hlegal : (sh.runAll m (calls order)).1.map Prod.fst = order.map Entry.result) :
    Alone sh.store m order (sh.runAll m (calls order)).2.1.store := by
  induction order generalizing sh m with
  | nil => exact ⟨rfl, fun _ _ _ hk => absurd hk nofun, rfl⟩
  | cons e rest ih =>
      obtain ⟨hcall, hrest⟩ := List.forall_mem_cons.mp hcalm
      simp only [calls, List.map_cons, runAll, List.cons.injEq] at hlegal ⊢
      obtain ⟨hresult, hlegal⟩ := hlegal
      cases hp : e.call.plain? with
      | some p =>
          obtain ⟨trace, hrun⟩ := perform_of_plain h hp m
          rw [hrun] at hresult hlegal ⊢
          have hsound : { sh with store := (sh.store.turn m p).2.1 }.poisoned = false := h
          exact (ih hsound hrest hlegal).cons_plain hp hresult.symm
      | none =>
          obtain ⟨result, trace, handles, hrun⟩ := perform_of_not_plain h hcall hp m
          rw [hrun] at hresult hlegal ⊢
          have hsound : { sh with handles := handles }.poisoned = false := h
          refine (ih hsound hrest hlegal).cons_other hp fun type hknows => ?_
          rw [hknows, perform_knows h] at hrun
          have houtcome : Outcome.returned _ = result := congrArg (fun turn => turn.1.outcome) hrun
          exact hresult.symm.trans houtcome.symm

end Alone

end Shared

end Permit
