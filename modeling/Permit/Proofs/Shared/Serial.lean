import Permit.Proofs.Shared.Threads

/-!
# Orders of calls

A list of calls that threads could make one after the other, each of them whole, and with these results.
-/

namespace Permit

namespace Shared

variable {programs : Nat → Program} {sh sh' : Shared} {m : Memory} {order : List Entry} {e : Entry} {i k : Nat}

/-! ## Many calls, one after the other -/

theorem runAll_append (sh : Shared) (m : Memory) (cs ds : List Call) :
    sh.runAll m (cs ++ ds) =
      ((sh.runAll m cs).1 ++ ((sh.runAll m cs).2.1.runAll (sh.runAll m cs).2.2 ds).1,
        ((sh.runAll m cs).2.1.runAll (sh.runAll m cs).2.2 ds).2) := by
  induction cs generalizing sh m with
  | nil => rfl
  | cons c cs ih => simp only [List.cons_append, runAll, ih]

/-- What comes of a call in a run is what comes of it after the calls before it. -/
theorem runAll_getElem? {cs : List Call} {c : Call} (h : cs[i]? = some c) (sh : Shared) (m : Memory) :
    (sh.runAll m cs).1[i]? =
      let run := ((sh.runAll m (cs.take i)).2.1.perform (sh.runAll m (cs.take i)).2.2 c).1
      some (run.outcome, run.trace) := by
  induction cs generalizing sh m i with
  | nil => simp at h
  | cons d ds ih =>
      cases i with
      | zero =>
          cases h
          rfl
      | succ i =>
          simp only [List.getElem?_cons_succ] at h
          simp only [runAll, List.getElem?_cons_succ, List.take_succ_cons]
          exact ih h _ _

theorem runAll_take_succ {cs : List Call} {c : Call} (h : cs[i]? = some c) (sh : Shared) (m : Memory) :
    (sh.runAll m (cs.take (i + 1))).2 =
      let out := (sh.runAll m (cs.take i)).2.1.perform (sh.runAll m (cs.take i)).2.2 c
      (out.2, out.1.memory) := by
  rw [List.take_add_one, h, Option.toList_some, runAll_append]
  rfl

theorem runAll_take_succ_of_none {cs : List Call} (h : cs[i]? = none) (sh : Shared) (m : Memory) :
    sh.runAll m (cs.take (i + 1)) = sh.runAll m (cs.take i) := by
  rw [List.take_add_one, h, Option.toList_none, List.append_nil]

def calls (order : List Entry) : List Call := order.map Entry.call

theorem calls_snoc (order : List Entry) (e : Entry) : calls (order ++ [e]) = calls order ++ [e.call] := by
  simp [calls]

def ofThread (i : Nat) (order : List Entry) : List Entry := order.filter (·.id.thread == i)

def resultsOf (i : Nat) (order : List Entry) : List Result := (ofThread i order).map Entry.result

theorem ofThread_snoc (i : Nat) (order : List Entry) (e : Entry) :
    ofThread i (order ++ [e]) = if e.id.thread = i then ofThread i order ++ [e] else ofThread i order := by
  by_cases h : e.id.thread = i <;> simp [ofThread, h]

theorem resultsOf_snoc (i : Nat) (order : List Entry) (e : Entry) :
    resultsOf i (order ++ [e]) =
      if e.id.thread = i then resultsOf i order ++ [e.result] else resultsOf i order := by
  rw [resultsOf, ofThread_snoc]
  by_cases h : e.id.thread = i <;> simp [resultsOf, h]

theorem getElem?_snoc {α : Type} {l : List α} {x y : α} (h : (l ++ [x])[k]? = some y) :
    (k < l.length ∧ l[k]? = some y) ∨ (k = l.length ∧ y = x) := by
  rcases Nat.lt_or_ge k l.length with hlt | hge
  · rw [List.getElem?_append_left hlt] at h
    exact .inl ⟨hlt, h⟩
  · rw [List.getElem?_append_right hge, List.getElem?_singleton] at h
    split at h
    · cases h
      exact .inr ⟨by omega, rfl⟩
    · cases h

/-! ## Serial orders -/

/-- The calls are those that the programs ask for, each thread's in its order, and the results are those of the calls
one after the other. -/
structure Serial (programs : Nat → Program) (sh : Shared) (m : Memory) (order : List Entry) : Prop where
  numbered : ∀ i, (ofThread i order).map (·.id.index) = List.range (resultsOf i order).length
  asked : ∀ k e, order[k]? = some e → ∃ handle < (sh.runAll m (calls (order.take k))).2.1.handles,
    programs e.id.thread (resultsOf e.id.thread (order.take k)) = some (handle, e.call)
  legal : (sh.runAll m (calls order)).1.map Prod.fst = order.map Entry.result

namespace Serial

theorem nil (programs : Nat → Program) (sh : Shared) (m : Memory) : Serial programs sh m [] where
  numbered _ := rfl
  asked _ _ h := by simp at h
  legal := rfl

/-- The numbers of its calls tell which calls of a thread there are. -/
theorem mem_iff (h : Serial programs sh m order) {id : CallId} :
    id ∈ order.map Entry.id ↔ id.index < (resultsOf id.thread order).length := by
  have hrange : id.index ∈ (ofThread id.thread order).map (·.id.index) ↔ id.index < (resultsOf id.thread order).length := by
    rw [h.numbered, List.mem_range]
  rw [← hrange]
  constructor
  · intro hid
    obtain ⟨e, he, rfl⟩ := List.mem_map.mp hid
    exact List.mem_map.mpr ⟨e, List.mem_filter.mpr ⟨he, beq_self_eq_true _⟩, rfl⟩
  · intro hindex
    obtain ⟨e, he, hei⟩ := List.mem_map.mp hindex
    obtain ⟨hmem, hthread⟩ := List.mem_filter.mp he
    exact List.mem_map.mpr ⟨e, hmem, CallId.ext (eq_of_beq hthread) hei⟩

theorem exists_of_result (h : Serial programs sh m order) {result : Result}
    (hresult : (resultsOf i order)[k]? = some result) : ∃ e ∈ order, e.id = ⟨i, k⟩ ∧ e.result = result := by
  rw [resultsOf, List.getElem?_map] at hresult
  obtain ⟨e, he, rfl⟩ := Option.map_eq_some_iff.mp hresult
  obtain ⟨hmem, hthread⟩ := List.mem_filter.mp (List.mem_of_getElem? he)
  have hlt : k < (resultsOf i order).length := by
    rw [resultsOf, List.length_map]
    exact (List.getElem?_eq_some_iff.mp he).1
  have hindex : ((ofThread i order).map (·.id.index))[k]? = some e.id.index := by rw [List.getElem?_map, he, Option.map_some]
  rw [h.numbered, List.getElem?_range hlt] at hindex
  exact ⟨e, hmem, CallId.ext (eq_of_beq hthread) (Option.some.inj hindex).symm, rfl⟩

theorem nodup (h : Serial programs sh m order) : (order.map Entry.id).Nodup := by
  -- A call comes as often as its number comes among the calls of its thread.
  rw [List.nodup_iff_count]
  intro id
  have hcount : (order.map Entry.id).count id = ((ofThread id.thread order).map (·.id.index)).count id.index := by
    rw [List.count_eq_countP, List.count_eq_countP, List.countP_map, List.countP_map, ofThread, List.countP_filter]
    refine List.countP_congr fun e _ => ?_
    simp [CallId.ext_iff, and_comm]
  rw [hcount, h.numbered]
  exact List.nodup_iff_count.mp List.nodup_range _

theorem snoc (h : Serial programs sh m order) (hafter : (sh.runAll m (calls order)).2 = (sh', m))
    (hindex : e.id.index = (resultsOf e.id.thread order).length) {handle : Nat} (hhandle : handle < sh'.handles)
    (hasked : programs e.id.thread (resultsOf e.id.thread order) = some (handle, e.call))
    (hresult : (sh'.perform m e.call).1.outcome = e.result) : Serial programs sh m (order ++ [e]) where
  numbered i := by
    rw [ofThread_snoc, resultsOf_snoc]
    split
    · rename_i hi
      subst hi
      simp [h.numbered, hindex, List.range_succ]
    · exact h.numbered i
  asked k f hk := by
    rcases getElem?_snoc hk with ⟨hlt, hold⟩ | ⟨rfl, rfl⟩
    · rw [List.take_append_of_le_length (Nat.le_of_lt hlt)]
      exact h.asked k f hold
    · rw [List.take_left, hafter]
      exact ⟨handle, hhandle, hasked⟩
  legal := by
    rw [calls_snoc, runAll_append, hafter]
    simp [runAll, h.legal, hresult]

end Serial

end Shared

end Permit
