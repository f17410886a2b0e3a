import Permit.Proofs.Shared.Moves

/-!
# The order of the settled calls

Whatever threads do in moves, the calls in the order in which they were settled are a serial order that agrees with all
that was shown.
-/

namespace Permit

namespace Shared

/-- The calls that were settled, in the order in which this happened. -/
def entries (marks : List Mark) : List Entry :=
  marks.filterMap fun | .settled e => some e | _ => none

/-- The first call had returned before the second began. -/
def Precedes (marks : List Mark) (a b : CallId) : Prop :=
  ∃ result call, [Mark.returned a result, Mark.began b call].Sublist marks

variable {programs : Nat → Program} {m : Memory} {sh sh' : Shared} {v v' : View} {i : Nat} {mark : Mark}
  {marks : List Mark} {id : CallId} {table table' : Table}

theorem pair_sublist_snoc {α : Type} {l : List α} {x y z : α} (h : [x, y].Sublist (l ++ [z])) :
    [x, y].Sublist l ∨ x ∈ l ∧ y = z := by
  obtain ⟨before, after, hsplit, hbefore, hafter⟩ := List.sublist_append_iff.mp h
  cases hafter with
  | cons _ hnil =>
      rw [List.sublist_nil.mp hnil, List.append_nil] at hsplit
      exact .inl (hsplit ▸ hbefore)
  | cons_cons _ hnil =>
      rw [List.sublist_nil.mp hnil] at hsplit
      obtain ⟨rfl, hlast⟩ := List.append_inj' (show [x] ++ [y] = before ++ [z] from hsplit) rfl
      exact .inr ⟨List.singleton_sublist.mp hbefore, List.head_eq_of_cons_eq hlast⟩

theorem entries_settled (marks : List Mark) (e : Entry) : entries (marks ++ [.settled e]) = entries marks ++ [e] := by
  simp [entries]

theorem entries_quiet (h : ∀ e, mark ≠ .settled e) (marks : List Mark) : entries (marks ++ [mark]) = entries marks := by
  cases mark with
  | settled e => exact absurd rfl (h e)
  | began | consulted | returned | moved => simp [entries]

/-- The calls in the order in which they were settled agree with all that was shown. -/
structure Linear (programs : Nat → Program) (sh : Shared) (m : Memory) (marks : List Mark) (v : View) : Prop where
  serial : Serial programs sh m (entries marks)
  after : (sh.runAll m (calls (entries marks))).2 = (v.shared, m)
  account : ∀ i, resultsOf i (entries marks) = (v.standing i).account
  told : ∀ i, Told programs marks v.shared i (v.standing i)
  began : ∀ e ∈ entries marks, .began e.id e.call ∈ marks
  realTime : ∀ a b, Precedes marks a b → b ∈ (entries marks).map Entry.id →
    [a, b].Sublist ((entries marks).map Entry.id)
  decided : ∀ k e table, (entries marks)[k]? = some e → .consulted e.id table ∈ marks →
    (sh.runAll m (calls ((entries marks).take k))).2.1.store.table = table

namespace Linear

/-- The next call of a thread is none of those that are settled. -/
theorem not_mem (h : Linear programs sh m marks v) {past : List Result} (hs : (v.standing i).account = past) :
    ⟨i, past.length⟩ ∉ (entries marks).map Entry.id := by
  intro hmem
  have hlt := h.serial.mem_iff.mp hmem
  rw [h.account, hs] at hlt
  exact Nat.lt_irrefl _ hlt

theorem not_mem_of_began {id : CallId} {call : Call} (h : Linear programs sh m marks v)
    (hmove : Move programs m v i (.began id call) v') : id ∉ (entries marks).map Entry.id := by
  cases hmove with
  | begin hs _ _ => exact h.not_mem (congrArg Standing.account hs)

theorem not_mem_of_consulted {id : CallId} {table : Table} (h : Linear programs sh m marks v)
    (hmove : Move programs m v i (.consulted id table) v') : id ∉ (entries marks).map Entry.id := by
  cases hmove with
  | consult hs => exact h.not_mem (congrArg Standing.account hs)

theorem mem_of_returned (h : Linear programs sh m marks v) {id : CallId} {result : Result}
    (hid : .returned id result ∈ marks) : ∃ e ∈ entries marks, e.id = id ∧ e.result = result := by
  have hpast := (h.told id.thread).returned id.index result hid
  refine h.serial.exists_of_result ?_
  rw [h.account]
  exact Standing.account_of_past hpast

theorem quiet (h : Linear programs sh m marks v) (hmove : Move programs m v i mark v')
    (hmark : ∀ e, mark ≠ .settled e) : Linear programs sh m (marks ++ [mark]) v' := by
  obtain ⟨hshared, haccount⟩ := hmove.quiet hmark
  have hentries := entries_quiet hmark marks
  refine ⟨?_, ?_, ?_, ?_, ?_, ?_, ?_⟩
  · rw [hentries]
    exact h.serial
  · rw [hentries, hshared]
    exact h.after
  · intro j
    rw [hentries, haccount]
    exact h.account j
  · exact hmove.told h.told
  · intro e he
    rw [hentries] at he
    exact List.mem_append_left _ (h.began e he)
  · rintro a b ⟨result, call, hsub⟩ hb
    rw [hentries] at hb ⊢
    rcases pair_sublist_snoc hsub with hold | ⟨-, rfl⟩
    · exact h.realTime a b ⟨result, call, hold⟩ hb
    · exact absurd hb (h.not_mem_of_began hmove)
  · intro k e table he hconsulted
    rw [hentries] at he ⊢
    rcases List.mem_append.mp hconsulted with hold | hnew
    · exact h.decided k e table he hold
    · obtain rfl := List.mem_singleton.mp hnew
      exact absurd (List.mem_map_of_mem (List.mem_of_getElem? he)) (h.not_mem_of_consulted hmove)

theorem settle {past : List Result} {call : Call} {reads : Bool} {result : Result} {trace : Trace}
    (h : Linear programs sh m marks v) (hs : v.standing i = ⟨past, .pending call reads⟩)
    (hperform : v.shared.perform m call = (⟨result, m, trace⟩, sh'))
    (htold : ∀ j, Told programs (marks ++ [.settled ⟨⟨i, past.length⟩, call, result⟩]) sh' j
      ((v.set i ⟨past, .settled result⟩).standing j)) :
    Linear programs sh m (marks ++ [.settled ⟨⟨i, past.length⟩, call, result⟩])
      (View.set { v with shared := sh' } i ⟨past, .settled result⟩) := by
  have hown := h.told i
  rw [hs] at hown
  obtain ⟨⟨handle, hhandle, hasked⟩, hbegan⟩ := hown.asked call reads rfl
  have haccount : resultsOf i (entries marks) = past := by rw [h.account, hs]; rfl
  refine ⟨?_, ?_, ?_, htold, ?_, ?_, ?_⟩
  · rw [entries_settled]
    refine h.serial.snoc h.after ?_ hhandle ?_ ?_
    · exact congrArg List.length haccount.symm
    · rw [haccount]
      exact hasked
    · rw [hperform]
  · rw [entries_settled, calls_snoc, runAll_append, h.after]
    simp only [runAll, hperform]
    rfl
  · intro j
    rw [entries_settled, resultsOf_snoc]
    by_cases hj : j = i
    · subst hj
      rw [if_pos rfl, haccount, View.set_self]
      rfl
    · rw [if_neg (Ne.symm hj), View.set_of_ne hj]
      exact h.account j
  · intro e he
    rw [entries_settled] at he
    rcases List.mem_append.mp he with hold | hnew
    · exact List.mem_append_left _ (h.began e hold)
    · obtain rfl := List.mem_singleton.mp hnew
      exact List.mem_append_left _ hbegan
  · rintro a b ⟨result', call', hsub⟩ hb
    rcases pair_sublist_snoc hsub with hold | ⟨-, hne⟩
    · rw [entries_settled, List.map_append] at hb ⊢
      rcases List.mem_append.mp hb with hearlier | hlast
      · exact (h.realTime a b ⟨result', call', hold⟩ hearlier).trans (List.sublist_append_left _ _)
      -- What is settled now comes last, and whatever has returned is in the order already.
      · obtain rfl := List.mem_singleton.mp hlast
        obtain ⟨e, he, rfl, -⟩ := h.mem_of_returned (hold.subset (List.mem_cons_self ..))
        exact List.Sublist.append (List.singleton_sublist.mpr (List.mem_map_of_mem he)) (.refl _)
    · cases hne
  · intro k e table he hconsulted
    rw [entries_settled] at he ⊢
    replace hconsulted := mem_of_ne hconsulted fun heq => by cases heq
    rcases getElem?_snoc he with ⟨hlt, hold⟩ | ⟨rfl, rfl⟩
    · rw [List.take_append_of_le_length (Nat.le_of_lt hlt)]
      exact h.decided k e table hold hconsulted
    -- The call was pending until now, so what it consulted is the present table.
    · rw [List.take_left, h.after]
      rcases hown.consulted past.length table hconsulted with hlt | ⟨-, htable, -⟩
      · exact absurd hlt (Nat.lt_irrefl _)
      · exact htable.symm

theorem move (h : Linear programs sh m marks v) (hmove : Move programs m v i mark v') :
    Linear programs sh m (marks ++ [mark]) v' := by
  have hquiet := h.quiet hmove
  have htold := hmove.told h.told
  cases hmove with
  | settle hs hperform hstore => exact h.settle hs hperform htold
  | begin | work | consult | leave | finish => exact hquiet fun e he => by cases he

/-! ## One table for each call -/

theorem complete (h : Linear programs sh m marks v) {call : Call} (hbegan : .began id call ∈ marks)
    (hidle : (v.standing id.thread).status = .idle) : id ∈ (entries marks).map Entry.id := by
  rw [h.serial.mem_iff, h.account]
  rcases (h.told id.thread).began id.index call hbegan with hlt | ⟨-, call', reads, hpending⟩
  · exact hlt
  · rw [hidle] at hpending
    cases hpending

theorem one_table (h : Linear programs sh m marks v) (ht : .consulted id table ∈ marks)
    (ht' : .consulted id table' ∈ marks) : table = table' := by
  by_cases hsettled : id ∈ (entries marks).map Entry.id
  · obtain ⟨e, he, rfl⟩ := List.mem_map.mp hsettled
    obtain ⟨k, hk⟩ := List.mem_iff_getElem?.mp he
    exact (h.decided k e table hk ht).symm.trans (h.decided k e table' hk ht')
  · rw [h.serial.mem_iff, h.account] at hsettled
    rcases (h.told id.thread).consulted id.index table ht with hlt | ⟨-, hnow, -⟩
    · exact absurd hlt hsettled
    · rcases (h.told id.thread).consulted id.index table' ht' with hlt | ⟨-, hnow', -⟩
      · exact absurd hlt hsettled
      · exact hnow.trans hnow'.symm

/-- A table is consulted as it is, while the call is under way. -/
theorem consulting (h : Linear programs sh m marks v) (hmove : Move programs m v i (.consulted id table) v') :
    v.shared.store.table = table ∧ UnderWay marks id := by
  cases hmove with
  | consult hs =>
      have hown := h.told i
      rw [hs] at hown
      exact ⟨rfl, hown.underWay⟩

/-- A call is settled on the table that its predecessors in the order leave, while it is under way. -/
theorem settling {e : Entry} (h : Linear programs sh m marks v) (hmove : Move programs m v i (.settled e) v') :
    v.shared.store.table = (sh.runAll m (calls (entries marks))).2.1.store.table ∧ UnderWay marks e.id := by
  cases hmove with
  | settle hs _ _ =>
      have hown := h.told i
      rw [hs] at hown
      exact ⟨by rw [h.after], hown.underWay⟩

end Linear

end Shared

end Permit
