import Permit.Proofs.Shared.Perform
import Permit.Proofs.Shared.Serial

/-!
# Moves

Threads seen from outside: a call is pending, then at one moment it is settled as if it had been made all at once, and
then it returns. Whatever threads do in such moves, the calls in the order in which they were settled are a serial order
that agrees with all that was shown.
-/

namespace Permit

namespace Shared

/-- What a thread is doing, seen from outside; of a pending call, whether it reads the store. -/
inductive Status where
  | idle
  | pending (call : Call) (reads : Bool)
  | settled (result : Result)

structure Standing where
  past : List Result
  status : Status

def Standing.account (s : Standing) : List Result :=
  match s.status with
  | .idle | .pending .. => s.past
  | .settled result => s.past ++ [result]

theorem Standing.account_of_past {s : Standing} {k : Nat} {result : Result} (h : s.past[k]? = some result) :
    s.account[k]? = some result := by
  unfold account
  split
  · exact h
  · exact h
  · exact (List.getElem?_append_left (List.getElem?_eq_some_iff.mp h).1).trans h

structure View where
  shared : Shared
  standing : Nat → Standing

def View.set (v : View) (i : Nat) (s : Standing) : View :=
  { v with standing := fun j => if j = i then s else v.standing j }

/-- A call may change the table only if no other one reads it. -/
inductive Move (programs : Nat → Program) (m : Memory) (v : View) (i : Nat) : Mark → View → Prop where
  | begin {past handle call} : v.standing i = ⟨past, .idle⟩ → programs i past = some (handle, call) →
      handle < v.shared.handles →
      Move programs m v i (.began ⟨i, past.length⟩ call) (v.set i ⟨past, .pending call false⟩)
  | work {past call reads reads'} : v.standing i = ⟨past, .pending call reads⟩ → (reads = true → reads' = true) →
      Move programs m v i .moved (v.set i ⟨past, .pending call reads'⟩)
  | consult {past call} : v.standing i = ⟨past, .pending call true⟩ →
      Move programs m v i (.consulted ⟨i, past.length⟩ v.shared.store.table) (v.set i ⟨past, .pending call true⟩)
  | settle {past call reads result trace sh} : v.standing i = ⟨past, .pending call reads⟩ →
      v.shared.perform m call = (⟨result, m, trace⟩, sh) →
      (∀ j past call, j ≠ i → v.standing j = ⟨past, .pending call true⟩ → sh.store = v.shared.store) →
      Move programs m v i (.settled ⟨⟨i, past.length⟩, call, result⟩)
        (View.set { v with shared := sh } i ⟨past, .settled result⟩)
  | leave {past result} : v.standing i = ⟨past, .settled result⟩ →
      Move programs m v i .moved (v.set i ⟨past, .settled result⟩)
  | finish {past result} : v.standing i = ⟨past, .settled result⟩ →
      Move programs m v i (.returned ⟨i, past.length⟩ result) (v.set i ⟨past ++ [result], .idle⟩)

variable {programs : Nat → Program} {m : Memory} {sh sh' : Shared} {v v' : View} {i j : Nat} {mark : Mark}
  {marks : List Mark} {s : Standing}

@[simp] theorem View.set_self (v : View) (i : Nat) (s : Standing) : (v.set i s).standing i = s := by
  simp [set]

theorem View.set_of_ne (h : j ≠ i) (v : View) (s : Standing) : (v.set i s).standing j = v.standing j := by
  simp [set, h]

/-! ## What the marks tell about a thread -/

/-- All that is shown about the calls of a thread agrees with what the thread has come to. -/
structure Told (programs : Nat → Program) (marks : List Mark) (sh : Shared) (i : Nat) (s : Standing) : Prop where
  asked : ∀ call reads, s.status = .pending call reads →
    (∃ handle < sh.handles, programs i s.past = some (handle, call)) ∧ .began ⟨i, s.past.length⟩ call ∈ marks
  began : ∀ k call, .began ⟨i, k⟩ call ∈ marks →
    k < s.account.length ∨ k = s.past.length ∧ ∃ call reads, s.status = .pending call reads
  consulted : ∀ k table, .consulted ⟨i, k⟩ table ∈ marks →
    k < s.account.length ∨ k = s.past.length ∧ table = sh.store.table ∧ ∃ call, s.status = .pending call true
  returned : ∀ k result, .returned ⟨i, k⟩ result ∈ marks → s.past[k]? = some result

/-- The call has begun and has not returned. -/
def UnderWay (marks : List Mark) (id : CallId) : Prop :=
  (∃ call, .began id call ∈ marks) ∧ ∀ result, .returned id result ∉ marks

theorem Told.start (programs : Nat → Program) (sh : Shared) (i : Nat) : Told programs [] sh i ⟨[], .idle⟩ where
  asked _ _ h := by cases h
  began _ _ h := absurd h List.not_mem_nil
  consulted _ _ h := absurd h List.not_mem_nil
  returned _ _ h := absurd h List.not_mem_nil

/-- The thread that a mark tells about. What is settled shows only in what the thread has come to. -/
def Mark.about? : Mark → Option Nat
  | .began id _ | .consulted id _ | .returned id _ => some id.thread
  | .settled _ | .moved => none

theorem mem_of_about? {x : Mark} (h : x ∈ marks ++ [mark]) (hx : x.about? = some i) (hmark : mark.about? ≠ some i) :
    x ∈ marks := by
  rcases List.mem_append.mp h with hold | hnew
  · exact hold
  · obtain rfl := List.mem_singleton.mp hnew
    exact absurd hx hmark

theorem mem_of_ne {x : Mark} (h : x ∈ marks ++ [mark]) (hne : x ≠ mark) : x ∈ marks := by
  rcases List.mem_append.mp h with hold | hnew
  · exact hold
  · exact absurd (List.mem_singleton.mp hnew) hne

namespace Told

variable {past : List Result} {call : Call} {reads reads' : Bool} {result : Result}

/-- What tells nothing about the thread leaves it so, unless it takes a table away that the thread reads. -/
theorem frame (h : Told programs marks sh i s) (hmark : mark.about? ≠ some i) (hhandles : sh.handles ≤ sh'.handles)
    (hstore : ∀ call, s.status = .pending call true → sh'.store = sh.store) :
    Told programs (marks ++ [mark]) sh' i s where
  asked call reads hs := by
    obtain ⟨⟨handle, hlt, hasked⟩, hbegan⟩ := h.asked call reads hs
    exact ⟨⟨handle, Nat.lt_of_lt_of_le hlt hhandles, hasked⟩, List.mem_append_left _ hbegan⟩
  began k call hk := h.began k call (mem_of_about? hk rfl hmark)
  consulted k table hk := by
    rcases h.consulted k table (mem_of_about? hk rfl hmark) with hlt | ⟨hindex, htable, call, hs⟩
    · exact .inl hlt
    · exact .inr ⟨hindex, by rw [hstore call hs, htable], call, hs⟩
  returned k result hk := h.returned k result (mem_of_about? hk rfl hmark)

theorem begin {handle : Nat} (h : Told programs marks sh i ⟨past, .idle⟩) (hasked : programs i past = some (handle, call))
    (hhandle : handle < sh.handles) :
    Told programs (marks ++ [.began ⟨i, past.length⟩ call]) sh i ⟨past, .pending call false⟩ where
  asked call' reads hpending := by
    cases hpending
    exact ⟨⟨handle, hhandle, hasked⟩, List.mem_append_right _ (List.mem_singleton_self _)⟩
  began k call' hk := by
    rcases List.mem_append.mp hk with hold | hnew
    · rcases h.began k call' hold with hlt | ⟨-, _, _, hidle⟩
      · exact .inl hlt
      · cases hidle
    · cases List.mem_singleton.mp hnew
      exact .inr ⟨rfl, call, false, rfl⟩
  consulted k table hk := by
    rcases h.consulted k table (mem_of_ne hk nofun) with hlt | ⟨-, -, _, hidle⟩
    · exact .inl hlt
    · cases hidle
  returned k result hk := h.returned k result (mem_of_ne hk nofun)

theorem work (h : Told programs marks sh i ⟨past, .pending call reads⟩) (hreads : reads = true → reads' = true) :
    Told programs marks sh i ⟨past, .pending call reads'⟩ where
  asked call' _ hpending := by
    cases hpending
    exact h.asked call reads rfl
  began k call' hk := by
    rcases h.began k call' hk with hlt | ⟨hindex, -⟩
    · exact .inl hlt
    · exact .inr ⟨hindex, call, reads', rfl⟩
  consulted k table hk := by
    rcases h.consulted k table hk with hlt | ⟨hindex, htable, call', hpending⟩
    · exact .inl hlt
    · cases hpending
      exact .inr ⟨hindex, htable, call, by rw [hreads rfl]⟩
  returned := h.returned

theorem consult (h : Told programs marks sh i ⟨past, .pending call true⟩) :
    Told programs (marks ++ [.consulted ⟨i, past.length⟩ sh.store.table]) sh i ⟨past, .pending call true⟩ where
  asked call' reads hpending := by
    obtain ⟨hasked, hbegan⟩ := h.asked call' reads hpending
    exact ⟨hasked, List.mem_append_left _ hbegan⟩
  began k call' hk := h.began k call' (mem_of_ne hk nofun)
  consulted k table hk := by
    rcases List.mem_append.mp hk with hold | hnew
    · exact h.consulted k table hold
    · cases List.mem_singleton.mp hnew
      exact .inr ⟨rfl, rfl, call, rfl⟩
  returned k result hk := h.returned k result (mem_of_ne hk nofun)

theorem settle (h : Told programs marks sh i ⟨past, .pending call reads⟩) (result : Result) :
    Told programs marks sh i ⟨past, .settled result⟩ := by
  -- The account grows, so the number of the pending call is now one of those in it.
  have hlength : (Standing.account ⟨past, .settled result⟩).length = past.length + 1 := List.length_append
  refine ⟨nofun, fun k call' hk => ?_, fun k table hk => ?_, h.returned⟩
  · rcases h.began k call' hk with hlt | ⟨hindex, -⟩
    · exact .inl (hlength ▸ Nat.lt_succ_of_lt hlt)
    · exact .inl (hlength ▸ hindex ▸ Nat.lt_succ_self k)
  · rcases h.consulted k table hk with hlt | ⟨hindex, -⟩
    · exact .inl (hlength ▸ Nat.lt_succ_of_lt hlt)
    · exact .inl (hlength ▸ hindex ▸ Nat.lt_succ_self k)

theorem finish (h : Told programs marks sh i ⟨past, .settled result⟩) :
    Told programs (marks ++ [.returned ⟨i, past.length⟩ result]) sh i ⟨past ++ [result], .idle⟩ where
  asked _ _ hpending := by cases hpending
  began k call' hk := by
    rcases h.began k call' (mem_of_ne hk nofun) with hlt | ⟨-, _, _, hsettled⟩
    · exact .inl hlt
    · cases hsettled
  consulted k table hk := by
    rcases h.consulted k table (mem_of_ne hk nofun) with hlt | ⟨-, -, _, hsettled⟩
    · exact .inl hlt
    · cases hsettled
  returned k result' hk := by
    rcases List.mem_append.mp hk with hold | hnew
    · have hlt : k < past.length := (List.getElem?_eq_some_iff.mp (h.returned k result' hold)).1
      exact (List.getElem?_append_left hlt).trans (h.returned k result' hold)
    · cases List.mem_singleton.mp hnew
      exact List.getElem?_concat_length

theorem underWay (h : Told programs marks sh i ⟨past, .pending call reads⟩) : UnderWay marks ⟨i, past.length⟩ := by
  refine ⟨⟨call, (h.asked call reads rfl).2⟩, fun result hresult => ?_⟩
  have hlt := (List.getElem?_eq_some_iff.mp (h.returned past.length result hresult)).1
  exact Nat.lt_irrefl _ hlt

end Told

/-! ## What a move leaves as it is -/

theorem Move.about? (h : Move programs m v i mark v') (hj : j ≠ i) : mark.about? ≠ some j := by
  cases h with
  | work | leave | settle => nofun
  | begin | consult | finish => simpa [Mark.about?] using Ne.symm hj

theorem Move.handles (hmove : Move programs m v i mark v') : v.shared.handles ≤ v'.shared.handles := by
  cases hmove with
  | begin | work | consult | leave | finish => exact Nat.le_refl _
  | @settle past call reads result trace sh hs hperform hstore =>
      have hgrows := handles_perform v.shared m call
      rw [hperform] at hgrows
      exact hgrows

/-- The table stays while another thread reads it. -/
theorem Move.store (hmove : Move programs m v i mark v') (hj : j ≠ i) {call : Call}
    (hreads : (v.standing j).status = .pending call true) : v'.shared.store = v.shared.store := by
  cases hmove with
  | begin | work | consult | leave | finish => rfl
  | settle hs hperform hstore =>
      exact hstore j (v.standing j).past call hj (by rw [← hreads])

theorem Move.standing_of_ne (hmove : Move programs m v i mark v') (hj : j ≠ i) : v'.standing j = v.standing j := by
  cases hmove with
  | begin | work | consult | settle | leave | finish => exact View.set_of_ne hj _ _

theorem Move.quiet (hmove : Move programs m v i mark v') (hmark : ∀ e, mark ≠ .settled e) :
    v'.shared = v.shared ∧ ∀ j, (v'.standing j).account = (v.standing j).account := by
  have hsame : v'.shared = v.shared ∧ (v'.standing i).account = (v.standing i).account := by
    cases hmove with
    | settle => exact absurd rfl (hmark _)
    | begin hs | work hs | consult hs | leave hs | finish hs =>
        rw [hs, View.set_self]
        exact ⟨rfl, rfl⟩
  refine ⟨hsame.1, fun j => ?_⟩
  by_cases hj : j = i
  · subst hj
    exact hsame.2
  · rw [hmove.standing_of_ne hj]

theorem Move.told_self (hmove : Move programs m v i mark v') (h : Told programs marks v.shared i (v.standing i)) :
    Told programs (marks ++ [mark]) v'.shared i (v'.standing i) := by
  have hhandles := hmove.handles
  cases hmove with
  | begin hs hasked hhandle =>
      rw [hs] at h
      rw [View.set_self]
      exact h.begin hasked hhandle
  | work hs hreads =>
      rw [hs] at h
      rw [View.set_self]
      exact (h.work hreads).frame nofun hhandles fun _ _ => rfl
  | consult hs =>
      rw [hs] at h
      rw [View.set_self]
      exact h.consult
  | settle hs _ _ =>
      rw [hs] at h
      rw [View.set_self]
      exact (h.settle _).frame nofun hhandles nofun
  | leave hs =>
      rw [hs] at h
      rw [View.set_self]
      exact h.frame nofun hhandles nofun
  | finish hs =>
      rw [hs] at h
      rw [View.set_self]
      exact h.finish

theorem Move.told (hmove : Move programs m v i mark v') (h : ∀ j, Told programs marks v.shared j (v.standing j)) (j : Nat) :
    Told programs (marks ++ [mark]) v'.shared j (v'.standing j) := by
  by_cases hj : j = i
  · subst hj
    exact hmove.told_self (h j)
  · rw [hmove.standing_of_ne hj]
    exact (h j).frame (hmove.about? hj) hmove.handles fun call hreads => hmove.store hj hreads

end Shared

end Permit
