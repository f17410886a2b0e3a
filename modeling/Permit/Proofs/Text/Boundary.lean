import Permit.Text.Cut

/-!
# Boundaries of characters

A text can be cut at an offset exactly if a character begins or the text ends there. A slice between two such offsets is
the text between them; any other slice severs a character, and the report on it names the character that is severed.
-/

namespace Permit.Text

/-! ## Offsets -/

/-- The length of a text in bytes. -/
def size : List Char → Nat
  | [] => 0
  | c :: cs => c.utf8Size + size cs

@[simp] theorem size_nil : size [] = 0 := rfl

@[simp] theorem size_cons (c : Char) (cs : List Char) : size (c :: cs) = c.utf8Size + size cs := rfl

@[simp] theorem size_append (as bs : List Char) : size (as ++ bs) = size as + size bs := by
  induction as with
  | nil => simp
  | cons a as ih => simp [ih, Nat.add_assoc]

theorem eq_nil_of_size {cs : List Char} (h : size cs = 0) : cs = [] := by
  cases cs with
  | nil => rfl
  | cons c cs =>
      have hc := c.utf8Size_pos
      rw [size_cons] at h
      omega

/-- The offset of the start of a character, or of the end of the text. -/
def Boundary (text : List Char) (offset : Nat) : Prop :=
  ∃ before after, text = before ++ after ∧ size before = offset

variable {text : List Char} {offset : Nat}

theorem boundary_append (before after : List Char) : Boundary (before ++ after) (size before) :=
  ⟨before, after, rfl, rfl⟩

theorem boundary_zero (text : List Char) : Boundary text 0 := ⟨[], text, rfl, rfl⟩

theorem boundary_size (text : List Char) : Boundary text (size text) := ⟨text, [], (List.append_nil text).symm, rfl⟩

theorem Boundary.append (h : Boundary text offset) (more : List Char) : Boundary (text ++ more) offset := by
  obtain ⟨before, after, rfl, rfl⟩ := h
  exact ⟨before, after ++ more, List.append_assoc before after more, rfl⟩

theorem Boundary.le_size (h : Boundary text offset) : offset ≤ size text := by
  obtain ⟨before, after, rfl, rfl⟩ := h
  simp

/-- Where every character takes one byte, no offset falls inside one. -/
theorem boundary_of_single (h : ∀ c ∈ text, c.utf8Size = 1) (hoffset : offset ≤ size text) : Boundary text offset := by
  induction text generalizing offset with
  | nil =>
      obtain rfl : offset = 0 := by simpa using hoffset
      exact boundary_zero []
  | cons c cs ih =>
      cases offset with
      | zero => exact boundary_zero (c :: cs)
      | succ offset =>
          have hc : c.utf8Size = 1 := h c List.mem_cons_self
          rw [size_cons, hc] at hoffset
          have hcs : ∀ d ∈ cs, d.utf8Size = 1 := fun d hd => h d (List.mem_cons_of_mem c hd)
          obtain ⟨before, after, rfl, rfl⟩ := ih hcs (by omega : offset ≤ size cs)
          exact ⟨c :: before, after, rfl, by rw [size_cons, hc, Nat.add_comm]⟩

/-- A character of the text begins before the offset and ends after it. -/
def Inside (text : List Char) (offset first : Nat) (c : Char) : Prop :=
  ∃ before after, text = before ++ c :: after ∧ size before = first ∧ first < offset ∧ offset < first + c.utf8Size

theorem Inside.not_boundary {first : Nat} {c : Char} (h : Inside text offset first c) : ¬ Boundary text offset := by
  obtain ⟨before, after, rfl, rfl, hfirst, hlast⟩ := h
  rintro ⟨before', after', htext, rfl⟩
  rcases List.append_eq_append_iff.mp htext with ⟨more, rfl, hafter⟩ | ⟨more, rfl, hafter⟩
  · cases more with
    | nil => simp at hfirst
    | cons d more =>
        obtain ⟨rfl, -⟩ := List.cons.inj hafter
        rw [size_append, size_cons] at hlast
        omega
  · rw [size_append] at hfirst
    omega

/-! ## Cuts -/

/-- What a cut comes to at an offset that does not lie beyond the text. -/
inductive Came (text : List Char) (offset : Nat) : Cut → Prop where
  | between {before after} (h : text = before ++ after) (hsize : size before = offset) :
      Came text offset (.between before after)
  | inside {first c} (h : Inside text offset first c) : Came text offset (.inside first c)

theorem cutFrom_came (passed : List Char) {rest : List Char} (hlow : size passed.reverse ≤ offset)
    (hhigh : offset ≤ size (passed.reverse ++ rest)) :
    Came (passed.reverse ++ rest) offset (cutFrom passed (size passed.reverse) offset rest) := by
  induction rest generalizing passed with
  | nil =>
      rw [List.append_nil] at hhigh
      exact .between rfl (Nat.le_antisymm hlow hhigh)
  | cons c rest ih =>
      simp only [cutFrom]
      split
      · exact .between rfl (Nat.le_antisymm hlow ‹_›)
      · split
        · exact .inside ⟨passed.reverse, rest, rfl, rfl, by omega, ‹_›⟩
        · have hpassed : passed.reverse ++ c :: rest = (c :: passed).reverse ++ rest := by simp
          have hsize : size passed.reverse + c.utf8Size = size (c :: passed).reverse := by simp
          rw [hpassed] at hhigh ⊢
          rw [hsize]
          exact ih (c :: passed) (by omega) hhigh

theorem cutAt_came (h : offset ≤ size text) : Came text offset (cutAt offset text) :=
  cutFrom_came [] (Nat.zero_le offset) h

theorem append_inj_of_size {before after before' after' : List Char} (h : before ++ after = before' ++ after')
    (hsize : size before = size before') : before = before' ∧ after = after' := by
  rcases List.append_eq_append_iff.mp h with ⟨more, rfl, rfl⟩ | ⟨more, rfl, rfl⟩
  · obtain rfl : more = [] := eq_nil_of_size (by simpa using hsize)
    simp
  · obtain rfl : more = [] := eq_nil_of_size (by simpa using hsize)
    simp

theorem cutAt_append (before after : List Char) : cutAt (size before) (before ++ after) = .between before after := by
  have hcame : Came (before ++ after) (size before) (cutAt (size before) (before ++ after)) :=
    cutAt_came (by simp)
  generalize cutAt (size before) (before ++ after) = cut at hcame
  cases hcame with
  | between h hsize =>
      obtain ⟨rfl, rfl⟩ := append_inj_of_size h hsize.symm
      rfl
  | inside h => exact absurd (boundary_append before after) h.not_boundary

/-! ## Slices -/

/-- The report is true: the text has the character there, and the offset falls inside it. -/
def Severed.Real (cut : Severed) : Prop := Inside cut.text cut.offset cut.first cut.char

variable {start stop : Nat}

/-- What a slice comes to when its offsets are in order and do not lie beyond the text. -/
inductive Sliced (text : List Char) (start stop : Nat) : Except Severed (List Char) → Prop where
  | part {before part after} (h : text = before ++ part ++ after) (hstart : size before = start)
      (hstop : size (before ++ part) = stop) : Sliced text start stop (.ok part)
  | severed {cut} (htext : cut.text = text) (hreal : cut.Real) (hoffset : cut.offset = start ∨ cut.offset = stop) :
      Sliced text start stop (.error cut)

theorem slice_append (before part after : List Char) :
    slice (before ++ part ++ after) (size before) (size (before ++ part)) = .ok part := by
  have hstart : cutAt (size before) (before ++ part ++ after) = .between before (part ++ after) := by
    rw [List.append_assoc]
    exact cutAt_append before (part ++ after)
  rw [slice, hstart, cutAt_append]
  simp

theorem sliced (hle : start ≤ stop) (hstop : stop ≤ size text) : Sliced text start stop (slice text start stop) := by
  have hcame := cutAt_came (Nat.le_trans hle hstop)
  have hcame' := cutAt_came hstop
  unfold slice
  generalize cutAt start text = cut, cutAt stop text = cut' at hcame hcame' ⊢
  cases hcame with
  | inside h => exact .severed rfl h (.inl rfl)
  | between h hsize =>
      cases hcame' with
      | inside h' => exact .severed rfl h' (.inr rfl)
      | @between before' after' h' hsize' =>
          -- The part up to the start is a prefix of the part up to the stop, as it is not longer.
          rename_i before after
          rcases List.append_eq_append_iff.mp (h.symm.trans h') with ⟨part, rfl, rfl⟩ | ⟨more, rfl, rfl⟩
          · simpa using Sliced.part h' hsize hsize'
          · have hmore : more = [] := by
              rw [size_append] at hsize
              exact eq_nil_of_size (by omega)
            subst hmore
            have hpart : text = before' ++ [] ++ ([] ++ after) := by simpa using h
            simpa using Sliced.part hpart (by simpa using hsize) (by simpa using hsize')

theorem Sliced.boundaries {part : List Char} (h : Sliced text start stop (.ok part)) :
    Boundary text start ∧ Boundary text stop := by
  cases h with
  | @part before _ after h hstart hstop =>
      subst h hstart hstop
      refine ⟨?_, boundary_append (before ++ part) after⟩
      rw [List.append_assoc]
      exact boundary_append before (part ++ after)

theorem Sliced.empty_iff {part : List Char} (h : Sliced text start stop (.ok part)) : part = [] ↔ start = stop := by
  cases h with
  | part h hstart hstop =>
      subst hstart hstop
      rw [size_append]
      constructor
      · rintro rfl
        rfl
      · intro h
        exact eq_nil_of_size (by omega)

theorem Sliced.severs {cut : Severed} (h : Sliced text start stop (.error cut)) :
    cut.text = text ∧ cut.Real ∧ ¬ (Boundary text start ∧ Boundary text stop) := by
  cases h with
  | severed htext hreal hoffset =>
      refine ⟨htext, hreal, fun hwhole => ?_⟩
      have hnot := Inside.not_boundary hreal
      rw [htext] at hnot
      rcases hoffset with hoffset | hoffset
      · exact hnot (hoffset ▸ hwhole.1)
      · exact hnot (hoffset ▸ hwhole.2)

/-- A slice between two boundaries stays the same whatever is written after the text. -/
theorem exists_slice (hle : start ≤ stop) (hstart : Boundary text start) (hstop : Boundary text stop) :
    ∃ part, (part = [] ↔ start = stop) ∧ ∀ more, slice (text ++ more) start stop = .ok part := by
  have hsliced := sliced hle hstop.le_size
  generalize slice text start stop = result at hsliced
  cases result with
  | error cut => exact absurd ⟨hstart, hstop⟩ hsliced.severs.2.2
  | ok part =>
      refine ⟨part, hsliced.empty_iff, fun more => ?_⟩
      cases hsliced with
      | @part before _ after h hbefore hwhole =>
          subst h hbefore hwhole
          simpa using slice_append before part (after ++ more)

theorem sliceFrom_eq_slice (h : start ≤ size text) : sliceFrom text start = slice text start (size text) := by
  have hcame := cutAt_came h
  have hend : cutAt (size text) text = .between text [] := by simpa using cutAt_append text []
  unfold sliceFrom slice
  rw [hend]
  generalize cutAt start text = cut at hcame
  cases hcame with
  | inside => rfl
  | between h => simp [h]

end Permit.Text
