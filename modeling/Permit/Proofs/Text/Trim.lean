import Permit.Text.Blank

/-!
# Text between white space

White space around a text is what trimming takes away, and nothing else.
-/

namespace Permit.Text

/-- Nothing but white space. -/
def Blank (cs : List Char) : Prop := ∀ c ∈ cs, isBlank c = true

variable {cs u w : List Char}

theorem Blank.append (hu : Blank u) (hw : Blank w) : Blank (u ++ w) := by
  intro c hc
  rcases List.mem_append.mp hc with hc | hc
  · exact hu c hc
  · exact hw c hc

theorem dropWhile_isBlank_append (hu : Blank u) (cs : List Char) : (u ++ cs).dropWhile isBlank = cs.dropWhile isBlank :=
  List.dropWhile_append_of_pos hu

theorem Blank.dropWhile (h : Blank cs) : cs.dropWhile isBlank = [] := by
  simpa using dropWhile_isBlank_append h []

theorem Blank.trim (h : Blank cs) : trim cs = [] := by
  rw [Text.trim, h.dropWhile]
  rfl

theorem Blank.reverse (h : Blank cs) : Blank cs.reverse := fun c hc => h c (List.mem_reverse.mp hc)

/-- Trimming takes away the white space before a text and after it. -/
theorem trim_padded (hu : Blank u) (cs : List Char) (hw : Blank w) : trim (u ++ cs ++ w) = trim cs := by
  rw [List.append_assoc, trim, trim, dropWhile_isBlank_append hu, List.dropWhile_append]
  split
  · rename_i hempty
    rw [List.isEmpty_iff] at hempty
    rw [hw.dropWhile, hempty]
  · rw [List.reverse_append, dropWhile_isBlank_append hw.reverse]

theorem blank_takeWhile (cs : List Char) : Blank (cs.takeWhile isBlank) :=
  List.all_eq_true.mp List.all_takeWhile

/-- All that trimming takes away is white space at the two ends. -/
theorem exists_trim (cs : List Char) : ∃ u w, Blank u ∧ Blank w ∧ cs = u ++ trim cs ++ w := by
  refine ⟨cs.takeWhile isBlank, ((cs.dropWhile isBlank).reverse.takeWhile isBlank).reverse, blank_takeWhile cs,
    (blank_takeWhile _).reverse, ?_⟩
  rw [List.append_assoc, trim, ← List.reverse_append, List.takeWhile_append_dropWhile, List.reverse_reverse,
    List.takeWhile_append_dropWhile]

/-- Text that does not begin with white space begins with what trimming leaves of it. -/
theorem exists_trim_of_head (h : ∀ c ∈ cs.head?, isBlank c = false) : ∃ w, Blank w ∧ cs = trim cs ++ w := by
  obtain ⟨u, w, hu, hw, hcs⟩ := exists_trim cs
  cases u with
  | nil => exact ⟨w, hw, hcs⟩
  | cons c u =>
      have hblank := hu c List.mem_cons_self
      rw [h c (by rw [hcs]; rfl)] at hblank
      cases hblank

theorem eq_nil_of_padded (h : u ++ cs ++ w = cs) : u = [] ∧ w = [] := by
  have hlength := congrArg List.length h
  simp only [List.length_append] at hlength
  exact ⟨List.length_eq_zero_iff.mp (by omega), List.length_eq_zero_iff.mp (by omega)⟩

/-- Text that is not empty and has no white space at its ends. -/
structure Bare (cs : List Char) : Prop where
  nonempty : cs ≠ []
  head : ∀ c ∈ cs.head?, isBlank c = false
  last : ∀ c ∈ cs.getLast?, isBlank c = false

theorem allBlank_iff {s : String} : allBlank s = true ↔ Blank s.toList := by
  rw [allBlank, List.isEmpty_iff]
  constructor
  · intro h
    obtain ⟨u, w, hu, hw, hcs⟩ := exists_trim s.toList
    rw [hcs, h, List.append_nil]
    exact hu.append hw
  · exact Blank.trim

/-- White space stands below the signs and letters of ASCII, or above all of it. -/
theorem toNat_of_isBlank {c : Char} (h : isBlank c = true) : c.toNat ≤ 32 ∨ 128 ≤ c.toNat := by
  simp only [isBlank, blankRanges, inRanges] at h
  grind

end Permit.Text
