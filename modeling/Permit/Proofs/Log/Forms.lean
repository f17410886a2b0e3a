import Permit.Proofs.Log.Scan
import Permit.Proofs.Text.Trim

/-!
# The forms of a directive

Without the white space at its ends, a directive is a name and nothing else, or has a level after an equals sign, or ends
with a closing bracket; anything else is malformed. Where the scan ends tells which. A directive is read to what its form
allows if every part that is cut out of its text is whole, and otherwise a character of the text is severed.
-/

namespace Permit.Log.Directive

open Text (size Boundary Blank trim isBlank)

/-- Where the scan of a text ends, if it gets to the end. -/
def ending (text : List Char) : Option ScanState := ScanState.start.after 0 (trim text)

/-- The ends of all parts that are cut out of a text: what the scan cuts out, and all that follows an equals sign. -/
def cuts (text : List Char) : List (Nat × Nat) :=
  ScanState.start.parts 0 (trim text) ++
    match ending text with
    | some (.level first) => [(first, size text)]
    | _ => []

inductive Form where
  | name
  | level
  | bracket
  | malformed
deriving DecidableEq, Repr

def form (text : List Char) : Form :=
  match ending text with
  | some .levelOrTarget => .name
  | some (.level _) => .level
  | some .target => .bracket
  | some .start | some (.span _) | some (.field _) | some .fields | none => .malformed

variable {text : List Char} {part : Nat × Nat} {first : Nat}

theorem begun_start : ScanState.start.Begun [] := trivial

theorem size_trim_le (text : List Char) : size (trim text) ≤ size text := by
  obtain ⟨u, w, -, -, htext⟩ := Text.exists_trim text
  have hsize := congrArg size htext
  simp only [Text.size_append] at hsize
  omega

theorem mem_cuts : part ∈ cuts text ↔ part ∈ ScanState.start.parts 0 (trim text) ∨
    ∃ first, ending text = some (.level first) ∧ part = (first, size text) := by
  rw [cuts, List.mem_append]
  cases ending text with
  | none => simp
  | some state => cases state <;> simp

/-- The level of a text stands right after an equals sign. -/
theorem equals_of_ending (h : ending text = some (.level first)) :
    ∃ before after, trim text = before ++ '=' :: after ∧ first = size before + 1 :=
  begun_start.after h

theorem boundary_of_ending (h : ending text = some (.level first)) : Boundary (trim text) first := by
  obtain ⟨before, after, htrim, rfl⟩ := equals_of_ending h
  rw [htrim]
  exact ⟨before ++ ['='], after, by simp, by simp; rfl⟩

theorem le_size_of_ending (h : ending text = some (.level first)) : first ≤ size text :=
  Nat.le_trans (boundary_of_ending h).le_size (size_trim_le text)

/-- The parts lie in the text, and their ends in order. -/
theorem cuts_ordered (h : part ∈ cuts text) : part.1 ≤ part.2 ∧ part.2 ≤ size text := by
  rcases mem_cuts.mp h with hscan | ⟨first, hending, rfl⟩
  · obtain ⟨hle, -, hstop⟩ := begun_start.parts hscan
    exact ⟨hle, Nat.le_trans hstop.le_size (size_trim_le text)⟩
  · exact ⟨le_size_of_ending hending, Nat.le_refl (size text)⟩

/-- What reading a directive comes to. -/
inductive Came (text : List Char) : Reading Directive → Prop where
  | accepted {d} (hwhole : ∀ part ∈ cuts text, Whole text part) (hform : form text ≠ .malformed) :
      Came text (.accepted d)
  | malformed (hwhole : ∀ part ∈ cuts text, Whole text part) (hform : form text = .malformed) :
      Came text (.rejected .malformed)
  | badLevel (hwhole : ∀ part ∈ cuts text, Whole text part) (hform : form text = .level) :
      Came text (.rejected .badLevel)
  | severed {cut part} (htext : cut.text = text) (hreal : cut.Real) (hpart : part ∈ cuts text)
      (hnot : ¬ Whole text part) : Came text (.severed cut)

theorem came_finish {state : ScanState} (hparts : ∀ part ∈ ScanState.start.parts 0 (trim text), Whole text part)
    (hending : ending text = some state) (d : Directive) : Came text (finish text d state) := by
  have hwhole : (∀ first, state ≠ .level first) → ∀ part ∈ cuts text, Whole text part := by
    intro hno part hpart
    rcases mem_cuts.mp hpart with hscan | ⟨first, hlevel, -⟩
    · exact hparts part hscan
    · exact absurd (Option.some.inj (hending.symm.trans hlevel)) (hno first)
  cases state with
  | start | span | field | fields => exact .malformed (hwhole (by simp)) (by simp [form, hending])
  | target => exact .accepted (hwhole (by simp)) (by simp [form, hending])
  | levelOrTarget =>
      have hform : form text ≠ .malformed := by simp [form, hending]
      rw [finish]
      cases Threshold.read? (String.ofList text) with
      | some threshold => exact .accepted (hwhole (by simp)) hform
      | none => exact .accepted (hwhole (by simp)) hform
  | level first =>
      have hform : form text = .level := by simp [form, hending]
      have hfirst : first ≤ size text := le_size_of_ending hending
      have hsliced := Text.sliced hfirst (Nat.le_refl (size text))
      rw [finish, Text.sliceFrom_eq_slice hfirst]
      generalize Text.slice text first (size text) = result at hsliced ⊢
      cases result with
      | error cut =>
          obtain ⟨htext, hreal, hnot⟩ := hsliced.severs
          exact .severed htext hreal (mem_cuts.mpr (.inr ⟨first, hending, rfl⟩)) hnot
      | ok level =>
          have hlevel : ∀ part ∈ cuts text, Whole text part := by
            intro part hpart
            rcases mem_cuts.mp hpart with hscan | ⟨first', hsame, rfl⟩
            · exact hparts part hscan
            · cases hending.symm.trans hsame
              exact hsliced.boundaries
          simp only [Reading.ofSlice, Reading.accepted_bind]
          split
          · exact .accepted hlevel (by simp [hform])
          · split
            · exact .accepted hlevel (by simp [hform])
            · exact .badLevel hlevel hform

theorem came (text : List Char) : Came text (read text) := by
  have hscanned : Scanned text .start 0 (trim text) (scan text whole .start 0 (trim text)) :=
    scanned begun_start (size_trim_le text) whole
  unfold read
  generalize scan text whole .start 0 (trim text) = result at hscanned ⊢
  cases hscanned with
  | ended hparts hafter => exact came_finish hparts hafter _
  | refused hparts hafter =>
      refine .malformed (fun part hpart => ?_) (by simp [form, ending, hafter])
      rcases mem_cuts.mp hpart with hscan | ⟨first, hlevel, -⟩
      · exact hparts part hscan
      · cases hafter.symm.trans hlevel
  | severed htext hreal hpart hnot => exact .severed htext hreal (mem_cuts.mpr (.inl hpart)) hnot

/-- A character is severed exactly if some part is not whole. -/
theorem severed_iff : (∃ cut, read text = .severed cut) ↔ ∃ part ∈ cuts text, ¬ Whole text part := by
  have hcame := came text
  generalize read text = result at hcame ⊢
  cases hcame with
  | accepted hwhole | malformed hwhole | badLevel hwhole => simpa using hwhole
  | severed htext hreal hpart hnot => exact ⟨fun _ => ⟨_, hpart, hnot⟩, fun _ => ⟨_, rfl⟩⟩

theorem severed_real {cut : Text.Severed} (h : read text = .severed cut) : cut.text = text ∧ cut.Real := by
  have hcame := came text
  rw [h] at hcame
  cases hcame with
  | severed htext hreal => exact ⟨htext, hreal⟩

/-- All that follows an equals sign must be a level, if it is anything at all. -/
theorem level_of_accepted {d : Directive} (h : read text = .accepted d) (hending : ending text = some (.level first)) :
    ∃ before level, text = before ++ level ∧ size before = first ∧
      (level = [] ∨ Threshold.read? (String.ofList level) ≠ none) := by
  have hscanned : Scanned text .start 0 (trim text) (scan text whole .start 0 (trim text)) :=
    scanned begun_start (size_trim_le text) whole
  unfold read at h
  generalize scan text whole .start 0 (trim text) = result at h hscanned
  cases hscanned with
  | refused | severed => cases h
  | ended _ hafter =>
      cases hending.symm.trans hafter
      have hfirst : first ≤ size text := le_size_of_ending hending
      have hsliced := Text.sliced hfirst (Nat.le_refl (size text))
      simp only [Reading.accepted_bind, finish, Text.sliceFrom_eq_slice hfirst] at h
      generalize Text.slice text first (size text) = slice at h hsliced
      cases hsliced with
      | severed => cases h
      | @part before level after htext hbefore hlevel =>
          have hafter : after = [] := by
            have hsize := congrArg size htext
            rw [Text.size_append, hlevel] at hsize
            exact Text.eq_nil_of_size (by omega)
          subst hafter
          refine ⟨before, level, by simpa using htext, hbefore, ?_⟩
          by_cases hempty : level = []
          · exact .inl hempty
          · refine .inr fun hnone => ?_
            simp [Reading.ofSlice, hempty, hnone] at h

/-- Where no white space stands in front, every part is whole: the scan and the text count from the same character. -/
theorem whole_of_head (h : ∀ c ∈ text.head?, isBlank c = false) (hpart : part ∈ cuts text) : Whole text part := by
  obtain ⟨w, -, htext⟩ := Text.exists_trim_of_head h
  have happend : ∀ {offset}, Boundary (trim text) offset → Boundary text offset := by
    intro offset hoffset
    rw [htext]
    exact hoffset.append w
  rcases mem_cuts.mp hpart with hscan | ⟨first, hending, rfl⟩
  · obtain ⟨-, hstart, hstop⟩ := begun_start.parts hscan
    exact ⟨happend hstart, happend hstop⟩
  · exact ⟨happend (boundary_of_ending hending), Text.boundary_size text⟩

theorem whole_of_single (h : ∀ c ∈ text, c.utf8Size = 1) (hpart : part ∈ cuts text) : Whole text part := by
  obtain ⟨hle, hstop⟩ := cuts_ordered hpart
  exact ⟨Text.boundary_of_single h (Nat.le_trans hle hstop), Text.boundary_of_single h hstop⟩

end Permit.Log.Directive
