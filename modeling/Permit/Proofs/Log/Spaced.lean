import Permit.Proofs.Log.Forms

/-!
# Directives with white space around them

White space around a directive does not change its form, but it can change what the directive says. After a closing
bracket it says nothing; around a name it becomes a part of the name, and the name is that of a target; around a directive
with a level, the level cannot be read.
-/

namespace Permit.Log

open Text (size Blank trim isBlank)

/-! ## Thresholds have no white space -/

theorem isAlphanum_iff {c : Char} :
    c.isAlphanum = true ↔ (c.isUpper = true ∨ c.isLower = true) ∨ c.isDigit = true := by
  change ((c.isUpper || c.isLower) || c.isDigit) = true ↔ _
  rw [Bool.or_eq_true, Bool.or_eq_true]

theorem isAlphanum_of_toLower {c : Char} (h : c.toLower.isAlphanum = true) : c.isAlphanum = true := by
  unfold Char.toLower at h
  split at h
  case isTrue hupper => exact isAlphanum_iff.mpr (.inl (.inl (decide_eq_true hupper)))
  case isFalse => exact h

theorem not_isAlphanum_of_isBlank {c : Char} (h : isBlank c = true) : c.isAlphanum = false ∧ c ≠ '+' := by
  have hrange : c.val.toNat ≤ 32 ∨ 128 ≤ c.val.toNat := Text.toNat_of_isBlank h
  have hbetween : ∀ low high : Char, 32 < low.val.toNat → high.val.toNat < 128 →
      ¬ (low.val ≤ c.val ∧ c.val ≤ high.val) := by
    intro low high hlow hhigh hc
    rw [UInt32.le_iff_toNat_le, UInt32.le_iff_toNat_le] at hc
    omega
  constructor
  · rw [Bool.eq_false_iff, Ne, isAlphanum_iff]
    rintro ((hc | hc) | hc)
    · exact hbetween 'A' 'Z' (by decide) (by decide) (of_decide_eq_true hc)
    · obtain ⟨hlow, hhigh⟩ := Bool.and_eq_true_iff.mp hc
      exact hbetween 'a' 'z' (by decide) (by decide) ⟨of_decide_eq_true hlow, of_decide_eq_true hhigh⟩
    · obtain ⟨hlow, hhigh⟩ := Bool.and_eq_true_iff.mp hc
      exact hbetween '0' '9' (by decide) (by decide) ⟨of_decide_eq_true hlow, of_decide_eq_true hhigh⟩
  · rintro rfl
    simp at hrange

namespace Threshold

theorem name_isAlphanum (t : Threshold) : t.name.toList.all Char.isAlphanum = true := by
  cases t with
  | off => rfl
  | upTo level => cases level <;> rfl

variable {c : Char}

theorem number?_eq_none {cs : List Char} (hc : c ∈ cs) (hdigit : c.isDigit = false) (hplus : c ≠ '+') :
    number? cs = none := by
  have hall : ∀ digits : List Char, c ∈ digits → digits.all Char.isDigit = false := by
    intro digits hmem
    rw [List.all_eq_false]
    exact ⟨c, hmem, by simp [hdigit]⟩
  unfold number?
  split
  case h_1 rest =>
    have hrest : c ∈ rest := by simpa [hplus] using hc
    simp [hall rest hrest]
  case h_2 => simp [hall cs hc]

/-- A threshold is written with letters and digits, or a plus. -/
theorem read?_eq_none {text : String} (hc : c ∈ text.toList) (h : c.isAlphanum = false) (hplus : c ≠ '+') :
    read? text = none := by
  have hdigit : c.isDigit = false := by
    rw [Bool.eq_false_iff] at h ⊢
    exact fun hdigit => h (isAlphanum_iff.mpr (.inr hdigit))
  have hempty : text.isEmpty = false := by
    rw [Bool.eq_false_iff]
    intro hempty
    rw [String.isEmpty_iff] at hempty
    subst hempty
    simp at hc
  have hname : ladder.find? (fun t => t.name.toList = text.toList.map Char.toLower) = none := by
    simp only [List.find?_eq_none, decide_eq_true_eq]
    intro t _ hname
    have hmem : c.toLower ∈ t.name.toList := hname ▸ List.mem_map_of_mem hc
    have halphanum := isAlphanum_of_toLower (List.all_eq_true.mp t.name_isAlphanum _ hmem)
    rw [h] at halphanum
    cases halphanum
  simp only [read?, number?_eq_none hc hdigit hplus, Option.bind_none, hempty, hname, Bool.false_eq_true, if_false]

end Threshold

namespace Directive

/-- The second text is the first with white space around it. -/
def Spaced (a b : List Char) : Prop := ∃ u w, Blank u ∧ Blank w ∧ b = u ++ a ++ w

variable {a b w : List Char}

theorem Spaced.trim_eq (h : Spaced a b) : trim b = trim a := by
  obtain ⟨u, w, hu, hw, rfl⟩ := h
  exact Text.trim_padded hu a hw

theorem Spaced.ending_eq (h : Spaced a b) : ending b = ending a := by
  rw [ending, ending, h.trim_eq]

theorem Spaced.form_eq (h : Spaced a b) : form b = form a := by
  rw [form, form, h.ending_eq]

theorem Spaced.ne_nil (h : Spaced a b) (ha : a ≠ []) : b ≠ [] := by
  obtain ⟨u, w, -, -, rfl⟩ := h
  simp [ha]

theorem Spaced.exists_blank (h : Spaced a b) (hne : b ≠ a) : ∃ c ∈ b, isBlank c = true := by
  obtain ⟨u, w, hu, hw, rfl⟩ := h
  cases u with
  | cons c u => exact ⟨c, by simp, hu c List.mem_cons_self⟩
  | nil =>
      cases w with
      | cons c w => exact ⟨c, by simp, hw c List.mem_cons_self⟩
      | nil => simp at hne

theorem Spaced.trim_ne (h : Spaced a b) (hne : b ≠ a) : trim b ≠ b := by
  intro htrim
  obtain ⟨u', w', -, -, ha⟩ := Text.exists_trim a
  rw [← h.trim_eq, htrim] at ha
  obtain ⟨u, w, -, -, hb⟩ := h
  have hall : (u ++ u') ++ b ++ (w' ++ w) = b :=
    calc (u ++ u') ++ b ++ (w' ++ w) = u ++ (u' ++ b ++ w') ++ w := by simp
      _ = u ++ a ++ w := by rw [← ha]
      _ = b := hb.symm
  obtain ⟨hu, hw⟩ := Text.eq_nil_of_padded hall
  rw [(List.append_eq_nil_iff.mp hu).1, (List.append_eq_nil_iff.mp hw).2] at hb
  exact hne (by simpa using hb)

/-! ## Names -/

theorem ending_of_name (h : form a = .name) : ending a = some .levelOrTarget := by
  unfold form at h
  split at h
  · assumption
  all_goals cases h

theorem read_of_name (h : form a = .name) : read a = finish a whole .levelOrTarget := by
  rw [read, scan_name (ending_of_name h), Reading.accepted_bind]

/-- A name with white space around it is that of a target. -/
theorem Spaced.read_name (h : Spaced a b) (hne : b ≠ a) (hform : form a = .name) :
    read b = .accepted { whole with target := some (String.ofList b) } := by
  obtain ⟨c, hc, hblank⟩ := h.exists_blank hne
  obtain ⟨halphanum, hplus⟩ := not_isAlphanum_of_isBlank hblank
  have hnone : Threshold.read? (String.ofList b) = none :=
    Threshold.read?_eq_none (by simpa using hc) halphanum hplus
  rw [read_of_name (h.form_eq.trans hform), finish, hnone]

theorem read_name_ne (hform : form a = .name) (hne : b ≠ a) :
    read a ≠ .accepted { whole with target := some (String.ofList b) } := by
  rw [read_of_name hform, finish]
  cases Threshold.read? (String.ofList a) with
  | some threshold => simp [whole]
  | none =>
      intro h
      simp only [Reading.accepted.injEq, Directive.mk.injEq, Option.some.injEq, String.ofList_inj] at h
      exact hne h.1.symm

/-! ## Levels -/

/-- What follows the place of the equals sign in a text with white space around it has white space or the sign itself. -/
theorem exists_not_alphanum {u x y w before level : List Char} (hu : Blank u) (hw : Blank w) (hne : u ++ w ≠ [])
    (h : before ++ level = u ++ (x ++ '=' :: y) ++ w) (hsize : size before = size x + 1) :
    ∃ c ∈ level, c.isAlphanum = false ∧ c ≠ '+' := by
  have hequals : '=' ∈ level → ∃ c ∈ level, c.isAlphanum = false ∧ c ≠ '+' :=
    fun hmem => ⟨'=', hmem, by decide, by decide⟩
  cases u with
  | nil =>
      have heq : before ++ level = (x ++ ['=']) ++ (y ++ w) := by simpa using h
      obtain ⟨-, rfl⟩ := Text.append_inj_of_size heq (by rw [hsize, Text.size_append]; rfl)
      obtain ⟨c, w, rfl⟩ := List.exists_cons_of_ne_nil hne
      exact ⟨c, by simp, not_isAlphanum_of_isBlank (hw c List.mem_cons_self)⟩
  | cons c u =>
      have heq : before ++ level = (c :: u ++ x) ++ ('=' :: y ++ w) := by simpa using h
      rcases List.append_eq_append_iff.mp heq with ⟨more, -, rfl⟩ | ⟨more, rfl, hlevel⟩
      · exact hequals (by simp)
      · -- The white space in front has a byte at least, so that the cut does not come after the sign.
        have hc := c.utf8Size_pos
        have hmore : more = [] := by
          simp only [List.cons_append, Text.size_cons, Text.size_append] at hsize
          exact Text.eq_nil_of_size (by omega)
        subst hmore
        rw [List.nil_append] at hlevel
        exact hequals (hlevel ▸ by simp)

/-- A directive with a level is not accepted with white space around it. -/
theorem Spaced.not_accepted_of_level (h : Spaced a b) (hne : b ≠ a) (hform : form a = .level) (d : Directive) :
    read b ≠ .accepted d := by
  intro hread
  obtain ⟨first, hending⟩ : ∃ first, ending b = some (.level first) := by
    rw [← h.form_eq] at hform
    unfold form at hform
    split at hform
    case h_2 first hending => exact ⟨first, hending⟩
    all_goals cases hform
  obtain ⟨before, level, hb, hbefore, hlevel⟩ := level_of_accepted hread hending
  obtain ⟨x, y, htrim, hfirst⟩ := equals_of_ending hending
  obtain ⟨u, w, hu, hw, hb'⟩ := Text.exists_trim b
  have huw : u ++ w ≠ [] := by
    intro hnil
    obtain ⟨rfl, rfl⟩ := List.append_eq_nil_iff.mp hnil
    exact h.trim_ne hne (by simpa using hb'.symm)
  rw [htrim] at hb'
  obtain ⟨c, hc, halphanum, hplus⟩ := exists_not_alphanum hu hw huw (hb.symm.trans hb') (hbefore.trans hfirst)
  rcases hlevel with rfl | hlevel
  · cases hc
  · exact hlevel (Threshold.read?_eq_none (by simpa using hc) halphanum hplus)

/-! ## Any directive -/

/-- A directive that is accepted with white space around it is a name, which becomes that of a target, or ends with a
closing bracket. -/
theorem Spaced.form_of_accepted (h : Spaced a b) (hne : b ≠ a) {d : Directive} (hread : read b = .accepted d) :
    form a = .name ∧ d = { whole with target := some (String.ofList b) } ∨ form a = .bracket := by
  cases hform : form a with
  | name =>
      rw [h.read_name hne hform] at hread
      exact .inl ⟨rfl, (Reading.accepted.inj hread).symm⟩
  | bracket => exact .inr rfl
  | level => exact absurd hread (h.not_accepted_of_level hne hform d)
  | malformed =>
      have hcame := came b
      rw [hread] at hcame
      cases hcame with
      | accepted _ hb => exact absurd (h.form_eq.trans hform) hb

/-- White space around a directive that is refused does not make it right. -/
theorem Spaced.not_accepted_of_rejected (h : Spaced a b) {fault : Fault} (hread : read a = .rejected fault)
    (d : Directive) : read b ≠ .accepted d := by
  intro hb
  by_cases hne : b = a
  · rw [hne, hread] at hb
    cases hb
  · have hcame := came a
    rw [hread] at hcame
    rcases h.form_of_accepted hne hb with ⟨hform, -⟩ | hform
    · cases hcame with
      | malformed _ ha | badLevel _ ha => simp [hform] at ha
    · cases hcame with
      | malformed _ ha | badLevel _ ha => simp [hform] at ha

/-- Only a closing bracket lets white space around a directive say nothing. -/
theorem Spaced.bracket_of_same (h : Spaced a b) (hne : b ≠ a) {d : Directive} (ha : read a = .accepted d)
    (hb : read b = .accepted d) : form a = .bracket := by
  rcases h.form_of_accepted hne hb with ⟨hform, rfl⟩ | hform
  · exact absurd ha (read_name_ne hform hne)
  · exact hform

/-! ## White space after a directive -/

theorem trim_append (hw : Blank w) (a : List Char) : trim (a ++ w) = trim a :=
  Text.trim_padded (u := []) nofun a hw

theorem whole_append (hw : Blank w) (hwhole : ∀ part ∈ cuts a, Whole a part) :
    ∀ part ∈ cuts (a ++ w), Whole (a ++ w) part := by
  intro part hpart
  rcases mem_cuts.mp hpart with hscan | ⟨first, hending, rfl⟩
  · rw [trim_append hw] at hscan
    obtain ⟨hstart, hstop⟩ := hwhole part (mem_cuts.mpr (.inl hscan))
    exact ⟨hstart.append w, hstop.append w⟩
  · rw [ending, trim_append hw] at hending
    obtain ⟨hstart, -⟩ := hwhole _ (mem_cuts.mpr (.inr ⟨first, hending, rfl⟩))
    exact ⟨hstart.append w, Text.boundary_size (a ++ w)⟩

theorem read_append_of_bracket (hw : Blank w) (hwhole : ∀ part ∈ cuts a, Whole a part) (hform : form a = .bracket) :
    read (a ++ w) = read a := by
  have hending : ending a = some .target := by
    unfold form at hform
    split at hform
    case h_3 hending => exact hending
    all_goals cases hform
  have hscan : scan (a ++ w) whole .start 0 (trim a) = scan a whole .start 0 (trim a) :=
    scan_append begun_start (fun part hpart => hwhole part (mem_cuts.mpr (.inl hpart))) w whole
  have hscanned : Scanned a .start 0 (trim a) (scan a whole .start 0 (trim a)) :=
    scanned begun_start (size_trim_le a) whole
  rw [read, read, trim_append hw, hscan]
  generalize scan a whole .start 0 (trim a) = result at hscanned ⊢
  cases hscanned with
  | refused | severed => rfl
  | ended _ hafter =>
      cases hending.symm.trans hafter
      rfl

theorem read_append_of_rejected (hw : Blank w) (hwhole : ∀ part ∈ cuts a, Whole a part) {fault : Fault}
    (h : read a = .rejected fault) : read (a ++ w) = read a := by
  have hspaced : Spaced a (a ++ w) := ⟨[], w, nofun, hw, rfl⟩
  have hno := hspaced.not_accepted_of_rejected h
  have hcame := came a
  have hcame' := came (a ++ w)
  generalize read (a ++ w) = result at hno hcame' ⊢
  rw [h] at hcame ⊢
  cases hcame' with
  | accepted => exact absurd rfl (hno _)
  | severed _ _ hpart hnot => exact absurd (whole_append hw hwhole _ hpart) hnot
  | malformed _ hform' =>
      rw [hspaced.form_eq] at hform'
      cases hcame with
      | malformed => rfl
      | badLevel _ hform => cases hform.symm.trans hform'
  | badLevel _ hform' =>
      rw [hspaced.form_eq] at hform'
      cases hcame with
      | malformed _ hform => cases hform.symm.trans hform'
      | badLevel => rfl

/-- White space after a directive says nothing if the directive ends with a closing bracket or is refused anyway. -/
theorem read_append (hw : Blank w) (hwhole : ∀ part ∈ cuts a, Whole a part)
    (h : form a = .bracket ∨ ∃ fault, read a = .rejected fault) : read (a ++ w) = read a := by
  rcases h with hform | ⟨fault, hread⟩
  · exact read_append_of_bracket hw hwhole hform
  · exact read_append_of_rejected hw hwhole hread

end Directive

end Permit.Log
