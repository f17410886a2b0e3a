import Mathlib.Data.List.Forall2
import Permit.Log.Filter
import Permit.Proofs.Log.Scan

/-!
# Filters piece by piece

A filter is read piece by piece, and the first piece that is not accepted decides. What is written before or after a
filter, without commas, is written before its first segment or after its last.
-/

namespace Permit.Log

/-! ## One piece after the other -/

namespace Reading

variable {α β : Type} {read : β → Reading α}

theorem each_cons (read : β → Reading α) (b : β) (bs : List β) :
    each read (b :: bs) = read b >>= fun a => each read bs >>= fun as => .accepted (a :: as) := rfl

theorem each_append (read : β → Reading α) (bs cs : List β) :
    each read (bs ++ cs) = each read bs >>= fun as => each read cs >>= fun as' => .accepted (as ++ as') := by
  induction bs with
  | nil =>
      simp only [List.nil_append, each, accepted_bind]
      cases each read cs <;> rfl
  | cons b bs ih =>
      simp only [List.cons_append, each_cons, ih]
      cases read b with
      | rejected | severed => rfl
      | accepted a =>
          cases each read bs with
          | rejected | severed => rfl
          | accepted as => cases each read cs <;> rfl

theorem each_cons_severed_iff {b : β} {bs : List β} {cut : Text.Severed} : each read (b :: bs) = .severed cut ↔
    read b = .severed cut ∨ (∃ a, read b = .accepted a) ∧ each read bs = .severed cut := by
  rw [each_cons]
  cases read b with
  | rejected | severed => simp
  | accepted a => cases each read bs <;> simp

theorem each_cons_rejected_iff {b : β} {bs : List β} {fault : Fault} : each read (b :: bs) = .rejected fault ↔
    read b = .rejected fault ∨ (∃ a, read b = .accepted a) ∧ each read bs = .rejected fault := by
  rw [each_cons]
  cases read b with
  | rejected | severed => simp
  | accepted a => cases each read bs <;> simp

theorem each_severed_iff {bs : List β} {cut : Text.Severed} : each read bs = .severed cut ↔
    ∃ before b after, bs = before ++ b :: after ∧ (∀ p ∈ before, ∃ a, read p = .accepted a) ∧
      read b = .severed cut := by
  induction bs with
  | nil => simp [each]
  | cons b bs ih =>
      rw [each_cons_severed_iff, ih]
      constructor
      · rintro (hb | ⟨ha, before, b', after, rfl, hbefore, hb'⟩)
        · exact ⟨[], b, bs, rfl, nofun, hb⟩
        · exact ⟨b :: before, b', after, rfl, List.forall_mem_cons.mpr ⟨ha, hbefore⟩, hb'⟩
      · rintro ⟨before, b', after, hbs, hbefore, hb'⟩
        cases before with
        | nil =>
            obtain ⟨rfl, rfl⟩ := List.cons.inj hbs
            exact .inl hb'
        | cons p before =>
            obtain ⟨rfl, rfl⟩ := List.cons.inj hbs
            obtain ⟨ha, hrest⟩ := List.forall_mem_cons.mp hbefore
            exact .inr ⟨ha, before, b', after, rfl, hrest, hb'⟩

end Reading

/-! ## Segments -/

namespace Filter

/-- All that stands between commas, the empty too. -/
def segments (text : List Char) : List (List Char) := text.splitOnP (· = ',')

/-- What stands before the first comma. -/
def first (text : List Char) : List Char := (segments text).headD []

/-- What stands after the last comma. -/
def last (text : List Char) : List Char := (segments text).getLastD []

/-- Reads the segments that are not empty. -/
def readAll (ss : List (List Char)) : Reading (List Directive) := Reading.each Directive.read (ss.filter (!·.isEmpty))

theorem read_eq (text : String) : read text = readAll (segments text.toList) >>= fun ds => .accepted ⟨ds⟩ := rfl

theorem readAll_segments (text : String) :
    readAll (segments text.toList) = Reading.each Directive.read (pieces text) := rfl

variable {text : String}

theorem read_accepted_iff {filter : Filter} :
    read text = .accepted filter ↔ readAll (segments text.toList) = .accepted filter.directives := by
  obtain ⟨ds⟩ := filter
  rw [read_eq]
  cases readAll (segments text.toList) <;> simp

theorem read_rejected_iff {fault : Fault} :
    read text = .rejected fault ↔ readAll (segments text.toList) = .rejected fault := by
  rw [read_eq]
  cases readAll (segments text.toList) <;> simp

theorem read_severed_iff {cut : Text.Severed} :
    read text = .severed cut ↔ readAll (segments text.toList) = .severed cut := by
  rw [read_eq]
  cases readAll (segments text.toList) <;> simp

theorem readAll_append (ss ss' : List (List Char)) :
    readAll (ss ++ ss') = readAll ss >>= fun ds => readAll ss' >>= fun ds' => .accepted (ds ++ ds') := by
  rw [readAll, List.filter_append, Reading.each_append]
  rfl

variable {s : List Char} {ss : List (List Char)}

theorem readAll_empty_cons (ss : List (List Char)) : readAll ([] :: ss) = readAll ss := rfl

theorem readAll_cons (h : s ≠ []) (ss : List (List Char)) :
    readAll (s :: ss) = Directive.read s >>= fun d => readAll ss >>= fun ds => .accepted (d :: ds) := by
  rw [readAll, List.filter_cons_of_pos (by simpa using h)]
  rfl

theorem readAll_cons_accepted_iff (h : s ≠ []) {ds : List Directive} : readAll (s :: ss) = .accepted ds ↔
    ∃ d ds', ds = d :: ds' ∧ Directive.read s = .accepted d ∧ readAll ss = .accepted ds' := by
  rw [readAll_cons h]
  cases Directive.read s with
  | rejected | severed => simp
  | accepted d => cases readAll ss <;> simp [eq_comm]

theorem readAll_cons_accepted {ds : List Directive} (h : readAll (s :: ss) = .accepted ds) :
    ∃ ds', readAll ss = .accepted ds' ∧ (s ≠ [] → ∃ d, Directive.read s = .accepted d) := by
  by_cases hempty : s = []
  · rw [hempty, readAll_empty_cons] at h
    exact ⟨ds, h, fun hne => absurd hempty hne⟩
  · obtain ⟨d, ds', -, hd, hds'⟩ := (readAll_cons_accepted_iff hempty).mp h
    exact ⟨ds', hds', fun _ => ⟨d, hd⟩⟩

theorem readAll_cons_rejected {fault : Fault} (h : readAll (s :: ss) = .rejected fault) :
    s ≠ [] ∧ Directive.read s = .rejected fault ∨ readAll ss = .rejected fault := by
  by_cases hempty : s = []
  · rw [hempty, readAll_empty_cons] at h
    exact .inr h
  · rw [readAll, List.filter_cons_of_pos (by simpa using hempty)] at h
    rcases Reading.each_cons_rejected_iff.mp h with hs | ⟨-, hss⟩
    · exact .inl ⟨hempty, hs⟩
    · exact .inr hss

variable {u w text : List Char}

/-- A text is put before the first segment, and another after the last. -/
inductive Padded (u w : List Char) : List (List Char) → List (List Char) → Prop where
  | one (only : List Char) : Padded u w [only] [u ++ only ++ w]
  | more (first : List Char) (middle : List (List Char)) (last : List Char) :
      Padded u w (first :: (middle ++ [last])) ((u ++ first) :: (middle ++ [last ++ w]))

theorem segments_append (hw : ',' ∉ w) (text : List Char) :
    ∃ front last, segments text = front ++ [last] ∧ segments (text ++ w) = front ++ [last ++ w] := by
  induction text with
  | nil =>
      have hnone : ∀ c ∈ w, decide (c = ',') = false := fun c hc => decide_eq_false fun heq => hw (heq ▸ hc)
      exact ⟨[], [], List.splitOnP_nil, List.splitOnP_eq_singleton hnone⟩
  | cons c text ih =>
      obtain ⟨front, last, htext, hmore⟩ := ih
      rw [segments] at htext hmore
      simp only [segments, List.cons_append, List.splitOnP_cons_eq_if_modifyHead, htext, hmore]
      by_cases hc : c = ','
      · exact ⟨[] :: front, last, by simp [hc], by simp [hc]⟩
      · cases front with
        | nil => exact ⟨[], c :: last, by simp [hc], by simp [hc]⟩
        | cons first front => exact ⟨(c :: first) :: front, last, by simp [hc], by simp [hc]⟩

theorem segments_prepend (hu : ',' ∉ u) {first : List Char} {rest : List (List Char)}
    (h : segments text = first :: rest) : segments (u ++ text) = (u ++ first) :: rest := by
  induction u with
  | nil => exact h
  | cons c u ih =>
      rw [List.mem_cons, not_or] at hu
      have hc : c ≠ ',' := Ne.symm hu.1
      have hrest : (u ++ text).splitOnP (· = ',') = (u ++ first) :: rest := ih hu.2
      simp [segments, List.splitOnP_cons_eq_if_modifyHead, hc, hrest]

theorem padded_segments (hu : ',' ∉ u) (hw : ',' ∉ w) (text : List Char) :
    Padded u w (segments text) (segments (u ++ text ++ w)) := by
  obtain ⟨front, last, htext, hmore⟩ := segments_append hw text
  rw [List.append_assoc, htext]
  cases front with
  | nil =>
      rw [segments_prepend hu hmore]
      rw [← List.append_assoc]
      exact .one last
  | cons first middle =>
      rw [segments_prepend hu hmore]
      exact .more first middle last

end Filter

end Permit.Log
