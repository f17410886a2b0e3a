import Permit.Proofs.Log.Forms
import Permit.Proofs.Log.Install
import Permit.Proofs.Log.Pieces

/-!
# Filters that are severed

A filter is read or refused, unless it is severed: a piece of it that no refused piece comes before has white space in
front and, shifted by it, an end of a part falls inside a character. Such a filter is neither read nor refused.
-/

namespace Permit.Log

open Text (size isBlank)

namespace Filter

/-- A part of some piece is not whole, and all pieces before it are accepted. -/
def Severs (text : String) : Prop :=
  ∃ before piece after, pieces text = before ++ piece :: after ∧
    (∀ p ∈ before, ∃ d, Directive.read p = .accepted d) ∧ ∃ part ∈ Directive.cuts piece, ¬ Whole piece part

variable {text : String}

theorem severed_iff : (∃ cut, read text = .severed cut) ↔ Severs text := by
  simp only [read_severed_iff, readAll_segments, Reading.each_severed_iff]
  constructor
  · rintro ⟨cut, before, piece, after, hpieces, hbefore, hpiece⟩
    exact ⟨before, piece, after, hpieces, hbefore, Directive.severed_iff.mp ⟨cut, hpiece⟩⟩
  · rintro ⟨before, piece, after, hpieces, hbefore, hparts⟩
    obtain ⟨cut, hpiece⟩ := Directive.severed_iff.mpr hparts
    exact ⟨cut, before, piece, after, hpieces, hbefore, hpiece⟩

/-- The report is about a piece of the filter, and it is true. -/
theorem severed_real {cut : Text.Severed} (h : read text = .severed cut) : cut.text ∈ pieces text ∧ cut.Real := by
  rw [read_severed_iff, readAll_segments, Reading.each_severed_iff] at h
  obtain ⟨before, piece, after, hpieces, -, hpiece⟩ := h
  obtain ⟨rfl, hreal⟩ := Directive.severed_real hpiece
  exact ⟨by simp [hpieces], hreal⟩

/-- No piece has white space in front of characters of more than one byte. -/
theorem not_severs (h : ∀ piece ∈ pieces text,
    (∀ c ∈ piece.head?, isBlank c = false) ∨ ∀ c ∈ piece, c.utf8Size = 1) : ¬ Severs text := by
  rintro ⟨before, piece, after, hpieces, -, part, hpart, hnot⟩
  rcases h piece (by simp [hpieces]) with hhead | hsingle
  · exact hnot (Directive.whole_of_head hhead hpart)
  · exact hnot (Directive.whole_of_single hsingle hpart)

end Filter

/-! ## Validation and installation -/

namespace Settings

variable {s : Settings} {j : Journal}

theorem validate_severed_iff {cut : Text.Severed} : s.validate = .error cut ↔ s.read = .severed cut := by
  unfold validate
  cases s.read <;> simp

theorem validate_refused_iff {error : InstallError} :
    s.validate = .ok (.error error) ↔ ∃ fault, error = .invalidFilter s.filter fault ∧ s.read = .rejected fault := by
  unfold validate
  cases s.read <;> simp [eq_comm]

theorem validate_accepted_iff {filter : Filter} : s.validate = .ok (.ok filter) ↔ s.read = .accepted filter := by
  unfold validate
  cases s.read <;> simp

/-- Validation gives the filter, or an error with the text of the filter, and installation the same error or whether there
already is a subscriber; but a filter that is severed stops both, with a true report on a piece of it. The parts that are
cut out of a piece lie in it in order, and where no piece has white space in front of characters of more than one byte,
nothing is severed. -/
theorem validate_or_sever (s : Settings) (j : Journal) :
    ((∃ cut, s.validate = .error cut) ↔ Filter.Severs s.filter) ∧
      (∀ cut, s.validate = .error cut →
        cut.text ∈ Filter.pieces s.filter ∧ cut.Real ∧ j.install s = (.severed cut, j)) ∧
      (∀ error, s.validate = .ok (.error error) →
        (∃ fault, error = .invalidFilter s.filter fault) ∧ j.install s = (.failed error, j)) ∧
      (∀ filter, s.validate = .ok (.ok filter) → j.install s =
        if j.subscriber.isSome then (.failed .alreadyInstalled, j)
        else (.done, ⟨some ⟨s, filter⟩, [Journal.initialised s.filter]⟩)) ∧
      (∀ piece ∈ Filter.pieces s.filter, ∀ part ∈ Directive.cuts piece, part.1 ≤ part.2 ∧ part.2 ≤ size piece) ∧
      ((∀ piece ∈ Filter.pieces s.filter, (∀ c ∈ piece.head?, isBlank c = false) ∨ ∀ c ∈ piece, c.utf8Size = 1) →
        ∃ result, s.validate = .ok result) := by
  refine ⟨?severs, ?reports, ?refuses, ?installs, fun piece _ part => Directive.cuts_ordered, ?whole⟩
  case severs =>
    simp only [validate_severed_iff]
    exact Filter.severed_iff
  case reports =>
    intro cut h
    have hread : s.read = .severed cut := validate_severed_iff.mp h
    obtain ⟨hpiece, hreal⟩ := Filter.severed_real hread
    exact ⟨hpiece, hreal, by rw [Journal.install, hread]⟩
  case refuses =>
    intro error h
    obtain ⟨fault, rfl, hread⟩ := validate_refused_iff.mp h
    exact ⟨⟨fault, rfl⟩, by rw [Journal.install, hread]⟩
  case installs =>
    intro filter h
    rw [Journal.install, validate_accepted_iff.mp h]
    cases j.subscriber <;> rfl
  case whole =>
    intro hpieces
    cases h : s.validate with
    | ok result => exact ⟨result, rfl⟩
    | error cut => exact absurd (Filter.severed_iff.mp ⟨cut, validate_severed_iff.mp h⟩) (Filter.not_severs hpieces)

/-- The accented letter takes two bytes, and the space in front makes its name end inside it. -/
theorem validate_severs_accent :
    (ofFilter " é=info").validate = .error ⟨.stop, 2, 1, 'é', [' ', 'é', '=', 'i', 'n', 'f', 'o']⟩ ∧
      (Journal.fresh.install (ofFilter " é=info")).1 =
        .severed ⟨.stop, 2, 1, 'é', [' ', 'é', '=', 'i', 'n', 'f', 'o']⟩ :=
  ⟨by rfl, by rfl⟩

end Settings

end Permit.Log
