import Permit.Log.Subscriber
import Permit.Proofs.Log.Pieces
import Permit.Proofs.Log.Spaced

/-!
# White space around variables

Around the variable for colours white space says nothing, and a blank filter says nothing. Around any other filter it
belongs to the first and the last directive, and says nothing only if they end with a closing bracket.
-/

namespace Permit.Log

open Text (Blank Bare isBlank)

/-! ## Filters -/

namespace Filter

variable {u w : List Char} {ss ss' : List (List Char)}

theorem comma_not_mem (hw : Blank w) : ',' ∉ w := by
  intro hmem
  exact absurd (hw ',' hmem) (by decide)

theorem Padded.spaced (h : Padded u w ss ss') (hu : Blank u) (hw : Blank w) :
    List.Forall₂ Directive.Spaced ss ss' := by
  cases h with
  | one only => exact .cons ⟨u, w, hu, hw, rfl⟩ .nil
  | more first middle last =>
      have hmiddle : List.Forall₂ Directive.Spaced middle middle :=
        List.forall₂_same.mpr fun s _ => ⟨[], [], nofun, nofun, by simp⟩
      exact .cons ⟨u, [], hu, nofun, by simp⟩ (List.rel_append hmiddle (.cons ⟨[], w, nofun, hw, rfl⟩ .nil))

/-- If white space around directives does not change what is accepted, it stands around closing brackets only. -/
theorem bracket_of_same (h : List.Forall₂ Directive.Spaced ss ss') {ds : List Directive}
    (hss : readAll ss = .accepted ds) (hss' : readAll ss' = .accepted ds) :
    List.Forall₂ (fun a b => b = a ∨ Directive.form a = .bracket) ss ss' := by
  induction h generalizing ds with
  | nil => exact .nil
  | @cons a b ss ss' hab hrest ih =>
      -- An empty segment counts on neither side; with white space it would be refused.
      by_cases hb : b = a
      · subst hb
        by_cases hempty : b = []
        · subst hempty
          exact .cons (.inl rfl) (ih hss hss')
        · obtain ⟨d, ds, rfl, -, hss⟩ := (readAll_cons_accepted_iff hempty).mp hss
          obtain ⟨_, _, hds, -, hss'⟩ := (readAll_cons_accepted_iff hempty).mp hss'
          cases hds
          exact .cons (.inl rfl) (ih hss hss')
      · obtain ⟨c, hc, -⟩ := hab.exists_blank hb
        obtain ⟨d, ds, rfl, hd, hss'⟩ := (readAll_cons_accepted_iff (List.ne_nil_of_mem hc)).mp hss'
        have hempty : a ≠ [] := by
          rintro rfl
          rcases hab.form_of_accepted hb hd with ⟨hform, -⟩ | hform
          · cases hform
          · cases hform
        obtain ⟨_, _, hds, ha, hss⟩ := (readAll_cons_accepted_iff hempty).mp hss
        cases hds
        exact .cons (.inr (hab.bracket_of_same hb ha hd)) (ih hss hss')

/-- Directives that are accepted with white space around them are names, or end with a closing bracket. -/
theorem forms_of_accepted (h : List.Forall₂ Directive.Spaced ss ss') {ds : List Directive}
    (hss' : readAll ss' = .accepted ds) :
    List.Forall₂ (fun a b => b = a ∨ Directive.form a = .name ∨ Directive.form a = .bracket) ss ss' := by
  induction h generalizing ds with
  | nil => exact .nil
  | @cons a b ss ss' hab hrest ih =>
      obtain ⟨ds, hds, hread⟩ := readAll_cons_accepted hss'
      by_cases hb : b = a
      · exact .cons (.inl hb) (ih hds)
      · obtain ⟨c, hc, -⟩ := hab.exists_blank hb
        obtain ⟨d, hd⟩ := hread (List.ne_nil_of_mem hc)
        exact .cons (.inr ((hab.form_of_accepted hb hd).imp_left And.left)) (ih hds)

/-- White space around directives does not make right what is refused. -/
theorem not_accepted_of_rejected (h : List.Forall₂ Directive.Spaced ss ss') {fault : Fault}
    (hss : readAll ss = .rejected fault) (ds : List Directive) : readAll ss' ≠ .accepted ds := by
  intro hss'
  induction h generalizing ds with
  | nil => cases hss
  | @cons a b ss ss' hab hrest ih =>
      obtain ⟨ds', hds', hread⟩ := readAll_cons_accepted hss'
      rcases readAll_cons_rejected hss with ⟨hempty, ha⟩ | hss
      · obtain ⟨d, hd⟩ := hread (hab.ne_nil hempty)
        exact hab.not_accepted_of_rejected ha d hd
      · exact ih hss ds' hds'

/-- White space after the last directive says nothing if that ends with a closing bracket, or if something is refused
anyway. -/
theorem readAll_trailing (hw : Blank w) {front : List (List Char)} {last : List Char}
    (hsevered : ∀ cut, readAll (front ++ [last]) ≠ .severed cut)
    (h : Directive.form last = .bracket ∨ ∃ fault, readAll (front ++ [last]) = .rejected fault) :
    readAll (front ++ [last ++ w]) = readAll (front ++ [last]) := by
  simp only [readAll_append] at hsevered h ⊢
  -- Either a directive before the last one decides, or the last one alone.
  cases hfront : readAll front with
  | rejected fault => rfl
  | severed cut => exact absurd (by rw [hfront]; rfl) (hsevered cut)
  | accepted ds =>
      simp only [hfront, Reading.accepted_bind] at hsevered h
      have hempty : last ≠ [] := by
        rintro rfl
        rcases h with hform | ⟨fault, hread⟩
        · cases hform
        · cases hread
      have hlast : ∀ s : List Char, s ≠ [] → readAll [s] = Directive.read s >>= fun d => .accepted [d] :=
        fun s hs => readAll_cons hs []
      rw [hlast last hempty] at hsevered h
      have hwhole : ∀ part ∈ Directive.cuts last, Whole last part := by
        intro part hpart
        by_contra hnot
        obtain ⟨cut, hcut⟩ := Directive.severed_iff.mpr ⟨part, hpart, hnot⟩
        exact hsevered cut (by rw [hcut]; rfl)
      have hread : Directive.read (last ++ w) = Directive.read last := by
        refine Directive.read_append hw hwhole (h.imp_right ?_)
        rintro ⟨fault, hfault⟩
        cases hdirective : Directive.read last with
        | accepted | severed => simp [hdirective] at hfault
        | rejected fault' => exact ⟨fault', rfl⟩
      rw [hlast last hempty, hlast (last ++ w) (by simp [hempty]), hread]

variable {f : List Char}

theorem Padded.ends {P : List Char → Prop} (h : Padded u w ss ss')
    (hss : List.Forall₂ (fun a b => b = a ∨ P a) ss ss') :
    (u = [] ∨ P (ss.headD [])) ∧ (w = [] ∨ P (ss.getLastD [])) := by
  cases h with
  | one only =>
      obtain ⟨heq | honly, -⟩ := List.forall₂_cons.mp hss
      · obtain ⟨hu, hw⟩ := Text.eq_nil_of_padded heq
        exact ⟨.inl hu, .inl hw⟩
      · exact ⟨.inr honly, .inr honly⟩
  | more first middle last =>
      obtain ⟨hfirst, hrest⟩ := List.forall₂_cons.mp hss
      have hlast : last ++ w = last ∨ P last := by
        refine List.forall₂_zip hrest ?_
        rw [List.zip_append rfl]
        simp
      constructor
      · exact hfirst.imp_left (by simp)
      · rw [← List.cons_append, List.getLastD_concat]
        exact hlast.imp_left (by simp)

/-- White space around a filter that changes nothing stands next to closing brackets. -/
theorem brackets_of_same (hu : Blank u) (hw : Blank w) {filter : Filter}
    (hplain : read (String.ofList f) = .accepted filter)
    (hpadded : read (String.ofList (u ++ f ++ w)) = .accepted filter) :
    (u = [] ∨ Directive.form (first f) = .bracket) ∧ (w = [] ∨ Directive.form (last f) = .bracket) := by
  have hsegments := padded_segments (comma_not_mem hu) (comma_not_mem hw) f
  simp only [read_accepted_iff, String.toList_ofList] at hplain hpadded
  exact hsegments.ends (bracket_of_same (hsegments.spaced hu hw) hplain hpadded)

theorem ends_of_accepted (hu : Blank u) (hw : Blank w) {filter : Filter}
    (hpadded : read (String.ofList (u ++ f ++ w)) = .accepted filter) :
    (u = [] ∨ Directive.form (first f) = .name ∨ Directive.form (first f) = .bracket) ∧
      (w = [] ∨ Directive.form (last f) = .name ∨ Directive.form (last f) = .bracket) := by
  have hsegments := padded_segments (comma_not_mem hu) (comma_not_mem hw) f
  simp only [read_accepted_iff, String.toList_ofList] at hpadded
  exact hsegments.ends (forms_of_accepted (hsegments.spaced hu hw) hpadded)

theorem not_accepted_of_rejected_padded (hu : Blank u) (hw : Blank w) {fault : Fault}
    (hplain : read (String.ofList f) = .rejected fault) (filter : Filter) :
    read (String.ofList (u ++ f ++ w)) ≠ .accepted filter := by
  have hsegments := padded_segments (comma_not_mem hu) (comma_not_mem hw) f
  simp only [read_rejected_iff, read_accepted_iff, ne_eq, String.toList_ofList] at hplain ⊢
  exact not_accepted_of_rejected (hsegments.spaced hu hw) hplain filter.directives

/-- White space after a filter that is not severed changes nothing where the last directive or a refusal hides it. -/
theorem read_trailing_iff (hw : Blank w) (hsevered : ∀ cut, read (String.ofList f) ≠ .severed cut) :
    read (String.ofList (f ++ w)) = read (String.ofList f) ↔
      w = [] ∨ Directive.form (last f) = .bracket ∨ ∃ fault, read (String.ofList f) = .rejected fault := by
  constructor
  · intro hsame
    cases hplain : read (String.ofList f) with
    | severed cut => exact absurd hplain (hsevered cut)
    | rejected fault => exact .inr (.inr ⟨fault, rfl⟩)
    | accepted filter =>
        obtain ⟨-, hlast⟩ := brackets_of_same (u := []) nofun hw hplain (hsame.trans hplain)
        exact hlast.imp_right .inl
  · intro h
    rcases h with rfl | h
    · rw [List.append_nil]
    · obtain ⟨front, last, hf, hfw⟩ := segments_append (comma_not_mem hw) f
      rw [Filter.last, hf, List.getLastD_concat] at h
      simp only [read_severed_iff, read_rejected_iff, String.toList_ofList, hf, ne_eq] at hsevered h
      rw [read_eq, read_eq, String.toList_ofList, String.toList_ofList, hf, hfw, readAll_trailing hw hsevered h]

/-- The only directive of a filter, if it is a name, becomes that of a target. -/
theorem read_padded_name (hu : Blank u) (hw : Blank w) (hne : u ++ w ≠ []) (hcomma : ',' ∉ f)
    (hform : Directive.form f = .name) : read (String.ofList (u ++ f ++ w)) =
      .accepted ⟨[{ Directive.whole with target := some (String.ofList (u ++ f ++ w)) }]⟩ := by
  have hspaced : Directive.Spaced f (u ++ f ++ w) := ⟨u, w, hu, hw, rfl⟩
  have hsegments : segments (u ++ f ++ w) = [u ++ f ++ w] := by
    refine List.splitOnP_eq_singleton fun c hc => decide_eq_false ?_
    rintro rfl
    simp only [List.mem_append, comma_not_mem hu, comma_not_mem hw, hcomma, or_self] at hc
  have hdiffers : u ++ f ++ w ≠ f := by
    intro heq
    obtain ⟨rfl, rfl⟩ := Text.eq_nil_of_padded heq
    exact hne rfl
  have hempty : u ++ f ++ w ≠ [] := by
    obtain ⟨c, hc, -⟩ := hspaced.exists_blank hdiffers
    exact List.ne_nil_of_mem hc
  rw [read_accepted_iff, String.toList_ofList, hsegments, readAll_cons hempty, hspaced.read_name hdiffers hform]
  rfl

end Filter

/-! ## Settings from the environment -/

namespace Settings

variable {f u w : List Char}

theorem not_allBlank (hf : Bare f) (u w : List Char) : Text.allBlank (String.ofList (u ++ f ++ w)) = false := by
  rw [Bool.eq_false_iff]
  intro hblank
  rw [Text.allBlank_iff, String.toList_ofList] at hblank
  obtain ⟨c, cs, rfl⟩ := List.exists_cons_of_ne_nil hf.nonempty
  have hc := hblank c (by simp)
  rw [hf.head c rfl] at hc
  cases hc

/-- Colours do not depend on white space around their variable, and a blank filter counts as unset. A filter is taken with
the white space around it. That does not make a refused filter right, and is accepted only around a name or next to a
closing bracket; it changes nothing only next to a closing bracket. After a filter that is not severed, it changes nothing
exactly if there is none, or the filter ends with a closing bracket or is refused anyway. A name with white space around it
is that of a target, all of whose events are shown. -/
theorem ofEnvironment_padded (hf : Bare f) (hu : Blank u) (hw : Blank w) (other : Option String) :
    let text := String.ofList f
    let padded := String.ofList (u ++ f ++ w)
    let plain := ofEnvironment (some text) other
    let spaced := ofEnvironment (some padded) other
    ofEnvironment other (some padded) = ofEnvironment other (some text) ∧
      ofEnvironment (some (String.ofList u)) other = ofEnvironment none other ∧
      (plain.filter = text ∧ spaced = { plain with filter := padded }) ∧
      (∀ fault, plain.read = .rejected fault → ∀ filter, spaced.read ≠ .accepted filter) ∧
      (∀ filter, spaced.read = .accepted filter →
        (u = [] ∨ Directive.form (Filter.first f) = .name ∨ Directive.form (Filter.first f) = .bracket) ∧
          (w = [] ∨ Directive.form (Filter.last f) = .name ∨ Directive.form (Filter.last f) = .bracket)) ∧
      (∀ filter, plain.read = .accepted filter → spaced.read = .accepted filter →
        (u = [] ∨ Directive.form (Filter.first f) = .bracket) ∧
          (w = [] ∨ Directive.form (Filter.last f) = .bracket)) ∧
      (u = [] → (∀ cut, plain.read ≠ .severed cut) → (spaced.read = plain.read ↔
        w = [] ∨ Directive.form (Filter.last f) = .bracket ∨ ∃ fault, plain.read = .rejected fault)) ∧
      (u ++ w ≠ [] → ',' ∉ f → Directive.form f = .name →
        spaced.read = .accepted ⟨[{ Directive.whole with target := some padded }]⟩) := by
  intro text padded plain spaced
  have hplain : plain.filter = text := by
    have hblank : Text.allBlank text = false := by simpa using not_allBlank hf [] []
    simp [plain, ofEnvironment, hblank]
  have hspaced : spaced = { plain with filter := padded } := by
    have hblank : Text.allBlank padded = false := not_allBlank hf u w
    simp [spaced, plain, ofEnvironment, hblank]
  have hread : plain.read = Filter.read text := congrArg Filter.read hplain
  have hread' : spaced.read = Filter.read padded := by rw [hspaced, Settings.read]
  rw [hread, hread']
  refine ⟨?colours, ?blank, ⟨hplain, hspaced⟩, ?refused, ?accepted, ?same, ?trailing, ?name⟩
  case colours => simp only [ofEnvironment, padded, text, String.toList_ofList, Text.trim_padded hu f hw]
  case blank =>
    have hblank : Text.allBlank (String.ofList u) = true := by simpa [Text.allBlank_iff] using hu
    simp [ofEnvironment, hblank]
  case refused => exact fun fault => Filter.not_accepted_of_rejected_padded hu hw
  case accepted => exact fun filter => Filter.ends_of_accepted hu hw
  case same => exact fun filter => Filter.brackets_of_same hu hw
  case trailing =>
    rintro hu hsevered
    subst hu
    exact Filter.read_trailing_iff hw hsevered
  case name => exact fun hne => Filter.read_padded_name hu hw hne

theorem ofEnvironment_padded_debug :
    Bare ['d', 'e', 'b', 'u', 'g'] ∧ Blank [' '] ∧ Directive.form ['d', 'e', 'b', 'u', 'g'] = .name ∧
      (ofEnvironment (some " debug ") none).read =
        .accepted ⟨[{ Directive.whole with target := some " debug " }]⟩ := by
  have hbare : Bare ['d', 'e', 'b', 'u', 'g'] := ⟨nofun, by rintro _ ⟨⟩; decide, by rintro _ ⟨⟩; decide⟩
  have hblank : Blank [' '] := List.forall_mem_singleton.mpr (by decide)
  obtain ⟨-, -, -, -, -, -, -, hname⟩ := ofEnvironment_padded hbare hblank hblank none
  exact ⟨hbare, hblank, by decide, hname (by decide) (by decide) (by decide)⟩

/-- Without the spaces it is a level for all targets. -/
theorem ofEnvironment_spaces_matter :
    (ofEnvironment (some "debug") none).read = .accepted ⟨[⟨none, none, [], .upTo .debug⟩]⟩ ∧
      (ofEnvironment (some " debug ") none).read = .accepted ⟨[⟨some " debug ", none, [], .upTo .trace⟩]⟩ :=
  ⟨by rfl, by rfl⟩

end Settings

end Permit.Log
