import Permit.Log.Filter
import Permit.Proofs.Text.Boundary

/-!
# The scan of a directive

Which way the scan goes, and between which offsets it cuts parts out, follows from the characters that are scanned; the
whole text only gives the parts. The scan ends where its way ends if all its cuts fall on boundaries of the whole text,
and otherwise a character of that text is severed.
-/

namespace Permit.Log

open Text (size Boundary boundary_zero)

/-- Both ends of a part fall on boundaries of the text. -/
def Whole (text : List Char) (part : Nat × Nat) : Prop := Boundary text part.1 ∧ Boundary text part.2

/-! ## The way of the scan -/

namespace ScanState

/-- The state after a character, if the scan goes on. -/
def next? (state : ScanState) (at_ : Nat) (c : Char) : Option ScanState :=
  match state with
  | .start => if c = '[' then some (.span (at_ + 1)) else if Directive.startsTarget c then some .levelOrTarget else none
  | .levelOrTarget =>
      if c = '=' then some (.level (at_ + 1)) else if c = '[' then some (.span (at_ + 1)) else some .levelOrTarget
  | .span first => if c = ']' then some .target else if c = '\x7b' then some (.field (at_ + 1)) else some (.span first)
  | .field first => if c = '\x7d' then if first = at_ then none else some .fields else some (.field first)
  | .fields => if c = ']' then some .target else none
  | .target => if c = '=' then some (.level (at_ + 1)) else none
  | .level first => some (.level first)

/-- The ends of the part that is cut out at a character, if one is. -/
def part? (state : ScanState) (at_ : Nat) (c : Char) : Option (Nat × Nat) :=
  match state with
  | .levelOrTarget => if c = '=' ∨ c = '[' then some (0, at_) else none
  | .span first => if c = ']' ∨ c = '\x7b' then some (first, at_) else none
  | .field first => if c = '\x7d' then some (first, at_) else none
  | .start | .fields | .target | .level _ => none

/-- The state after some characters, if the scan gets there. -/
def after (state : ScanState) (at_ : Nat) : List Char → Option ScanState
  | [] => some state
  | c :: cs =>
      match state.next? at_ c with
      | some next => next.after (at_ + c.utf8Size) cs
      | none => none

/-- The ends of the parts that are cut out at some characters. -/
def parts (state : ScanState) (at_ : Nat) : List Char → List (Nat × Nat)
  | [] => []
  | c :: cs =>
      (state.part? at_ c).toList ++
        match state.next? at_ c with
        | some next => next.parts (at_ + c.utf8Size) cs
        | none => []

/-- What is under way began at a character that was passed, a level right after an equals sign. -/
def Begun (passed : List Char) : ScanState → Prop
  | .span first | .field first => Boundary passed first
  | .level first => ∃ before after, passed = before ++ '=' :: after ∧ first = size before + 1
  | .start | .levelOrTarget | .fields | .target => True

variable {state state' : ScanState} {passed : List Char} {at_ : Nat} {c : Char} {cs : List Char}

theorem mem_parts_cons {part : Nat × Nat} : part ∈ state.parts at_ (c :: cs) ↔
    state.part? at_ c = some part ∨
      ∃ next, state.next? at_ c = some next ∧ part ∈ next.parts (at_ + c.utf8Size) cs := by
  rw [parts, List.mem_append, Option.mem_toList]
  cases state.next? at_ c <;> simp

theorem begun_opened (passed : List Char) (hc : c = '[' ∨ c = '\x7b') :
    Boundary (passed ++ [c]) (size passed + 1) := by
  have hsize : c.utf8Size = 1 := by obtain rfl | rfl := hc <;> rfl
  simpa [hsize] using Text.boundary_size (passed ++ [c])

theorem begun_level (passed : List Char) : (ScanState.level (size passed + 1)).Begun (passed ++ ['=']) :=
  ⟨passed, [], rfl, rfl⟩

theorem Begun.next (h : state.Begun passed) (hnext : state.next? (size passed) c = some state') :
    state'.Begun (passed ++ [c]) := by
  cases state with
  | start =>
      simp only [next?] at hnext
      split at hnext
      case isTrue hc =>
        cases hnext
        exact begun_opened passed (.inl hc)
      case isFalse =>
        obtain ⟨-, ⟨⟩⟩ := Option.ite_none_right_eq_some.mp hnext
        trivial
  | levelOrTarget =>
      simp only [next?] at hnext
      split at hnext
      case isTrue hc =>
        cases hc
        cases hnext
        exact begun_level passed
      case isFalse =>
        split at hnext
        case isTrue hc =>
          cases hnext
          exact begun_opened passed (.inl hc)
        case isFalse =>
          cases hnext
          trivial
  | span first =>
      simp only [next?] at hnext
      split at hnext
      case isTrue =>
        cases hnext
        trivial
      case isFalse =>
        split at hnext
        case isTrue hc =>
          cases hnext
          exact begun_opened passed (.inr hc)
        case isFalse =>
          cases hnext
          exact Boundary.append h [c]
  | field first =>
      simp only [next?] at hnext
      split at hnext
      case isTrue =>
        obtain ⟨-, ⟨⟩⟩ := Option.ite_none_left_eq_some.mp hnext
        trivial
      case isFalse =>
        cases hnext
        exact Boundary.append h [c]
  | fields =>
      obtain ⟨-, ⟨⟩⟩ := Option.ite_none_right_eq_some.mp hnext
      trivial
  | target =>
      obtain ⟨rfl, ⟨⟩⟩ := Option.ite_none_right_eq_some.mp hnext
      exact begun_level passed
  | level first =>
      cases hnext
      obtain ⟨before, after, rfl, rfl⟩ := h
      exact ⟨before, after ++ [c], by simp, rfl⟩

theorem Begun.part {part : Nat × Nat} (h : state.Begun passed) (hpart : state.part? (size passed) c = some part) :
    Boundary passed part.1 ∧ part.2 = size passed := by
  cases state with
  | start | fields | target | level => cases hpart
  | levelOrTarget =>
      simp only [part?, Option.ite_none_right_eq_some, Option.some.injEq] at hpart
      obtain ⟨-, rfl⟩ := hpart
      exact ⟨boundary_zero passed, rfl⟩
  | span | field =>
      simp only [part?, Option.ite_none_right_eq_some, Option.some.injEq] at hpart
      obtain ⟨-, rfl⟩ := hpart
      exact ⟨h, rfl⟩

theorem Begun.after (h : state.Begun passed) (hafter : state.after (size passed) cs = some state') :
    state'.Begun (passed ++ cs) := by
  induction cs generalizing state passed with
  | nil =>
      cases hafter
      simpa using h
  | cons c cs ih =>
      cases hnext : state.next? (size passed) c with
      | none => simp [ScanState.after, hnext] at hafter
      | some next =>
          have hrest : next.after (size (passed ++ [c])) cs = some state' := by
            simpa [ScanState.after, hnext] using hafter
          simpa using ih (h.next hnext) hrest

/-- The parts lie in order in the text that is scanned, and sever none of its characters. -/
theorem Begun.parts {part : Nat × Nat} (h : state.Begun passed) (hpart : part ∈ state.parts (size passed) cs) :
    part.1 ≤ part.2 ∧ Whole (passed ++ cs) part := by
  induction cs generalizing state passed with
  | nil => cases hpart
  | cons c cs ih =>
      rcases mem_parts_cons.mp hpart with hnow | ⟨next, hnext, hlater⟩
      · obtain ⟨hstart, hstop⟩ := h.part hnow
        rw [Whole, hstop]
        exact ⟨hstart.le_size, hstart.append (c :: cs), Text.boundary_append passed (c :: cs)⟩
      · have hrest : part ∈ next.parts (size (passed ++ [c])) cs := by simpa using hlater
        simpa using ih (h.next hnext) hrest

/-- Where a name is under way at the end, nothing was cut out. -/
theorem parts_of_levelOrTarget (h : state.after at_ cs = some .levelOrTarget) :
    (state = .start ∨ state = .levelOrTarget) ∧ state.parts at_ cs = [] := by
  induction cs generalizing state at_ with
  | nil =>
      cases h
      exact ⟨.inr rfl, rfl⟩
  | cons c cs ih =>
      cases hnext : state.next? at_ c with
      | none => simp [after, hnext] at h
      | some next =>
          obtain ⟨hname, hparts⟩ := ih (by simpa [after, hnext] using h)
          have hpart : (state = .start ∨ state = .levelOrTarget) ∧ state.part? at_ c = none := by
            cases state with
            | start => exact ⟨.inl rfl, rfl⟩
            | levelOrTarget =>
                simp only [next?] at hnext
                simp only [part?]
                grind
            | span | field | fields | target | level =>
                simp only [next?] at hnext
                grind
          exact ⟨hpart.1, by simp [parts, hnext, hparts, hpart.2]⟩

end ScanState

/-! ## One character -/

namespace Reading

variable {α β : Type}

@[simp] theorem pure_eq (a : α) : (pure a : Reading α) = .accepted a := rfl

@[simp] theorem accepted_bind (a : α) (f : α → Reading β) : (Reading.accepted a >>= f) = f a := rfl

@[simp] theorem rejected_bind (fault : Fault) (f : α → Reading β) :
    (Reading.rejected fault >>= f) = .rejected fault := rfl

@[simp] theorem severed_bind (cut : Text.Severed) (f : α → Reading β) :
    (Reading.severed cut >>= f) = .severed cut := rfl

end Reading

namespace Directive

/-- A directive with the part that is cut out at a character. -/
def put (d : Directive) (state : ScanState) (c : Char) (part : List Char) : Directive :=
  match state with
  | .levelOrTarget => { d with target := some (String.ofList part) }
  | .span _ => { d with span := if c = '{' ∧ part = [] then none else some (String.ofList part) }
  | .field _ => { d with fields := d.fields ++ [String.ofList part] }
  | .start | .fields | .target | .level _ => d

/-- Where the scan stands after a character, or what is wrong there. -/
def went (d : Directive) : Option ScanState → Reading (Directive × ScanState)
  | some state => .accepted (d, state)
  | none => .rejected .malformed

variable {text : List Char} {d : Directive} {state : ScanState} {at_ start stop : Nat} {c : Char}

theorem scanChar_of_no_part (h : state.part? at_ c = none) :
    scanChar text d state at_ c = went d (state.next? at_ c) := by
  cases state with
  | start | fields | target | level =>
      simp only [scanChar, ScanState.next?]
      grind [went]
  | levelOrTarget | span | field =>
      simp only [scanChar, ScanState.next?, ScanState.part?] at h ⊢
      grind [went]

theorem scanChar_of_severed {cut : Text.Severed} (h : state.part? at_ c = some (start, stop))
    (hslice : Text.slice text start stop = .error cut) : scanChar text d state at_ c = .severed cut := by
  cases state with
  | start | fields | target | level => cases h
  | levelOrTarget | span =>
      simp only [ScanState.part?, Option.ite_none_right_eq_some, Option.some.injEq, Prod.mk.injEq] at h
      obtain ⟨rfl | rfl, rfl, rfl⟩ := h
      · simp [scanChar, hslice, Reading.ofSlice]
      · simp [scanChar, hslice, Reading.ofSlice]
  | field =>
      simp only [ScanState.part?, Option.ite_none_right_eq_some, Option.some.injEq, Prod.mk.injEq] at h
      obtain ⟨rfl, rfl, rfl⟩ := h
      simp [scanChar, hslice, Reading.ofSlice]

theorem scanChar_of_part {part : List Char} (h : state.part? at_ c = some (start, stop))
    (hslice : Text.slice text start stop = .ok part) (hempty : part = [] ↔ start = stop) :
    scanChar text d state at_ c = went (d.put state c part) (state.next? at_ c) := by
  cases state with
  | start | fields | target | level => cases h
  | levelOrTarget | span =>
      simp only [ScanState.part?, Option.ite_none_right_eq_some, Option.some.injEq, Prod.mk.injEq] at h
      obtain ⟨rfl | rfl, rfl, rfl⟩ := h
      · simp [scanChar, hslice, Reading.ofSlice, went, put, ScanState.next?]
      · simp [scanChar, hslice, Reading.ofSlice, went, put, ScanState.next?]
  | field first =>
      simp only [ScanState.part?, Option.ite_none_right_eq_some, Option.some.injEq, Prod.mk.injEq] at h
      obtain ⟨rfl, rfl, rfl⟩ := h
      by_cases hpart : part = []
      · obtain rfl := hempty.mp hpart
        simp [scanChar, hslice, Reading.ofSlice, went, ScanState.next?, hpart]
      · have hne : first ≠ at_ := fun heq => hpart (hempty.mpr heq)
        simp [scanChar, hslice, Reading.ofSlice, went, put, ScanState.next?, hpart, hne]

/-! ## All characters -/

/-- What the scan of some characters comes to. -/
inductive Scanned (text : List Char) (state : ScanState) (at_ : Nat) (cs : List Char) :
    Reading (Directive × ScanState) → Prop where
  | ended {d state'} (hparts : ∀ part ∈ state.parts at_ cs, Whole text part)
      (hafter : state.after at_ cs = some state') : Scanned text state at_ cs (.accepted (d, state'))
  | refused (hparts : ∀ part ∈ state.parts at_ cs, Whole text part) (hafter : state.after at_ cs = none) :
      Scanned text state at_ cs (.rejected .malformed)
  | severed {cut part} (htext : cut.text = text) (hreal : cut.Real) (hpart : part ∈ state.parts at_ cs)
      (hnot : ¬ Whole text part) : Scanned text state at_ cs (.severed cut)

variable {cs : List Char} {state' : ScanState}

theorem scan_cons (text : List Char) (d : Directive) (state : ScanState) (at_ : Nat) (c : Char) (cs : List Char) :
    scan text d state at_ (c :: cs) =
      scanChar text d state at_ c >>= fun x => scan text x.1 x.2 (at_ + c.utf8Size) cs := rfl

theorem Scanned.cons {r : Reading (Directive × ScanState)}
    (hpart : ∀ part, state.part? at_ c = some part → Whole text part) (hnext : state.next? at_ c = some state')
    (h : Scanned text state' (at_ + c.utf8Size) cs r) : Scanned text state at_ (c :: cs) r := by
  have hparts : (∀ part ∈ state'.parts (at_ + c.utf8Size) cs, Whole text part) →
      ∀ part ∈ state.parts at_ (c :: cs), Whole text part := by
    intro hrest part hmem
    rcases ScanState.mem_parts_cons.mp hmem with hnow | ⟨next, hsame, hlater⟩
    · exact hpart part hnow
    · cases hnext.symm.trans hsame
      exact hrest part hlater
  have hafter : state.after at_ (c :: cs) = state'.after (at_ + c.utf8Size) cs := by
    rw [ScanState.after, hnext]
  cases h with
  | ended hrest hend => exact .ended (hparts hrest) (hafter.trans hend)
  | refused hrest hend => exact .refused (hparts hrest) (hafter.trans hend)
  | severed htext hreal hmem hnot =>
      exact .severed htext hreal (ScanState.mem_parts_cons.mpr (.inr ⟨state', hnext, hmem⟩)) hnot

theorem Scanned.went (hpart : ∀ part, state.part? at_ c = some part → Whole text part)
    (ih : ∀ state', state.next? at_ c = some state' →
      ∀ d, Scanned text state' (at_ + c.utf8Size) cs (scan text d state' (at_ + c.utf8Size) cs)) (d : Directive) :
    Scanned text state at_ (c :: cs)
      (Directive.went d (state.next? at_ c) >>= fun x => scan text x.1 x.2 (at_ + c.utf8Size) cs) := by
  cases hnext : state.next? at_ c with
  | some state' => exact (ih state' hnext d).cons hpart hnext
  | none =>
      refine .refused (fun part hmem => ?_) (by rw [ScanState.after, hnext])
      rcases ScanState.mem_parts_cons.mp hmem with hnow | ⟨next, hsome, -⟩
      · exact hpart part hnow
      · cases hnext.symm.trans hsome

/-- The text has at least the bytes that were passed and that are to come. -/
theorem scanned {passed : List Char} (hbegun : state.Begun passed) (hsize : size (passed ++ cs) ≤ size text)
    (d : Directive) : Scanned text state (size passed) cs (scan text d state (size passed) cs) := by
  -- The characters are done one by one; that a part under way began at one of them keeps its ends in order.
  induction cs generalizing d state passed with
  | nil => exact .ended nofun rfl
  | cons c cs ih =>
      have happend : passed ++ c :: cs = (passed ++ [c]) ++ cs := by simp
      have hnow : size passed + c.utf8Size = size (passed ++ [c]) := by simp
      rw [happend] at hsize
      have hrest : ∀ state', state.next? (size passed) c = some state' →
          ∀ d, Scanned text state' (size passed + c.utf8Size) cs (scan text d state' (size passed + c.utf8Size) cs) := by
        intro state' hnext
        rw [hnow]
        exact ih (hbegun.next hnext) hsize
      rw [scan_cons]
      cases hpart : state.part? (size passed) c with
      | none =>
          rw [scanChar_of_no_part hpart]
          exact Scanned.went (by simp [hpart]) hrest d
      | some part =>
          obtain ⟨start, stop⟩ := part
          obtain ⟨hstart, rfl⟩ : Boundary passed start ∧ stop = size passed := hbegun.part hpart
          have hstop : size passed ≤ size text := by
            simp only [Text.size_append] at hsize
            omega
          have hsliced := Text.sliced hstart.le_size hstop
          cases hslice : Text.slice text start (size passed) with
          | ok part =>
              rw [hslice] at hsliced
              have hwhole : ∀ part, state.part? (size passed) c = some part → Whole text part := by
                intro part hmem
                cases hpart.symm.trans hmem
                exact hsliced.boundaries
              rw [scanChar_of_part hpart hslice hsliced.empty_iff]
              exact Scanned.went hwhole hrest (d.put state c part)
          | error cut =>
              rw [hslice] at hsliced
              obtain ⟨htext, hreal, hnot⟩ := hsliced.severs
              have hmem : (start, size passed) ∈ state.parts (size passed) (c :: cs) :=
                ScanState.mem_parts_cons.mpr (.inl hpart)
              rw [scanChar_of_severed hpart hslice]
              exact .severed htext hreal hmem hnot

/-- A name changes nothing until its end. -/
theorem scan_name (h : state.after at_ cs = some .levelOrTarget) (text : List Char) (d : Directive) :
    scan text d state at_ cs = .accepted (d, .levelOrTarget) := by
  induction cs generalizing state at_ with
  | nil =>
      cases h
      rfl
  | cons c cs ih =>
      obtain ⟨-, hparts⟩ := ScanState.parts_of_levelOrTarget h
      have hpart : state.part? at_ c = none := by
        rw [Option.eq_none_iff_forall_ne_some]
        intro part hsome
        exact List.ne_nil_of_mem (ScanState.mem_parts_cons.mpr (.inl hsome)) hparts
      cases hnext : state.next? at_ c with
      | none => simp [ScanState.after, hnext] at h
      | some next =>
          rw [scan_cons, scanChar_of_no_part hpart, hnext]
          exact ih (by simpa [ScanState.after, hnext] using h)

/-- What is written after a text does not matter to the scan if no character of the text is severed. -/
theorem scan_append {passed : List Char} (hbegun : state.Begun passed)
    (hparts : ∀ part ∈ state.parts (size passed) cs, Whole text part) (more : List Char) (d : Directive) :
    scan (text ++ more) d state (size passed) cs = scan text d state (size passed) cs := by
  induction cs generalizing d state passed with
  | nil => rfl
  | cons c cs ih =>
      have hnow : size passed + c.utf8Size = size (passed ++ [c]) := by simp
      have hrest : ∀ d, (Directive.went d (state.next? (size passed) c) >>= fun x =>
            scan (text ++ more) x.1 x.2 (size passed + c.utf8Size) cs) =
          Directive.went d (state.next? (size passed) c) >>= fun x =>
            scan text x.1 x.2 (size passed + c.utf8Size) cs := by
        intro d
        cases hnext : state.next? (size passed) c with
        | none => rfl
        | some next =>
            rw [hnow]
            exact ih (hbegun.next hnext) (fun part hpart => hparts part (ScanState.mem_parts_cons.mpr
              (.inr ⟨next, hnext, by rwa [hnow]⟩))) d
      rw [scan_cons, scan_cons]
      cases hpart : state.part? (size passed) c with
      | none =>
          rw [scanChar_of_no_part hpart, scanChar_of_no_part hpart]
          exact hrest d
      | some part =>
          obtain ⟨start, stop⟩ := part
          obtain ⟨hbegin, rfl⟩ : Boundary passed start ∧ stop = size passed := hbegun.part hpart
          obtain ⟨hstart, hstop⟩ : Whole text (start, size passed) :=
            hparts _ (ScanState.mem_parts_cons.mpr (.inl hpart))
          obtain ⟨part, hempty, hslice⟩ := Text.exists_slice hbegin.le_size hstart hstop
          rw [scanChar_of_part hpart (hslice more) hempty,
            scanChar_of_part hpart (by simpa using hslice []) hempty]
          exact hrest (d.put state c part)

end Directive

end Permit.Log
