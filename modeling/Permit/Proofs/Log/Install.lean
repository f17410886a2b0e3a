import Permit.Log.Subscriber
import Permit.Proofs.Log.Louder

/-!
# Which settings are installed

Whatever is told in between, the first settings with a well-formed filter are installed, and all that is told from then on
is shown by them alone. Settings whose filter is malformed are refused for that, before and after, and an installation
that fails leaves the log as it was.
-/

namespace Permit.Log

variable {j : Journal} {s : Settings}

/-- The filter can be read. -/
def Settings.wellFormed (s : Settings) : Bool :=
  match s.read with
  | .accepted _ => true
  | .rejected _ | .severed _ => false

/-- What is wrong with the filter, if something is. -/
def Settings.fault? (s : Settings) : Option Fault :=
  match s.read with
  | .rejected fault => some fault
  | .accepted _ | .severed _ => none

theorem Settings.read_of_fault? {fault : Fault} (h : s.fault? = some fault) : s.read = .rejected fault := by
  unfold fault? at h
  split at h
  · cases h
    assumption
  · cases h
  · cases h

/-- What happens to a log: settings are to be installed, or something is told. -/
inductive Move where
  | install (settings : Settings)
  | tell (record : Record)

namespace Move

/-- The settings that are to be installed, in their order. -/
def installs (moves : List Move) : List Settings :=
  moves.filterMap fun | .install s => some s | .tell _ => none

def told (moves : List Move) : List Record :=
  moves.filterMap fun | .tell r => some r | .install _ => none

end Move

namespace Journal

/-- Makes the moves one after the other; gives what came of the installations. -/
def runAll (j : Journal) : List Move → List Installed × Journal
  | [] => ([], j)
  | .install s :: rest =>
      let (result, j') := j.install s
      let (results, j'') := j'.runAll rest
      (result :: results, j'')
  | .tell r :: rest => (j.record [r]).runAll rest

/-! ## One installation -/

/-- All that an installation can come to. -/
inductive Came (j : Journal) (s : Settings) : Installed × Journal → Prop where
  | installed {f} : s.read = .accepted f → j.subscriber = none →
      Came j s (.done, ⟨some ⟨s, f⟩, [initialised s.filter]⟩)
  | taken {f first} : s.read = .accepted f → j.subscriber = some first → Came j s (.failed .alreadyInstalled, j)
  | malformed {fault} : s.read = .rejected fault → Came j s (.failed (.invalidFilter s.filter fault), j)
  | severed {cut} : s.read = .severed cut → Came j s (.severed cut, j)

theorem came (j : Journal) (s : Settings) : j.Came s (j.install s) := by
  unfold install
  split
  · exact .severed ‹_›
  · exact .malformed ‹_›
  · split
    · exact .taken ‹_› ‹_›
    · exact .installed ‹_› ‹_›

theorem install_of_ne_done (h : (j.install s).1 ≠ .done) : (j.install s).2 = j := by
  have hcame := j.came s
  generalize j.install s = x at h hcame ⊢
  cases hcame with
  | installed => exact absurd rfl h
  | taken | malformed | severed => rfl

theorem install_eq_invalid_iff {text : String} {fault : Fault} :
    (j.install s).1 = .failed (.invalidFilter text fault) ↔ text = s.filter ∧ s.read = .rejected fault := by
  have hcame := j.came s
  generalize j.install s = x at hcame ⊢
  cases hcame with
  | installed hread | taken hread | severed hread => simp [hread]
  | malformed hread =>
      simp only [Installed.failed.injEq, InstallError.invalidFilter.injEq, hread, Reading.rejected.injEq]
      exact and_congr_left' eq_comm

theorem install_of_wellFormed (h : s.wellFormed = true) (j : Journal) :
    (j.install s).1 = if j.subscriber.isSome then .failed .alreadyInstalled else .done := by
  have hcame := j.came s
  generalize j.install s = x at hcame ⊢
  cases hcame with
  | installed _ hfree => simp [hfree]
  | taken _ hfirst => simp [hfirst]
  | malformed hread | severed hread => simp [Settings.wellFormed, hread] at h

theorem install_ne_done (h : j.subscriber.isSome = true ∨ s.wellFormed = false) : (j.install s).1 ≠ .done := by
  have hcame := j.came s
  generalize j.install s = x at hcame ⊢
  cases hcame with
  | installed hread hfree => simp [hfree, Settings.wellFormed, hread] at h
  | taken | malformed | severed => simp

theorem isSome_install (j : Journal) (s : Settings) :
    (j.install s).2.subscriber.isSome = (j.subscriber.isSome || s.wellFormed) := by
  have hcame := j.came s
  generalize j.install s = x at hcame ⊢
  cases hcame with
  | installed hread hfree => simp [Settings.wellFormed, hread]
  | taken hread hfirst => simp [hfirst]
  | malformed hread | severed hread => simp [Settings.wellFormed, hread]

theorem subscriber_record (j : Journal) (records : List Record) : (j.record records).subscriber = j.subscriber := by
  unfold record
  split
  · rfl
  · rfl

/-! ## Many moves -/

theorem runAll_install (j : Journal) (s : Settings) (rest : List Move) :
    j.runAll (.install s :: rest) =
      ((j.install s).1 :: ((j.install s).2.runAll rest).1, ((j.install s).2.runAll rest).2) := rfl

theorem runAll_tell (j : Journal) (r : Record) (rest : List Move) :
    j.runAll (.tell r :: rest) = (j.record [r]).runAll rest := rfl

theorem runAll_append (j : Journal) (before after : List Move) :
    j.runAll (before ++ after) =
      ((j.runAll before).1 ++ ((j.runAll before).2.runAll after).1, ((j.runAll before).2.runAll after).2) := by
  induction before generalizing j with
  | nil => rfl
  | cons move before ih =>
      cases move with
      | install s => simp only [List.cons_append, runAll_install, ih]
      | tell r => simp only [List.cons_append, runAll_tell, ih]

theorem length_runAll (j : Journal) (moves : List Move) : (j.runAll moves).1.length = (Move.installs moves).length := by
  induction moves generalizing j with
  | nil => rfl
  | cons move rest ih =>
      cases move with
      | install s => exact congrArg (· + 1) (ih (j.install s).2)
      | tell r => exact ih (j.record [r])

theorem runAll_installs_eq (j : Journal) (all : List Settings) : j.runAll (all.map .install) = j.installAll all := by
  induction all generalizing j with
  | nil => rfl
  | cons s rest ih =>
      rw [List.map_cons, runAll_install, ih]
      rfl

/-- A subscriber is there after some moves if it was there before them, or one of them installed it. -/
theorem isSome_runAll (j : Journal) (moves : List Move) :
    (j.runAll moves).2.subscriber.isSome =
      (j.subscriber.isSome || (Move.installs moves).any Settings.wellFormed) := by
  induction moves generalizing j with
  | nil => simp [runAll, Move.installs]
  | cons move rest ih =>
      cases move with
      | install s =>
          have hinstalls : Move.installs (.install s :: rest) = s :: Move.installs rest := rfl
          rw [runAll_install, ih, isSome_install, hinstalls, List.any_cons, Bool.or_assoc]
      | tell r =>
          rw [runAll_tell, ih, subscriber_record]
          rfl

/-- Once a subscriber is there the log is its own: nothing is added but what is told. -/
theorem runAll_of_subscriber {first : Subscriber} (h : j.subscriber = some first) (moves : List Move) :
    (j.runAll moves).2 = ⟨some first, j.records ++ Move.told moves⟩ := by
  induction moves generalizing j with
  | nil => simp [runAll, Move.told, ← h]
  | cons move rest ih =>
      cases move with
      | install s =>
          have hstays : (j.install s).2 = j := install_of_ne_done (install_ne_done (.inl (by simp [h])))
          rw [runAll_install, hstays, ih h]
          rfl
      | tell r =>
          have hrecord : j.record [r] = ⟨some first, j.records ++ [r]⟩ := by rw [record, h]
          rw [runAll_tell, hrecord, ih rfl, List.append_assoc]
          rfl

/-- Without a subscriber what is told is lost. -/
theorem runAll_of_malformed (h : (Move.installs moves).any Settings.wellFormed = false) :
    (fresh.runAll moves).2 = fresh := by
  induction moves with
  | nil => rfl
  | cons move rest ih =>
      cases move with
      | install s =>
          have hinstalls : Move.installs (.install s :: rest) = s :: Move.installs rest := rfl
          rw [hinstalls, List.any_cons, Bool.or_eq_false_iff] at h
          have hstays : (fresh.install s).2 = fresh := install_of_ne_done (install_ne_done (.inr h.1))
          rw [runAll_install, hstays]
          exact ih h.2
      | tell r => exact ih h

theorem getElem?_runAll (j : Journal) (before after : List Move) (s : Settings) :
    (j.runAll (before ++ .install s :: after)).1[(Move.installs before).length]? =
      some ((j.runAll before).2.install s).1 := by
  have hlength := j.length_runAll before
  rw [runAll_append, List.getElem?_append_right (Nat.le_of_eq hlength), hlength, Nat.sub_self, runAll_install,
    List.getElem?_cons_zero]

/-- An installation that fails might as well not have been tried. -/
theorem runAll_of_ne_done {before : List Move} (h : ((j.runAll before).2.install s).1 ≠ .done) (after : List Move) :
    (j.runAll (before ++ after)) =
      ((j.runAll (before ++ .install s :: after)).1.eraseIdx (Move.installs before).length,
        (j.runAll (before ++ .install s :: after)).2) := by
  have hlength := j.length_runAll before
  rw [runAll_append, runAll_append, runAll_install, install_of_ne_done h,
    List.eraseIdx_append_of_length_le (Nat.le_of_eq hlength), hlength, Nat.sub_self]
  rfl

theorem runAll_first {before after : List Move} {f : Filter} (h : (Move.installs before).any Settings.wellFormed = false)
    (hs : s.read = .accepted f) :
    (fresh.runAll (before ++ .install s :: after)).2 = ⟨some ⟨s, f⟩, initialised s.filter :: Move.told after⟩ := by
  have hinstall : fresh.install s = (.done, ⟨some ⟨s, f⟩, [initialised s.filter]⟩) := by
    rw [install, hs]
    rfl
  rw [runAll_append, runAll_of_malformed h, runAll_install, hinstall]
  exact runAll_of_subscriber rfl after

/-! ## Settings alone -/

theorem installs_map (all : List Settings) : Move.installs (all.map .install) = all := by
  rw [Move.installs, List.filterMap_map]
  exact List.filterMap_some

theorem told_map (all : List Settings) : Move.told (all.map .install) = [] := by
  rw [Move.told, List.filterMap_map]
  exact List.filterMap_eq_nil_iff.mpr fun _ _ => rfl

theorem installAll_of_malformed {all : List Settings} (h : all.any Settings.wellFormed = false) :
    (fresh.installAll all).2 = fresh := by
  rw [← runAll_installs_eq]
  exact runAll_of_malformed (by rwa [installs_map])

theorem installAll_first {before after : List Settings} {f : Filter} (h : before.any Settings.wellFormed = false)
    (hs : s.read = .accepted f) :
    (fresh.installAll (before ++ s :: after)).2 = ⟨some ⟨s, f⟩, [initialised s.filter]⟩ := by
  rw [← runAll_installs_eq, List.map_append, List.map_cons, runAll_first (by rwa [installs_map]) hs, told_map]

/-- The law of installation, for installations and records in any order. Settings are refused for their filter exactly if
it is malformed. Of the others the first are installed, and all later ones find them there. What fails changes nothing,
and the log is what the first well-formed settings show of what is told after them. -/
theorem runAll_installs (moves : List Move) (time : String) :
    let run := fresh.runAll moves
    (∀ before s after, moves = before ++ .install s :: after →
      let result := run.1[(Move.installs before).length]?
      (∀ text fault, result = some (.failed (.invalidFilter text fault)) ↔
        text = s.filter ∧ s.read = .rejected fault) ∧
      (s.wellFormed = true → result =
        some (if (Move.installs before).any Settings.wellFormed then .failed .alreadyInstalled else .done)) ∧
      (result ≠ some .done →
        fresh.runAll (before ++ after) = (run.1.eraseIdx (Move.installs before).length, run.2))) ∧
    (∀ before s after f, moves = before ++ .install s :: after →
      (Move.installs before).any Settings.wellFormed = false → s.read = .accepted f →
      run.2.log time = String.join
        (((initialised s.filter :: Move.told after).filter fun r => f.enables r.level r.target r.fieldNames).map
          fun r => r.line ⟨s.withTarget, s.ansi⟩ time ++ "\n")) ∧
    ((Move.installs moves).any Settings.wellFormed = false → run.2.log time = "") ∧
    ∀ all, moves = all.map .install → fresh.installAll all = run := by
  refine ⟨?_, ?_, ?_, ?_⟩
  · rintro before s after rfl
    simp only [getElem?_runAll, Option.some.injEq, ne_eq]
    refine ⟨fun text fault => install_eq_invalid_iff, fun hs => ?_, fun h => runAll_of_ne_done h after⟩
    rw [install_of_wellFormed hs, isSome_runAll]
    rfl
  · rintro before s after f rfl hbefore hs
    rw [runAll_first hbefore hs]
    simp only [log, Subscriber.lines, List.map_map]
    rfl
  · intro h
    rw [runAll_of_malformed h]
    rfl
  · rintro all rfl
    exact (runAll_installs_eq fresh all).symm

/-- Something malformed is refused on both sides of the settings that are installed, and those that come too late change
neither the filter nor the style. -/
theorem runAll_installs_second :
    let bad := Settings.ofFilter "x=loud"
    let first := { Settings.ofFilter "warn" with ansi := false }
    let error : Record := ⟨.error, "x", "broken", []⟩
    let debug : Record := ⟨.debug, "x", "noise", []⟩
    let run := fresh.runAll
      [.tell error, .install bad, .install first, .tell error, .install (.ofFilter "trace"), .install bad, .tell debug]
    run.1[0]? = some (.failed (.invalidFilter "x=loud" .badLevel)) ∧ run.1[1]? = some .done ∧
      run.1[2]? = some (.failed .alreadyInstalled) ∧
      run.1[3]? = some (.failed (.invalidFilter "x=loud" .badLevel)) ∧
      run.2.log "now" = "now ERROR broken\n" := by
  intro bad first error debug run
  have hbad : bad.read = .rejected .badLevel := Settings.read_of_fault? (by decide +kernel)
  have hfirst : first.read = .accepted (.bare (.upTo .warn)) := Filter.read_name (.upTo .warn)
  have hwell : first.wellFormed = true := by simp only [Settings.wellFormed, hfirst]
  have hnone : (Move.installs [.tell error, .install bad]).any Settings.wellFormed = false := by decide +kernel
  have hsome :
      (Move.installs [.tell error, .install bad, .install first, .tell error]).any Settings.wellFormed = true := by
    decide +kernel
  obtain ⟨hresult, hlog, -, -⟩ := runAll_installs
    [.tell error, .install bad, .install first, .tell error, .install (.ofFilter "trace"), .install bad, .tell debug]
    "now"
  refine ⟨?_, ?_, ?_, ?_, ?_⟩
  · exact ((hresult [.tell error] bad _ rfl).1 _ _).mpr ⟨rfl, hbad⟩
  · have h := (hresult [.tell error, .install bad] first _ rfl).2.1 hwell
    rwa [hnone] at h
  · have h := (hresult [.tell error, .install bad, .install first, .tell error] (.ofFilter "trace") _ rfl).2.1
      (by decide +kernel)
    rwa [hsome] at h
  · exact ((hresult [.tell error, .install bad, .install first, .tell error, .install (.ofFilter "trace")] bad _
      rfl).1 _ _).mpr ⟨rfl, hbad⟩
  · rw [hlog [.tell error, .install bad] first _ _ rfl hnone hfirst]
    decide +kernel

end Journal

end Permit.Log
