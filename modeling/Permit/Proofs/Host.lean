import Permit.Host
import Permit.Proofs.Log.Install
import Permit.Proofs.Store.Forks

/-!
# What a log shows of a run

A subscriber watches what the stores do and takes no part in it. So a run comes to the same whatever is installed before
it, and its log is a view of what happens in it anyway: of the records of the run, those that the filter enables.
-/

namespace Permit

namespace Log.Journal

/-- The lines of the log. A line ends where its record ends, also if the text of a field goes over several rows. -/
def lines (j : Journal) (time : String) : List String :=
  match j.subscriber with
  | none => []
  | some s => s.lines time j.records

theorem log_eq_lines (j : Journal) (time : String) : j.log time = String.join ((j.lines time).map (· ++ "\n")) := by
  obtain ⟨subscriber, records⟩ := j
  cases subscriber with
  | none => rfl
  | some s => rfl

theorem record_nil (j : Journal) : j.record [] = j := by
  obtain ⟨subscriber, records⟩ := j
  cases subscriber with
  | none => rfl
  | some s => simp [record]

theorem record_append (j : Journal) (before after : List Record) :
    j.record (before ++ after) = (j.record before).record after := by
  obtain ⟨subscriber, records⟩ := j
  cases subscriber with
  | none => rfl
  | some s => simp [record]

end Log.Journal

namespace Host

open Log (Filter Journal Record Settings)

/-- What the steps with these results told. -/
def told (results : List Family.Result) : List Record := results.flatMap fun r => records r.trace

theorem runAll_cons (h : Host) (step : Family.Step) (rest : List Family.Step) :
    h.runAll (step :: rest) = ((h.step step).1 :: ((h.step step).2.runAll rest).1, ((h.step step).2.runAll rest).2) := rfl

theorem step_eq (h : Host) (step : Family.Step) :
    h.step step = ((h.family.step step).1,
      ⟨h.journal.record (records (h.family.step step).1.trace), (h.family.step step).2⟩) := rfl

/-- The family goes its own way, and the journal records what it tells. -/
theorem runAll_eq (h : Host) (steps : List Family.Step) :
    h.runAll steps = ((h.family.runAll steps).1,
      ⟨h.journal.record (told (h.family.runAll steps).1), (h.family.runAll steps).2⟩) := by
  induction steps generalizing h with
  | nil => rw [runAll, Family.runAll, told, List.flatMap_nil, Journal.record_nil]
  | cons step rest ih =>
      rw [runAll_cons, ih, step_eq, Family.runAll_cons]
      simp only [told, List.flatMap_cons, Journal.record_append]

theorem installAll_eq (h : Host) (all : List Settings) :
    h.installAll all = ((h.journal.installAll all).1, ⟨(h.journal.installAll all).2, h.family⟩) := rfl

section

variable {all before after : List Settings} {s : Settings} {f : Filter}

theorem journal_of_malformed (h : all.any Settings.wellFormed = false) (store : Store) (steps : List Family.Step) :
    (((of store).installAll all).2.runAll steps).2.journal = .fresh := by
  rw [runAll_eq, installAll_eq]
  exact congrArg (Journal.record · _) (Journal.installAll_of_malformed h)

theorem journal_first (h : before.any Settings.wellFormed = false) (hs : s.read = .accepted f) (store : Store)
    (steps : List Family.Step) :
    (((of store).installAll (before ++ s :: after)).2.runAll steps).2.journal =
      ⟨some ⟨s, f⟩, Journal.initialised s.filter :: told ((of store).runAll steps).1⟩ := by
  rw [runAll_eq, installAll_eq, runAll_eq]
  exact congrArg (Journal.record · _) (Journal.installAll_first h hs)

end

/-- Whatever was installed, a run has the results and leaves the stores that it has without a log. The log has a line for
each record that the filter enables, in the order in which they are told: for the installation, then for what happens in
the stores. Unless the filter asks for fields, level and target decide. A higher threshold for everything hides none of
the lines that a lower one shows. -/
theorem runAll_shows (store : Store) (all : List Settings) (steps : List Family.Step) (time : String) :
    let silent := (of store).runAll steps
    let run := ((of store).installAll all).2.runAll steps
    let shown (settings : Settings) (f : Filter) (records : List Record) : List String :=
      (records.filter fun r => f.enables r.level r.target r.fieldNames).map
        (Record.line ⟨settings.withTarget, settings.ansi⟩ time)
    run.1 = silent.1 ∧ run.2.family = silent.2.family ∧
    run.2.journal.log time = String.join ((run.2.journal.lines time).map (· ++ "\n")) ∧
    (all.any Settings.wellFormed = false → run.2.journal.lines time = []) ∧
    ∀ before settings after f, all = before ++ settings :: after → before.any Settings.wellFormed = false →
      settings.read = .accepted f →
      run.2.journal.lines time =
        shown settings f [⟨.debug, "warden_telemetry", "tracing initialised", [("filter", .quoted settings.filter)]⟩] ++
          shown settings f (told silent.1) ∧
      ((∀ d ∈ f.directives, d.fields = []) →
        ∀ r : Record, f.enables r.level r.target r.fieldNames = f.enables r.level r.target []) ∧
      ∀ t t' loud others, f = .bare t → loud = { settings with filter := loud.filter } → loud.read = .accepted (.bare t') →
        t.rank ≤ t'.rank →
        (shown settings f (told silent.1)).Sublist
          ((((of store).installAll (before ++ loud :: others)).2.runAll steps).2.journal.lines time) := by
  intro silent run shown
  have hlines : ∀ before settings after f, before.any Settings.wellFormed = false → settings.read = .accepted f →
      (((of store).installAll (before ++ settings :: after)).2.runAll steps).2.journal.lines time =
        shown settings f [Journal.initialised settings.filter] ++ shown settings f (told silent.1) := by
    intro before settings after f hbefore hread
    rw [journal_first hbefore hread, ← List.map_append, ← List.filter_append]
    rfl
  refine ⟨?_, ?_, Journal.log_eq_lines _ time, ?_, ?_⟩
  · simp only [run, silent, runAll_eq, installAll_eq]
  · simp only [run, silent, runAll_eq, installAll_eq]
  · intro h
    simp only [run, journal_of_malformed h]
    rfl
  · rintro before settings after f rfl hbefore hread
    refine ⟨hlines before settings after f hbefore hread, fun h r => ?_, ?_⟩
    · exact Filter.enables_of_no_fields h r.level r.target r.fieldNames []
    · rintro t t' loud others rfl hloud hread' hrank
      have hstyle : (⟨loud.withTarget, loud.ansi⟩ : Log.Style) = ⟨settings.withTarget, settings.ansi⟩ := by rw [hloud]
      have hsub : (shown settings (.bare t) (told silent.1)).Sublist (shown loud (.bare t') (told silent.1)) := by
        simp only [shown, hstyle]
        refine List.Sublist.map _ (List.monotone_filter_right _ fun r hr => ?_)
        exact (Filter.bare_quieter hrank).enables hr
      rw [hlines before loud others _ hbefore hread']
      exact hsub.trans (List.sublist_append_right _ _)

/-- A type that nobody defined is a warning, and so are all the lines that settings show which let warnings through. The
log of the louder settings has the decision too, and what was installed too late shows nothing. -/
theorem runAll_shows_warning :
    let store : Store := ⟨Table.empty.insert "post" "see" .allow⟩
    let bad := Settings.ofFilter "x=loud"
    let quiet := { Settings.ofFilter "warn" with ansi := false }
    let loud := { quiet with filter := "debug" }
    let steps : List Family.Step :=
      [.call 0 (.evaluate none "see" (.bare "post")), .fork 0, .call 1 (.evaluate none "see" (.bare "user"))]
    let warning := "now  WARN permission check against unknown type type_name=\"user\" action=\"see\""
    (((of store).installAll [bad, quiet, loud]).2.runAll steps).1 = ((of store).runAll steps).1 ∧
    (((of store).installAll [bad, quiet, loud]).2.runAll steps).2.journal.log "now" = warning ++ "\n" ∧
    [warning].Sublist ((((of store).installAll [bad, loud]).2.runAll steps).2.journal.lines "now") := by
  intro store bad quiet loud steps warning
  have hbad : [bad].any Settings.wellFormed = false := by decide +kernel
  have hquiet : quiet.read = .accepted (.bare (.upTo .warn)) := Filter.read_name (.upTo .warn)
  have hloud : loud.read = .accepted (.bare (.upTo .debug)) := Filter.read_name (.upTo .debug)
  have htold : told ((of store).runAll steps).1 =
      [⟨.debug, "warden_policy::store", "policy decision",
        [("type_name", .quoted "post"), ("action", .quoted "see"), ("rule", .plain "allow"), ("allowed", .flag true)]⟩,
        ⟨.warn, "warden_policy::store", "permission check against unknown type",
          [("type_name", .quoted "user"), ("action", .quoted "see")]⟩] := by
    decide +kernel
  obtain ⟨hsame, -, hlog, -, hshows⟩ := runAll_shows store [bad, quiet, loud] steps "now"
  obtain ⟨hlines, -, hlouder⟩ := hshows [bad] quiet [loud] _ rfl hbad hquiet
  have hsub := hlouder _ _ loud [] rfl rfl hloud (by decide)
  rw [htold] at hlines
  rw [htold, List.singleton_append] at hsub
  refine ⟨hsame, ?_, ?_⟩
  · rw [hlog, hlines]
    decide +kernel
  · convert hsub using 1
    decide +kernel

end Host

end Permit
