import Permit.Tour

/-!
# What the filter changes in the tour

A filter shows all reports of the tour or none of them. If it shows them, the tour makes the calls that it makes with
everything shown; if not, it goes as if it had no reports. It comes to its end in any case, and for the rest the filter
only says which lines of the log are shown.
-/

namespace Permit.Tour

open Log (Filter Journal Record Settings Subscriber)

variable {s s' : Subscriber} {r r' : List Record} {v v' : Visit}

/-! ## Reports -/

/-- Whether reports are shown: their messages do not matter for that. -/
def reports (s : Subscriber) : Bool := s.filter.enables .info "basic_permissions" ["message", "allowed"]

def Step.isReport : Step → Bool
  | .report .. => true
  | _ => false

def Step.acts (shown : Bool) (st : Step) : Bool := shown || !st.isReport

def taken (shown : Bool) : List Step := steps.filter (Step.acts shown)

theorem shows_eq_reports (h : v.host.journal.subscriber = some s) (message : String) : v.shows message = reports s := by
  rw [Visit.shows, h]
  rfl

/-! ## Two walks with different logs -/

namespace Visit

theorem call_eq (v : Visit) (c : Call) :
    v.call c =
      let out := v.host.family.perform 0 c
      (out.1.result, ⟨⟨v.host.journal.record (Host.records out.1.trace), out.2⟩, v.trace ++ out.1.trace, v.refused⟩) := rfl

/-- Only the logs of two visits differ: in their subscribers, and in what was told before the visits began. -/
structure Alike (s s' : Subscriber) (r r' : List Record) (v v' : Visit) : Prop where
  family : v.host.family = v'.host.family
  trace : v.trace = v'.trace
  refused : v.refused = v'.refused
  journals : ∃ told, v.host.journal = ⟨some s, r ++ told⟩ ∧ v'.host.journal = ⟨some s', r' ++ told⟩

namespace Alike

theorem subscriber (h : Alike s s' r r' v v') :
    v.host.journal.subscriber = some s ∧ v'.host.journal.subscriber = some s' := by
  obtain ⟨told, hj, hj'⟩ := h.journals
  rw [hj, hj']
  exact ⟨rfl, rfl⟩

theorem record (h : Alike s s' r r' v v') (records : List Record) :
    ∃ told, v.host.journal.record records = ⟨some s, r ++ told⟩ ∧
      v'.host.journal.record records = ⟨some s', r' ++ told⟩ := by
  obtain ⟨told, hj, hj'⟩ := h.journals
  refine ⟨told ++ records, ?_, ?_⟩
  · rw [hj, Journal.record, List.append_assoc]
  · rw [hj', Journal.record, List.append_assoc]

theorem tell (h : Alike s s' r r' v v') (x : Record) : Alike s s' r r' (v.tell x) (v'.tell x) where
  family := h.family
  trace := h.trace
  refused := h.refused
  journals := h.record [x]

theorem refuse (h : Alike s s' r r' v v') (refusal : Refusal) :
    Alike s s' r r' { v with refused := some refusal } { v' with refused := some refusal } where
  family := h.family
  trace := h.trace
  refused := rfl
  journals := h.journals

theorem call (h : Alike s s' r r' v v') (c : Call) :
    ∃ o w w', v.call c = (o, w) ∧ v'.call c = (o, w') ∧ Alike s s' r r' w w' := by
  have hsame : v'.host.family.perform 0 c = v.host.family.perform 0 c := by rw [h.family]
  have hcall' := call_eq v' c
  rw [hsame] at hcall'
  exact ⟨_, _, _, call_eq v c, hcall', rfl, by rw [h.trace], h.refused, h.record _⟩

/-- A step that is no report, or a report that both logs show. -/
theorem step {st : Step} (h : Alike s s' r r' v v') (hst : st.isReport = true → reports s = true ∧ reports s' = true) :
    Alike s s' r r' (v.step st) (v'.step st) := by
  cases st with
  | say message => exact h.tell (saying message)
  | report message viewer action subject =>
      obtain ⟨hshown, hshown'⟩ := hst rfl
      obtain ⟨hsub, hsub'⟩ := h.subscriber
      obtain ⟨o, w, w', hcall, hcall', hw⟩ := h.call (.evaluate viewer action subject)
      simp only [Visit.step, shows_eq_reports hsub, shows_eq_reports hsub', hshown, hshown', hcall, hcall']
      match o with
      | .returned (.ok (.allowed b)) => exact hw.tell (reporting message b)
      | .returned (.ok .changed) => exact hw
      | .returned (.error refusal) => exact hw.refuse refusal
      | .panicked message => exact hw
      | .exhausted => exact hw
  | copy type source actions =>
      have hcopy : v'.host.family.copyCall 0 (type, source) type (.many actions) =
          v.host.family.copyCall 0 (type, source) type (.many actions) := by rw [h.family]
      obtain ⟨o, w, w', hcall, hcall', hw⟩ := h.call (v.host.family.copyCall 0 (type, source) type (.many actions))
      rw [Visit.step, Visit.step, hcopy, hcall, hcall']
      exact hw
  | undefine type actions =>
      obtain ⟨o, w, w', hcall, hcall', hw⟩ := h.call (.undefine type (.many actions))
      simp only [Visit.step, hcall, hcall']
      match o with
      | .returned (.error refusal) => exact hw.refuse refusal
      | .returned (.ok reply) => exact hw
      | .panicked message => exact hw
      | .exhausted => exact hw
  | complain message c =>
      obtain ⟨o, w, w', hcall, hcall', hw⟩ := h.call c
      simp only [Visit.step, hcall, hcall']
      match o with
      | .returned (.error refusal) => exact hw.tell (complaining message refusal.message)
      | .returned (.ok reply) => exact hw
      | .panicked message => exact hw
      | .exhausted => exact hw

/-- With a log that does not show reports the walk goes as another without them. -/
theorem walk (h : Alike s s' r r' v v') (hv : v.refused = none) (hreports : reports s' = true) (sts : List Step) :
    Alike s s' r r' (v.walk sts) (v'.walk (sts.filter (Step.acts (reports s)))) := by
  induction sts generalizing v v' with
  | nil => exact h
  | cons st sts ih =>
      by_cases hst : st.acts (reports s) = true
      · have hstep : Alike s s' r r' (v.step st) (v'.step st) := by
          refine h.step fun hreport => ⟨?_, hreports⟩
          simpa [Step.acts, hreport] using hst
        rw [List.filter_cons_of_pos hst, Visit.walk, Visit.walk, ← hstep.refused]
        cases hrefused : (v.step st).refused with
        | none => exact ih hstep hrefused
        | some refusal => exact hstep
      -- A report that is not shown leaves the visit as it was, and the other walk does not have it.
      · have hidden : reports s = false ∧ st.isReport = true := by simpa [Step.acts] using hst
        have hstay : v.step st = v := by
          cases st with
          | report message viewer action subject =>
              rw [Visit.step, shows_eq_reports h.subscriber.1, hidden.1]
              rfl
          | say | copy | undefine | complain => cases hidden.2
        rw [List.filter_cons_of_neg hst, Visit.walk, hstay, hv]
        exact ih h hv

end Alike

end Visit

/-! ## The tour -/

/-- The subscriber that shows everything. -/
def loud : Subscriber := ⟨.ofFilter "trace", ⟨[⟨none, none, [], .upTo .trace⟩]⟩⟩

theorem read_trace : loud.settings.read = .accepted loud.filter := rfl

/-- The tour by some of its steps, as it goes when everything is shown. -/
def journey (sts : List Step) : Visit := Visit.walk ⟨⟨⟨some loud, []⟩, .of ⟨Blog.table⟩⟩, [], none⟩ sts

theorem visit_alike (s : Subscriber) (r : List Record) :
    Visit.Alike s loud r [] (visit ⟨some s, r⟩) (journey (taken (reports s))) := by
  have hstart : Visit.Alike s loud r [] ⟨⟨⟨some s, r⟩, .of ⟨Blog.table⟩⟩, [], none⟩
      ⟨⟨⟨some loud, []⟩, .of ⟨Blog.table⟩⟩, [], none⟩ :=
    ⟨rfl, rfl, rfl, [], by rw [List.append_nil], rfl⟩
  exact hstart.walk rfl rfl steps

theorem journey_refused (shown : Bool) : (journey (taken shown)).refused = none := by
  cases shown with
  | true => rfl
  | false => rfl

theorem journey_events (shown : Bool) : (journey (taken shown)).trace.events.length = if shown then 10 else 4 := by
  cases shown with
  | true => rfl
  | false => rfl

theorem taken_of_shown : taken true = steps := List.filter_eq_self.mpr fun _ _ => rfl

/-- The tour ends well under every filter that is well formed. It makes the calls, and tells the records, of the steps
that act when everything is shown, and its log has a line for each of these records that the filter shows. So its calls
are those of the whole tour exactly if the filter shows reports. -/
theorem run_of_accepted {filter ansi : Option String} {f : Filter}
    (h : (Settings.ofEnvironment filter ansi).read = .accepted f) (time : String) :
    let s : Subscriber := ⟨.ofEnvironment filter ansi, f⟩
    let first := Journal.initialised s.settings.filter
    let acting := journey (taken (reports s))
    run filter ansi time =
      ⟨0, String.join ((s.lines time (first :: acting.host.journal.records)).map (· ++ "\n")), ""⟩ ∧
    (visit ⟨some s, [first]⟩).host.journal.records = first :: acting.host.journal.records ∧
    (visit ⟨some s, [first]⟩).trace = acting.trace ∧
    ((visit ⟨some s, [first]⟩).trace = (journey steps).trace ↔ reports s = true) := by
  intro s first acting
  have halike := visit_alike s [first]
  obtain ⟨told, hjournal, hjourney⟩ := halike.journals
  have htold : acting.host.journal.records = told := congrArg Journal.records hjourney
  have hrefused : (visit ⟨some s, [first]⟩).refused = none := halike.refused.trans (journey_refused _)
  have hinstall : Journal.fresh.install (Settings.ofEnvironment filter ansi) = (.done, ⟨some s, [first]⟩) := by
    rw [Journal.install, h]
    rfl
  refine ⟨?_, ?_, halike.trace, ?_⟩
  · rw [run, hinstall]
    simp only [hrefused, hjournal, htold]
    rfl
  · rw [hjournal, htold]
    rfl
  · rw [halike.trace, ← taken_of_shown]
    constructor
    · intro hsame
      -- Traces hold predicates, so it is by their events that they are told apart.
      have hevents := congrArg (List.length ∘ Trace.events) hsame
      simp only [Function.comp_apply, journey_events] at hevents
      cases hshown : reports s with
      | true => rfl
      | false => simp [hshown] at hevents
    · intro hshown
      rw [hshown]

/-- A filter that hides the reports hides the checks in them from the rest of the log as well. -/
theorem run_of_accepted_policy :
    run (some "warden_policy=debug") (some "0") "TS" =
      ⟨0,
        "TS DEBUG defining policy rule type_name=post actions=2 rule=predicate\n" ++
        "TS DEBUG undefined policy rules type_name=\"post\" removed=2 requested=2\n" ++
        "TS  WARN predicate rule failed type_name=\"post\" action=\"edit\" " ++
          "error=cannot read property `authorId` of undefined\n" ++
        "TS  WARN permission check against unknown type type_name=\"tweet\" action=\"create\"\n", ""⟩ := by
  have hread : (Settings.ofEnvironment (some "warden_policy=debug") (some "0")).read =
      .accepted ⟨[⟨some "warden_policy", none, [], .upTo .debug⟩]⟩ := rfl
  obtain ⟨hrun, -, -, -⟩ := run_of_accepted hread "TS"
  rw [hrun]
  decide +kernel

/-- The filter does not only say which lines are shown: six decisions that it would show are never made. -/
theorem visit_depends_on_filter :
    let quiet : Subscriber :=
      ⟨.ofEnvironment (some "warden_policy=debug") (some "0"), ⟨[⟨some "warden_policy", none, [], .upTo .debug⟩]⟩⟩
    let few := visit ⟨some quiet, [Journal.initialised quiet.settings.filter]⟩
    let all := visit ⟨some loud, [Journal.initialised loud.settings.filter]⟩
    quiet.settings.read = .accepted quiet.filter ∧ loud.settings.read = .accepted loud.filter ∧
    few.trace.events.length = 4 ∧ all.trace.events.length = 10 ∧
    few.host.journal.records.filter quiet.shows ≠ all.host.journal.records.filter quiet.shows := by
  refine ⟨rfl, read_trace, rfl, rfl, ?_⟩
  decide +kernel

end Permit.Tour
