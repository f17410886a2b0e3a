import Permit.Proofs.Check.Below

/-!
# Failures in nested checks

A predicate that fails because a check of its own was refused fails with that refusal, perhaps within contexts. However
deep the checks nest, the refusal of the outermost tells the contexts of each level, from the outside in, and then the
chain of the failure that it began with; the levels themselves add nothing to it.
-/

namespace Permit

open Host (records)

/-! ## Scripts on their way -/

/-- A script, performed with this memory, comes to be the other script, and leaves this in the trace on its way. -/
inductive Script.Comes (ask : Asked) (cell : Nat) : Script → Memory → Trace → Script → Memory → Prop where
  | here (script m) : Comes ask cell script m [] script m
  | probe (viewer entity) {next m t script m'} : Comes ask cell next m t script m' →
      Comes ask cell (.probe viewer entity next) m (.probed viewer entity :: t) script m'
  | load {next m t script m'} : Comes ask cell (next (m cell)) m t script m' →
      Comes ask cell (.load next) m t script m'
  | save (value) {next m t script m'} : Comes ask cell next (m.set cell value) t script m' →
      Comes ask cell (.save value next) m t script m'
  | check {viewer action subject next m answer m' t u script m''} :
      ask viewer action subject m = ⟨.returned answer, m', t⟩ → Comes ask cell (next answer) m' u script m'' →
      Comes ask cell (.check viewer action subject next) m (t ++ u) script m''

theorem Script.Comes.perform {ask : Asked} {cell : Nat} {script script' : Script} {m m' : Memory} {t : Trace}
    (h : Comes ask cell script m t script' m') :
    script.perform ask cell m =
      let rest := script'.perform ask cell m'
      ⟨rest.outcome, rest.memory, t ++ rest.trace⟩ := by
  induction h with
  | here => rfl
  | probe viewer entity _ ih =>
      rw [perform_probe, ih]
      rfl
  | load _ ih => rw [perform_load, ih]
  | save value _ ih => rw [perform_save, ih]
  | check hask _ ih =>
      rw [Script.perform, Effect.bind_of_returned hask, ih]
      simp only [List.append_assoc]

/-- Once the check is refused the predicate fails with that refusal, within these contexts. -/
def Propagates (contexts : List String) (next : Answer → Script) : Prop :=
  ∀ refusal, next (.error refusal) = .finish (.error ((Failure.refused refusal).within contexts))

/-! ## Nests -/

/-- A check that is decided by a predicate, and the contexts that the predicate puts around what it fails with. -/
structure Layer where
  type : String
  action : String
  contexts : List String

def Inquiry.layer (q : Inquiry) (contexts : List String) : Layer := ⟨q.subject.typeName, q.action, contexts⟩

structure Inquiry.Asks (q : Inquiry) (t : Table) (p : Predicate) : Prop where
  viewer : Argument.checkViewer q.viewer = .ok ()
  rule : t.rule? q.subject.typeName q.action = some (.predicate p)

/-- A check and the checks below it, down to the one where a predicate fails: the outermost first, with the failure that
it all began with, and with what was told before the failure. -/
inductive Nest (t : Table) : Nat → Inquiry → List Layer → Failure → List Log.Record → Prop where
  | fails {levels q p contexts e m u} : q.Asks t p →
      (p.script q.viewer q.subject.value?).Comes (t.evaluate levels) p.cell q.memory u
        (.finish (.error (e.within contexts))) m →
      Nest t (levels + 1) q [q.layer contexts] e (records u)
  /-- The last check of the innermost predicate is one of a type that the table does not know. -/
  | unknown {levels q p contexts viewer action subject next m u} : q.Asks t p →
      (p.script q.viewer q.subject.value?).Comes (t.evaluate (levels + 1)) p.cell q.memory u
        (.check viewer action subject next) m →
      Propagates contexts next → Argument.checkViewer viewer = .ok () → t.knows subject.typeName = false →
      Nest t (levels + 2) q [q.layer contexts] (.refused (.unknownType subject.typeName))
        (records u ++ [Deed.unknown subject.typeName action])
  | propagates {levels q p contexts inner next u layers e earlier} : q.Asks t p →
      (p.script q.viewer q.subject.value?).Comes (t.evaluate levels) p.cell q.memory u
        (.check inner.viewer inner.action inner.subject next) inner.memory →
      Propagates contexts next → Nest t levels inner layers e earlier →
      Nest t (levels + 1) q (q.layer contexts :: layers) e (records u ++ earlier)

theorem Nest.viewer {t : Table} {levels : Nat} {q : Inquiry} {layers : List Layer} {e : Failure}
    {earlier : List Log.Record} (h : Nest t levels q layers e earlier) : Argument.checkViewer q.viewer = .ok () := by
  cases h with
  | fails hq | unknown hq | propagates hq => exact hq.viewer

namespace Layer

/-- The contexts of all levels, the outermost first, and then the chain of the failure. -/
def chain (layers : List Layer) (e : Failure) : List String := layers.flatMap contexts ++ e.chain

theorem chain_ne_nil (layers : List Layer) (e : Failure) : chain layers e ≠ [] :=
  List.append_ne_nil_of_right_ne_nil _ (List.cons_ne_nil e.text e.causes)

theorem chain_cons (l : Layer) (ls : List Layer) (e : Failure) : chain (l :: ls) e = l.contexts ++ chain ls e := by
  simp [chain]

theorem text_of_chain {layers : List Layer} {e f : Failure} (h : f.chain = chain layers e) :
    f.text = (chain layers e).head (chain_ne_nil layers e) := by
  simp only [← h]
  rfl

/-- What the levels tell, the innermost first: of each that its predicate failed, and the head of its chain. -/
def told : List Layer → Failure → List Log.Record
  | [], _ => []
  | l :: ls, e => told ls e ++ [Deed.failed l.type l.action ((chain (l :: ls) e).head (chain_ne_nil (l :: ls) e))]

end Layer

/-! ## What comes of a nest -/

namespace Table

variable {t : Table} {levels : Nat} {q : Inquiry} {p : Predicate} {f : Failure} {layers : List Layer} {e : Failure}
  {earlier : List Log.Record}

/-- The end of the predicate, told, is the end of the check. -/
theorem run_of_asks {p : Predicate} (hq : q.Asks t p) (levels : Nat) :
    q.run (t.evaluate (levels + 1)) =
      let own := (p.script q.viewer q.subject.value?).perform (t.evaluate levels) p.cell q.memory
      ⟨own.outcome.map (·.mapError .rule), own.memory,
        .invoked p q.viewer q.subject.value? :: own.trace ++
          own.outcome.told q.subject.typeName q.action .predicate⟩ := by
  rw [Inquiry.run, evaluate_of_accepted hq.viewer, decide_of_rule hq.rule]
  rfl

theorem evaluate_of_fails {m : Memory} {u : Trace} (hq : q.Asks t p)
    (hp : (p.script q.viewer q.subject.value?).perform (t.evaluate levels) p.cell q.memory =
      ⟨.returned (.error f), m, u⟩) :
    ∃ u', q.run (t.evaluate (levels + 1)) = ⟨.returned (.error (.rule f)), m, u'⟩ ∧
      records u' = records u ++ [Deed.failed q.subject.typeName q.action f.text] := by
  rw [run_of_asks hq, hp]
  refine ⟨_, rfl, ?_⟩
  rw [Host.records_append]
  rfl

theorem perform_of_refused {ask : Asked} {cell : Nat} {script : Script} {m m' : Memory} {u u' : Trace} {inner : Inquiry}
    {next : Answer → Script} {contexts : List String} {refusal : Refusal}
    (hcomes : script.Comes ask cell m u (.check inner.viewer inner.action inner.subject next) inner.memory)
    (hnext : Propagates contexts next) (hask : inner.run ask = ⟨.returned (.error refusal), m', u'⟩) :
    script.perform ask cell m =
      ⟨.returned (.error ((Failure.refused refusal).within contexts)), m', u ++ u'⟩ := by
  have hlast : next (.error refusal) = .finish (.error ((Failure.refused refusal).within contexts)) := hnext refusal
  have hcheck : (Script.check inner.viewer inner.action inner.subject next).Comes ask cell inner.memory (u' ++ [])
      (.finish (.error ((Failure.refused refusal).within contexts))) m' :=
    .check hask (hlast ▸ .here _ m')
  rw [hcomes.perform, hcheck.perform, List.append_nil]
  simp [Script.perform]

/-- The failure of one more predicate adds its contexts in front, and its record at the end. -/
theorem evaluate_of_layer {m : Memory} {u : Trace} {contexts : List String} (hq : q.Asks t p)
    (hp : (p.script q.viewer q.subject.value?).perform (t.evaluate levels) p.cell q.memory =
      ⟨.returned (.error (f.within contexts)), m, u⟩)
    (hchain : f.chain = Layer.chain layers e) (htold : records u = earlier ++ Layer.told layers e) :
    ∃ f' m' u', q.run (t.evaluate (levels + 1)) = ⟨.returned (.error (.rule f')), m', u'⟩ ∧
      f'.chain = Layer.chain (q.layer contexts :: layers) e ∧
      records u' = earlier ++ Layer.told (q.layer contexts :: layers) e := by
  have hwithin : (f.within contexts).chain = Layer.chain (q.layer contexts :: layers) e := by
    rw [Failure.chain_within, Layer.chain_cons, hchain]
    rfl
  obtain ⟨u', hrun, hrecords⟩ := evaluate_of_fails hq hp
  refine ⟨_, _, u', hrun, hwithin, ?_⟩
  rw [hrecords, htold, Layer.text_of_chain hwithin, List.append_assoc]
  rfl

/-- The outermost check of a nest fails with all contexts, and every check of the nest tells that it failed. -/
theorem evaluate_of_nest (h : Nest t levels q layers e earlier) :
    ∃ f m u, q.run (t.evaluate levels) = ⟨.returned (.error (.rule f)), m, u⟩ ∧ f.chain = Layer.chain layers e ∧
      records u = earlier ++ Layer.told layers e := by
  -- Each constructor says how its predicate comes to fail, and `evaluate_of_layer` what its check makes of that.
  induction h with
  | fails hq hcomes =>
      refine evaluate_of_layer hq hcomes.perform rfl ?_
      simp [Script.perform, Layer.told]
  | @unknown levels q p contexts viewer action subject next m u hq hcomes hnext hv hk =>
      have hinner : Inquiry.run (t.evaluate (levels + 1)) ⟨viewer, action, subject, m⟩ =
          ⟨.returned (.error (.unknownType subject.typeName)), m,
            [.emitted (.checkedUnknown subject.typeName action)]⟩ := by
        rw [Inquiry.run, evaluate_of_accepted hv, decide_of_not_knows hk]
      refine evaluate_of_layer hq (perform_of_refused hcomes hnext hinner) rfl ?_
      rw [Host.records_append, Layer.told, List.append_nil]
      rfl
  | propagates hq hcomes hnext _ ih =>
      obtain ⟨f, m, u, hinner, hchain, htold⟩ := ih
      refine evaluate_of_layer hq (perform_of_refused hcomes hnext hinner) ?_ ?_
      · rw [Failure.chain_refused_rule, hchain]
      · rw [Host.records_append, htold, List.append_assoc]

end Table

end Permit
