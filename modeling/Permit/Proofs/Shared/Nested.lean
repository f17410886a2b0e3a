import Permit.Proofs.Check.Nest
import Permit.Proofs.Shared.Breaking

/-!
# Nested checks on a shared store

A failure gets out of nested checks as it is, but for the contexts that the predicates on its way put around it.
-/

namespace Permit

open Host (records)

namespace Shared

variable {sh : Shared} {m : Memory} {viewer : Option Json} {action : String} {subject : Subject} {layers : List Layer}
  {e : Failure} {earlier : List Log.Record}

theorem perform_evaluate_gives (h : sh.poisoned = false) (hv : Argument.checkViewer viewer = .ok ()) (m : Memory)
    (action : String) (subject : Subject) :
    sh.perform m (.evaluate viewer action (.gives subject)) =
      let own := sh.store.evaluate viewer action subject m
      (⟨own.outcome.map (·.map .allowed), own.memory, .converted :: own.trace⟩, sh) := by
  rw [perform_evaluate h, checking_of_accepted hv]
  rfl

/-- What a nest of checks is refused with is one chain: all contexts from the outside in, and then the chain of the
failure in the innermost predicate. The message is its head, the causes are the rest, and no argument is to blame; each
level tells the head of its own chain. -/
theorem perform_nested (h : sh.poisoned = false)
    (hn : Nest sh.store.table (sh.store.table.depth + 1) ⟨viewer, action, subject, m⟩ layers e earlier) :
    ∃ f m' u, sh.perform m (.evaluate viewer action (.gives subject)) = (⟨.returned (.error (.rule f)), m', u⟩, sh) ∧
      f.chain = Layer.chain layers e ∧
      (Refusal.rule f).message = (Layer.chain layers e).head (Layer.chain_ne_nil layers e) ∧
      (Refusal.rule f).causes = (Layer.chain layers e).tail ∧
      (Refusal.rule f).causes.head? = (Layer.chain layers e)[1]? ∧
      (Refusal.rule f).argument? = none ∧
      records u = earlier ++ Layer.told layers e ∧
      ∀ type, e = .refused (.unknownType type) →
        (Layer.chain layers e).getLast? = some ("unknown permission type `" ++ type ++ "`") := by
  obtain ⟨f, m', u, hrun, hchain, htold⟩ := Table.evaluate_of_nest hn
  have hcauses : (Refusal.rule f).causes = (Layer.chain layers e).tail := by
    rw [← hchain]
    rfl
  refine ⟨f, m', .converted :: u, ?_, hchain, Layer.text_of_chain hchain, hcauses, ?_, rfl, htold, ?_⟩
  · have hown : sh.store.evaluate viewer action subject m = ⟨.returned (.error (.rule f)), m', u⟩ := hrun
    have hperform := perform_evaluate_gives h hn.viewer m action subject
    rw [hown] at hperform
    exact hperform
  · rw [hcauses, List.head?_tail]
  · intro type he
    have hlast : e.chain = ["unknown permission type `" ++ type ++ "`"] := by
      rw [he]
      rfl
    rw [Layer.chain, hlast, List.getLast?_concat]

/-- A predicate that asks for another permission and puts contexts around its refusal. -/
def wrapping (contexts : List String) (action : String) (subject : Subject) : Predicate :=
  ⟨0, fun viewer _ => .check viewer action subject fun answer =>
    .finish (answer.mapError fun refusal => (Failure.refused refusal).within contexts)⟩

/-- To see a post one has to be allowed to edit it, and so to run the blog, which cannot be told without a session; to
browse posts one has to be allowed to list them, and so to read a feed, which no rule is about. -/
def blog : Store :=
  ⟨((((Table.empty.define "post" ["see"] (.predicate (wrapping ["cannot see", "post 7"] "edit" (.bare "post")))).define
    "post" ["edit"] (.predicate (wrapping [] "run" (.bare "blog")))).define
    "blog" ["run"] (.predicate ⟨1, fun _ _ => .finish (.error (.context "nobody is here" (.message "no session")))⟩)).define
    "post" ["browse"] (.predicate (wrapping [] "list" (.bare "post")))).define
    "post" ["list"] (.predicate (wrapping ["cannot list"] "read" (.bare "feed")))⟩

theorem nest_wrapping {t : Table} {levels : Nat} {q : Inquiry} {contexts : List String} {action : String}
    {subject : Subject} (hq : q.Asks t (wrapping contexts action subject))
    (hn : Nest t levels ⟨q.viewer, action, subject, q.memory⟩ layers e earlier) :
    Nest t (levels + 1) q (q.layer contexts :: layers) e earlier :=
  .propagates hq (.here _ _) (fun _ => rfl) hn

theorem perform_nested_blog :
    (∃ f m' u, (Shared.of blog).perform Memory.fresh (.evaluate none "see" (.gives (.bare "post"))) =
        (⟨.returned (.error (.rule f)), m', u⟩, .of blog) ∧
      f.chain = ["cannot see", "post 7", "nobody is here", "no session"] ∧
      records u = [Deed.failed "blog" "run" "nobody is here", Deed.failed "post" "edit" "nobody is here",
        Deed.failed "post" "see" "cannot see"]) ∧
    ∃ f m' u, (Shared.of blog).perform Memory.fresh (.evaluate none "browse" (.gives (.bare "post"))) =
        (⟨.returned (.error (.rule f)), m', u⟩, .of blog) ∧
      f.chain = ["cannot list", "unknown permission type `feed`"] ∧
      records u = [Deed.unknown "feed" "read", Deed.failed "post" "list" "cannot list",
        Deed.failed "post" "browse" "cannot list"] := by
  have hsound : (Shared.of blog).poisoned = false := rfl
  -- The blog has five predicates, so checks on it may nest six levels deeper than `Table.returns`.
  constructor
  · have hrun : Nest blog.table (Table.returns + 4) ⟨none, "run", .bare "blog", Memory.fresh⟩ _ _ _ :=
      .fails ⟨rfl, rfl⟩ (.here (.finish (.error ((Failure.message "no session").within ["nobody is here"]))) _)
    have hsee : Nest blog.table (Table.returns + 6) ⟨none, "see", .bare "post", Memory.fresh⟩ _ _ _ :=
      nest_wrapping ⟨rfl, rfl⟩ (nest_wrapping ⟨rfl, rfl⟩ hrun)
    obtain ⟨f, m', u, hperform, hchain, -, -, -, -, htold, -⟩ := perform_nested hsound hsee
    exact ⟨f, m', u, hperform, hchain, htold⟩
  · have hlist : Nest blog.table (Table.returns + 5) ⟨none, "list", .bare "post", Memory.fresh⟩ _ _ _ :=
      .unknown ⟨rfl, rfl⟩ (.here _ _) (fun _ => rfl) rfl rfl
    have hbrowse : Nest blog.table (Table.returns + 6) ⟨none, "browse", .bare "post", Memory.fresh⟩ _ _ _ :=
      nest_wrapping ⟨rfl, rfl⟩ hlist
    obtain ⟨f, m', u, hperform, hchain, -, -, -, -, htold, -⟩ := perform_nested hsound hbrowse
    exact ⟨f, m', u, hperform, hchain, htold⟩

end Shared

end Permit
