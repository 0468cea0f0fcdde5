import Mathlib.Data.List.Chain
import Mathlib.Logic.Relation
import Mathlib.Order.Lattice.Nat
import Templating.Proofs.HeardFlushes
import Templating.Proofs.PageBody

/-!
# References between templates

A body names the templates that it nests and the layouts that it chooses. No more of the other
templates reaches it: nestings that agree on what a body nests are the same to it
(`Body.pass_congr`), and the layout that runs after a pass is one that its body names
(`Body.layout_of_returns`). Among finitely many templates whose references form no cycle, the chains
of references from each are bounded, and a reference leads to a template with shorter chains
(`LongestChain.shorter`).
-/

namespace Templating

variable {σ : Type}

namespace Call

/-- The template that the call renders, in place or into a fragment of an attribute. -/
def template? : Call → Option String
  | write value | attributeValue _ value => value.template?
  | templateAsync name => some name
  | _ => none

def layout? : Call → Option String
  | setLayout name => some name
  | _ => none

/-- A call sees no template but the one that it renders. -/
theorem perform_congr [Destination σ] {nesting nesting' : Nesting} (call : Call)
    (same : ∀ name ∈ call.template?, nesting name = nesting' name) :
    (call.perform nesting : Action (Frame σ) Reply) = call.perform nesting' := by
  have contents : ∀ (content : Content) (τ : Type) [Destination τ],
      (∀ name ∈ (Value.encoded content).template?, nesting name = nesting' name) →
        (content.write nesting : Action τ Unit) = content.write nesting' := by
    intro content τ _ same
    cases content with
    | template name => simp only [Content.write, Nesting.renderNow, same name rfl]
    | _ => rfl
  cases call with
  | write value =>
    cases value with
    | encoded content => simp only [perform, Frame.write, contents content (Frame σ) same]
    | template name => simp only [perform, Frame.write, Nesting.renderNow, same name rfl]
    | _ => rfl
  | templateAsync name => simp only [perform, same name rfl]
  | attributeValue head value =>
    cases value with
    | encoded content =>
      simp only [perform, Frame.attributeValue, Value.resolve, contents content TextBuffer same]
    | template name =>
      simp only [perform, Frame.attributeValue, Value.resolve, Nesting.renderNow, same name rfl]
    | _ => rfl
  | _ => rfl

end Call

theorem Step.runAll_congr [Destination σ] {nesting nesting' : Nesting} (template : String)
    (position : Nat) (steps : List Step)
    (same : ∀ step ∈ steps, ∀ name ∈ step.call.template?, nesting name = nesting' name) :
    (Step.runAll nesting template position steps : Action (Frame σ) Unit) =
      Step.runAll nesting' template position steps := by
  induction steps generalizing position with
  | nil => rfl
  | cons step rest ih =>
    have first := step.call.perform_congr (σ := σ) (same step List.mem_cons_self)
    have later := ih (position + 1) fun step member => same step (List.mem_cons_of_mem _ member)
    simp only [Step.runAll, Step.run, first, later]

namespace Body

/-- The templates that the body nests. -/
def templates (body : Body) : List String :=
  body.steps.filterMap (·.call.template?)

/-- The layouts that the body may choose. -/
def layouts (body : Body) : List String :=
  body.steps.filterMap (·.call.layout?)

/-- One pass over the body, among these templates. -/
def pass [Destination σ] (nesting : Nesting) (body : Body) :
    Action (Frame σ) (Option LayoutCall) := do
  body.run nesting
  Frame.finish

theorem pass_congr [Destination σ] {nesting nesting' : Nesting} {body : Body}
    (same : ∀ name ∈ body.templates, nesting name = nesting' name) :
    (body.pass nesting : Action (Frame σ) (Option LayoutCall)) = body.pass nesting' := by
  have runs : (body.run nesting : Action (Frame σ) Unit) = body.run nesting' := by
    refine Step.runAll_congr body.name 0 body.steps fun step member name nests => ?_
    exact same name (List.mem_filterMap.mpr ⟨step, member, nests⟩)
  rw [pass, runs, pass]

end Body

/-- A body makes no calls but those of its steps. -/
theorem Step.history_calls [Destination σ] {nesting : Nesting} {steps : List Step} {f : Frame σ}
    {e : Entry} (made : e ∈ Step.history nesting steps f) : ∃ step ∈ steps, step.call = e.call := by
  induction steps generalizing f with
  | nil => cases made
  | cons step rest ih =>
    have later : ∀ {g : Frame σ}, e ∈ Step.history nesting rest g →
        ∃ step' ∈ step :: rest, step'.call = e.call := by
      intro g made
      obtain ⟨step', member, same⟩ := ih made
      exact ⟨step', List.mem_cons_of_mem _ member, same⟩
    unfold Step.history at made
    split at made
    · exact later made
    · rcases List.mem_cons.mp made with rfl | made
      · exact ⟨step, List.mem_cons_self, rfl⟩
      · split at made
        · exact later made
        · cases made

theorem Entry.layout_of_call {e : Entry} {name : String} (chosen : e.layout? = some name) :
    e.call.layout? = some name := by
  unfold layout? at chosen
  split at chosen
  · next called =>
    rw [called]
    exact (Option.ite_none_right_eq_some.mp chosen).2
  · cases chosen

/-- The layout that a pass leaves to be run is one that its body names, and it is given a body that
was not rendered yet. -/
theorem Body.layout_of_returns [Destination σ] {nesting : Nesting} (natural : nesting.Natural)
    {body : Body} {config : Config} {input? : Option LayoutInput} {task : Task σ} {f : Frame σ}
    {next : LayoutCall} (unrendered : ∀ input, input? = some input → input.bodyRendered = false)
    (returned : (body.pass nesting { pass := .start config input?, task }).Returns (some next) f) :
    next.layout ∈ body.layouts ∧ next.input.bodyRendered = false := by
  obtain ⟨_, g, played, finished⟩ := (Run.returns_bind _ _ (some next) f).mp returned
  obtain ⟨more, value, -⟩ := finished.drive
  obtain ⟨-, left⟩ := (g.drive_finish more).2 (some next) value
  obtain ⟨layout, chosen, rfl⟩ := Option.map_eq_some_iff.mp left.symm
  have agrees := (Step.runAll_leads played).agrees natural (.start config task unrendered)
  have last : ((Step.history nesting body.steps { pass := .start config input?, task }).filterMap
      Entry.layout?).getLast? = some layout := agrees.layout.symm.trans chosen
  obtain ⟨e, made, names⟩ := List.mem_filterMap.mp (List.mem_of_getLast? last)
  obtain ⟨step, member, same⟩ := Step.history_calls made
  refine ⟨List.mem_filterMap.mpr ⟨step, member, ?_⟩, rfl⟩
  rw [same]
  exact Entry.layout_of_call names

namespace Catalog

/-- The template `a` names the template `b`, to nest it or as a layout. -/
def Refers (catalog : Catalog) (a b : String) : Prop :=
  b ∈ (catalog a).body.templates ++ (catalog a).body.layouts

/-- The template `a` names the template `b` as a layout. -/
def Chooses (catalog : Catalog) (a b : String) : Prop :=
  b ∈ (catalog a).body.layouts

theorem Chooses.refers {catalog : Catalog} {a b : String} (chosen : catalog.Chooses a b) :
    catalog.Refers a b :=
  List.mem_append_right _ chosen

instance (catalog : Catalog) : DecidableRel catalog.Refers := fun _ _ =>
  List.instDecidableMemOfLawfulBEq _ _

instance (catalog : Catalog) : DecidableRel catalog.Chooses := fun _ _ =>
  List.instDecidableMemOfLawfulBEq _ _

end Catalog

/-- Of the chains of steps along `R` that start at `a`, the longest has `n` steps. -/
structure LongestChain (R : String → String → Prop) (a : String) (n : Nat) : Prop where
  reached : ∃ chain, List.IsChain R (a :: chain) ∧ chain.length = n
  bound : ∀ chain, List.IsChain R (a :: chain) → chain.length ≤ n

namespace LongestChain

variable {R : String → String → Prop} {a b : String} {m n : Nat}

theorem shorter (longest : LongestChain R a n) (step : R a b) (later : LongestChain R b m) :
    m < n := by
  obtain ⟨chain, linked, length⟩ := later.reached
  have longer := longest.bound (b :: chain) (.cons_cons step linked)
  rw [List.length_cons] at longer
  omega

theorem unique (longest : LongestChain R a m) (longest' : LongestChain R a n) : m = n := by
  obtain ⟨chain, linked, rfl⟩ := longest.reached
  obtain ⟨chain', linked', rfl⟩ := longest'.reached
  exact le_antisymm (longest'.bound chain linked) (longest.bound chain' linked')

section Ranked

variable {names : List String} {rank : String → Nat}
  (ranked : ∀ a ∈ names, ∀ b, R a b → b ∈ names ∧ rank b < rank a)

include ranked

theorem length_le_rank (start : a ∈ names) {chain : List String}
    (linked : List.IsChain R (a :: chain)) : chain.length ≤ rank a := by
  induction chain generalizing a with
  | nil => exact Nat.zero_le _
  | cons b chain ih =>
    obtain ⟨step, linked⟩ := List.isChain_cons_cons.mp linked
    obtain ⟨listed, falls⟩ := ranked a start b step
    exact (Nat.succ_le_succ (ih listed linked)).trans falls

/-- A chain that takes up the whole rank is a longest one. -/
theorem of_rank (start : a ∈ names) (chain : List String) (linked : List.IsChain R (a :: chain))
    (length : chain.length = rank a) : LongestChain R a (rank a) :=
  ⟨⟨chain, linked, length⟩, fun _ => length_le_rank ranked start⟩

/-- Where a rank falls along the steps no template leads back to itself. -/
theorem acyclic_of_rank (start : a ∈ names) : ¬ Relation.TransGen R a a := by
  have reaches : ∀ b, Relation.TransGen R a b → b ∈ names ∧ rank b < rank a := by
    intro b path
    induction path with
    | single step => exact ranked a start _ step
    | tail _ step ih =>
      obtain ⟨listed, falls⟩ := ranked _ ih.1 _ step
      exact ⟨listed, falls.trans ih.2⟩
  exact fun path => Nat.lt_irrefl _ (reaches a path).2

end Ranked

theorem mem_of_isChain {names chain : List String} (closed : ∀ a ∈ names, ∀ b, R a b → b ∈ names)
    (start : a ∈ names) (linked : List.IsChain R (a :: chain)) :
    ∀ b ∈ a :: chain, b ∈ names := by
  induction chain generalizing a with
  | nil => simpa using start
  | cons c chain ih =>
    obtain ⟨step, linked⟩ := List.isChain_cons_cons.mp linked
    intro b member
    rcases List.mem_cons.mp member with rfl | member
    · exact start
    · exact ih (closed a start c step) linked b member

theorem transGen_of_isChain {chain : List String} (linked : List.IsChain R (a :: chain)) :
    ∀ b ∈ chain, Relation.TransGen R a b := by
  induction chain generalizing a with
  | nil => simp
  | cons c chain ih =>
    obtain ⟨step, linked⟩ := List.isChain_cons_cons.mp linked
    intro b member
    rcases List.mem_cons.mp member with rfl | member
    · exact .single step
    · exact .head step (ih linked b member)

/-- Where no template leads back to itself, a chain meets none twice. -/
theorem nodup_of_isChain {names chain : List String}
    (closed : ∀ a ∈ names, ∀ b, R a b → b ∈ names)
    (acyclic : ∀ a ∈ names, ¬ Relation.TransGen R a a) (start : a ∈ names)
    (linked : List.IsChain R (a :: chain)) : (a :: chain).Nodup := by
  induction chain generalizing a with
  | nil => simp
  | cons c chain ih =>
    have apart : a ∉ c :: chain := fun member =>
      acyclic a start (transGen_of_isChain linked a member)
    obtain ⟨step, linked⟩ := List.isChain_cons_cons.mp linked
    exact List.nodup_cons.mpr ⟨apart, ih (closed a start c step) linked⟩

/-- Among finitely many templates without a cycle the chains from each have a longest. -/
theorem exists_of_acyclic {names : List String} (closed : ∀ a ∈ names, ∀ b, R a b → b ∈ names)
    (acyclic : ∀ a ∈ names, ¬ Relation.TransGen R a a) (start : a ∈ names) :
    ∃ n, LongestChain R a n := by
  let lengths : Set Nat := { n | ∃ chain, List.IsChain R (a :: chain) ∧ chain.length = n }
  have bounded : BddAbove lengths := by
    refine ⟨names.length, ?_⟩
    rintro _ ⟨chain, linked, rfl⟩
    have nodup := nodup_of_isChain closed acyclic start linked
    have fits := (List.subperm_of_subset nodup (mem_of_isChain closed start linked)).length_le
    rw [List.length_cons] at fits
    omega
  have present : lengths.Nonempty := ⟨0, [], List.isChain_singleton a, rfl⟩
  exact ⟨sSup lengths, Nat.sSup_mem present bounded, fun chain linked =>
    le_csSup bounded ⟨chain, linked, rfl⟩⟩

theorem exists_lengths {names : List String} (closed : ∀ a ∈ names, ∀ b, R a b → b ∈ names)
    (acyclic : ∀ a ∈ names, ¬ Relation.TransGen R a a) :
    ∃ lengths : String → Nat, ∀ a ∈ names, LongestChain R a (lengths a) := by
  have longest : ∀ a ∈ names, ∃ n, LongestChain R a n :=
    fun _ listed => exists_of_acyclic closed acyclic listed
  refine ⟨fun a => if listed : a ∈ names then (longest a listed).choose else 0, fun a listed => ?_⟩
  simp only [dif_pos listed]
  exact (longest a listed).choose_spec

end LongestChain

end Templating
