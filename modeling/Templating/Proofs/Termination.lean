import Templating.Proofs.Conclusions
import Templating.Proofs.SilentRuns
import Templating.Template

/-!
# Renders terminate

Finitely many templates whose references form no cycle, and whose bodies do not stall, render to an
end into every prompt sink. Two measures bound an execution. Every layout has a shorter chain of
layouts after it than the body that chose it, which bounds the passes; every reference, to a layout
or to a nested template, leads to a template with shorter chains of references, which bounds the
nesting (`Catalog.Grounded.execute_concludes`). An execution that counts both and gives up beyond
these bounds is the execution itself (`Catalog.Grounded.execute_eq_within`).
-/

namespace Templating

variable {σ : Type} [Destination σ]

namespace Catalog

/-- Goes over a body among these templates, and then over its layouts, in at most `passes` passes
altogether. -/
def passesWithin (catalog : Catalog) (nesting : Nesting) (config : Config) :
    (passes : Nat) → Body → Option LayoutInput → Action (Task σ) Unit
  | 0, _, _ => .conclude .tooDeep
  | passes + 1, body, input? => do
    match ← Task.enter (.start config input?) (body.pass nesting) with
    | none => pure ()
    | some next =>
      .log (.layoutApplied next.input.sections.length)
      catalog.passesWithin nesting config passes (catalog next.layout).body (some next.input)

/-- Templates that are nested at most `nested` deep, where each goes over at most the given number
of layouts after its own body. -/
def nestingWithin (catalog : Catalog) (layouts : String → Nat) : (nested : Nat) → Nesting
  | 0 => fun _ _ _ => .conclude .tooDeep
  | nested + 1 => fun name _ _ =>
    let template := catalog name
    Task.isolate (catalog.passesWithin (catalog.nestingWithin layouts nested) template.config
      (layouts name + 1) template.body none)

/-- The layout that a pass over one of the templates leaves to be run. -/
theorem chooses_of_returns (catalog : Catalog) (depth : Nat) {a : String} {config : Config}
    {input? : Option LayoutInput} {next : LayoutCall} {task task' : Task σ}
    (unrendered : ∀ input, input? = some input → input.bodyRendered = false)
    (returned : (Task.enter (.start config input?) ((catalog a).body.pass (catalog.nesting depth))
      task).Returns (some next) task') :
    catalog.Chooses a next.layout ∧ next.input.bodyRendered = false := by
  obtain ⟨f, passed, -⟩ := (Run.returns_recast _ Frame.task _ _).mp returned
  exact Body.layout_of_returns (catalog.nesting_natural depth) unrendered passed

/-- Templates that name no others but themselves, have no cycle of references, and do not stall. -/
structure Grounded (catalog : Catalog) (names : List String) : Prop where
  closed : ∀ a ∈ names, ∀ b, catalog.Refers a b → b ∈ names
  acyclic : ∀ a ∈ names, ¬ Relation.TransGen catalog.Refers a a
  calm : ∀ a ∈ names, ∀ step ∈ (catalog a).body.steps, step.call ≠ .stall

namespace Grounded

variable {catalog : Catalog} {names : List String} {chains layouts : String → Nat}

/-- Into a prompt sink, given a depth beyond the chains of references, an execution ends. The
induction is on the depth: what is nested and what runs next both have shorter chains. -/
theorem execute_concludes (grounded : catalog.Grounded names)
    (longest : ∀ a ∈ names, LongestChain catalog.Refers a (chains a)) {depth : Nat} {a : String}
    (listed : a ∈ names) (enough : chains a < depth) {live : σ → Prop}
    (prompt : Destination.Prompt live) (config : Config) (input? : Option LayoutInput)
    (unrendered : ∀ input, input? = some input → input.bodyRendered = false) :
    (execute catalog depth config (catalog a).body input? : Action (Task σ) Unit).Concludes
      fun task => live task.sink := by
  induction depth generalizing σ a config input? with
  | zero => cases enough
  | succ depth ih =>
    have shorter : ∀ b, catalog.Refers a b → b ∈ names ∧ chains b < depth := by
      intro b refers
      have listed' := grounded.closed a listed b refers
      have falls := (longest a listed).shorter refers (longest b listed')
      exact ⟨listed', by omega⟩
    have passed : ((catalog a).body.pass (catalog.nesting depth) :
        Action (Frame σ) (Option LayoutCall)).Concludes fun f => live f.task.sink := by
      refine Body.pass_concludes prompt (grounded.calm a listed) fun b nests τ _ _ prompt => ?_
      obtain ⟨listed', enough'⟩ := shorter b (List.mem_append_left _ nests)
      exact .isolate (ih listed' enough' prompt (catalog b).config none nofun)
    rw [execute_succ]
    refine fun task here => (passed.enter _ task here).bind fun next? task' returned here' => ?_
    cases next? with
    | none => exact Action.Concludes.pure () task' here'
    | some next =>
      obtain ⟨chosen, fresh⟩ := chooses_of_returns catalog depth unrendered returned
      obtain ⟨listed', enough'⟩ := shorter next.layout chosen.refers
      have later := ih listed' enough' prompt config (some next.input) (by rintro _ ⟨⟩; exact fresh)
      exact Action.Concludes.bind (.log _) (fun _ => later) task' here'

/-- An execution keeps within the chains of references and of layouts. -/
theorem execute_eq_within (grounded : catalog.Grounded names)
    (longest : ∀ a ∈ names, LongestChain catalog.Refers a (chains a))
    (longestLayouts : ∀ a ∈ names, LongestChain catalog.Chooses a (layouts a))
    {depth : Nat} {a : String} (listed : a ∈ names) (enough : chains a < depth)
    (nested : Nat) (nests : chains a ≤ nested) (passes : Nat) (runs : layouts a < passes)
    (config : Config) (input? : Option LayoutInput)
    (unrendered : ∀ input, input? = some input → input.bodyRendered = false) :
    (execute catalog depth config (catalog a).body input? : Action (Task σ) Unit) =
      catalog.passesWithin (catalog.nestingWithin layouts nested) config passes (catalog a).body
        input? := by
  induction depth generalizing σ a nested passes config input? with
  | zero => cases enough
  | succ depth ih =>
    have shorter : ∀ b, catalog.Refers a b → b ∈ names ∧ chains b < chains a := by
      intro b refers
      have listed' := grounded.closed a listed b refers
      exact ⟨listed', (longest a listed).shorter refers (longest b listed')⟩
    have same : ∀ b ∈ (catalog a).body.templates,
        catalog.nesting depth b = catalog.nestingWithin layouts nested b := by
      intro b inside
      obtain ⟨listed', falls⟩ := shorter b (List.mem_append_left _ inside)
      obtain ⟨nested, rfl⟩ : ∃ n, nested = n + 1 := ⟨nested - 1, by omega⟩
      funext τ _
      have inner := ih (σ := τ) listed' (by omega) nested (by omega) (layouts b + 1) (by omega)
        (catalog b).config none nofun
      exact congrArg Task.isolate inner
    have passed : ((catalog a).body.pass (catalog.nesting depth) :
        Action (Frame σ) (Option LayoutCall)) =
          (catalog a).body.pass (catalog.nestingWithin layouts nested) := Body.pass_congr same
    obtain ⟨passes, rfl⟩ : ∃ n, passes = n + 1 := ⟨passes - 1, by omega⟩
    funext task
    rw [execute_succ, passesWithin, ← passed]
    refine Run.bind_congr_of_returns fun next? task' returned => ?_
    cases next? with
    | none => rfl
    | some next =>
      obtain ⟨chosen, fresh⟩ := chooses_of_returns catalog depth unrendered returned
      obtain ⟨listed', falls⟩ := shorter next.layout chosen.refers
      have fewer := (longestLayouts a listed).shorter chosen (longestLayouts _ listed')
      have later := ih (σ := σ) listed' (by omega) nested (by omega) passes (by omega) config
        (some next.input) (by rintro _ ⟨⟩; exact fresh)
      simp only [proceed, later]

end Grounded

end Catalog

namespace Blueprint

variable {catalog : Catalog} {depth : Nat} {b : Blueprint}

section Sink

variable {live : σ → Prop}
  (executes : (execute catalog depth b.config b.body none : Action (Task σ) Unit).Concludes
    fun task => live task.sink)

include executes

theorem renderNested_concludes : (b.renderNested catalog depth).Concludes live :=
  .isolate executes

theorem renderCancellable_concludes (allowed : Option Nat) :
    (b.renderCancellable catalog depth allowed).Concludes live :=
  .isolate (executes.untilCancelled allowed)

/-- The flush that closes the render ends as well. -/
theorem renderTo_concludes (prompt : Destination.Prompt live) (allowed : Option Nat) :
    (b.renderTo catalog depth allowed).Concludes live := by
  have closes : ∀ o : Outcome Unit, o ≠ .tooDeep → (do
      let flushed ← (Action.flush : Action σ Unit).attempt
      .conclude (o.bind fun _ => flushed)
      .log .renderedToExternal : Action σ Unit).Concludes live := by
    intro o ended
    refine prompt.flush.attempt_bind fun flushed through => .bind (.conclude ?_) fun _ => .log _
    cases o with
    | ok _ => exact through
    | failed e => nofun
    | misused m => nofun
    | tooDeep => exact absurd rfl ended
  refine .bind (.log _) fun _ =>
    (renderCancellable_concludes executes allowed).attempt_bind fun o ended => ?_
  cases o with
  | ok _ => exact closes (.ok ()) ended
  | failed e => exact closes (.failed e) ended
  | misused m => exact .conclude nofun
  | tooDeep => exact absurd rfl ended

end Sink

theorem renderToBuffer_concludes
    (executes : (execute catalog depth b.config b.body none :
      Action (Task TextBuffer) Unit).Concludes fun _ => True) (allowed : Option Nat) :
    (b.renderToBuffer catalog depth allowed).Concludes fun _ => True := by
  refine .bind (.read _) fun start => .bind (.log _) fun _ =>
    .bind (renderCancellable_concludes executes allowed) fun _ => .bind (.read _) fun text? => ?_
  cases text? with
  | some text => exact .bind (.log _) fun _ => .pure text
  | none => exact .conclude nofun

/-- Every render of the template ends: into each state of a sink in which the sink is prompt, into
another template, as content of another one, into its own buffer, and whenever the caller cancels
it. -/
structure Ends (catalog : Catalog) (depth : Nat) (b : Blueprint) : Prop where
  external : ∀ {σ : Type} [Destination σ] {live : σ → Prop}, Destination.Prompt live →
    ∀ allowed s, live s → (b.renderTo catalog depth allowed s).Ends
  nested : ∀ {σ : Type} [Destination σ] {live : σ → Prop}, Destination.Prompt live →
    ∀ s, live s → (b.renderNested catalog depth s).Ends
  content : ∀ {σ : Type} [Destination σ] {live : σ → Prop}, Destination.Prompt live →
    ∀ s, live s → (b.writeContent catalog depth s).Ends
  own : ∀ allowed (output : TextBuffer),
    (Template.render catalog depth allowed { blueprint := b, output }).Ends

theorem ends_of_execute
    (executes : ∀ {σ : Type} [Destination σ] {live : σ → Prop}, Destination.Prompt live →
      (execute catalog depth b.config b.body none : Action (Task σ) Unit).Concludes
        fun task => live task.sink) :
    b.Ends catalog depth where
  external prompt allowed s here :=
    (renderTo_concludes (executes prompt) prompt allowed s here).ends
  nested prompt s here := (renderNested_concludes (executes prompt) s here).ends
  content prompt s here := ((renderNested_concludes (executes prompt)).firstPoll s here).ends
  own allowed output := by
    have buffered := renderToBuffer_concludes (executes .textBuffer) allowed output trivial
    have own : (Template.render catalog depth allowed { blueprint := b, output }).Concludes
        fun _ => True := buffered.recast (fun _ _ => trivial) fun _ _ ended => ended
    exact own.ends

end Blueprint

namespace Catalog

namespace Grounded

variable {catalog : Catalog} {names : List String}

/-- A rank that falls along the references leaves no cycle. -/
theorem of_rank (rank : String → Nat)
    (ranked : ∀ a ∈ names, ∀ b, catalog.Refers a b → b ∈ names ∧ rank b < rank a)
    (calm : ∀ a ∈ names, ∀ step ∈ (catalog a).body.steps, step.call ≠ .stall) :
    catalog.Grounded names where
  closed a listed b refers := (ranked a listed b refers).1
  acyclic _ := LongestChain.acyclic_of_rank ranked
  calm := calm

/-- Let finitely many templates name no others, have no cycle of references, and not stall. Each of
them has a longest chain of references and a longest chain of layouts. Given a depth beyond the
chain of references, every render of it into a prompt sink ends, whatever its configuration; and
its execution is the one in which the body is followed by at most as many layouts as the chain of
layouts is long, at most as many contexts are nested in each other as the chain of references is
long, and every nested template in turn keeps to its own chain of layouts. -/
theorem renders_end (grounded : catalog.Grounded names) :
    ∃ chains layouts : String → Nat,
      (∀ a ∈ names, LongestChain catalog.Refers a (chains a) ∧
        LongestChain catalog.Chooses a (layouts a)) ∧
      ∀ a ∈ names, ∀ depth, chains a < depth → ∀ config : Config,
        Blueprint.Ends catalog depth { body := (catalog a).body, config } ∧
        ∀ {σ : Type} [Destination σ],
          (execute catalog depth config (catalog a).body none : Action (Task σ) Unit) =
            catalog.passesWithin (catalog.nestingWithin layouts (chains a)) config (layouts a + 1)
              (catalog a).body none := by
  obtain ⟨chains, longest⟩ := LongestChain.exists_lengths grounded.closed grounded.acyclic
  obtain ⟨layouts, longestLayouts⟩ := LongestChain.exists_lengths
    (fun a listed b chosen => grounded.closed a listed b chosen.refers)
    fun a listed path => grounded.acyclic a listed
      (Relation.TransGen.mono (fun _ _ => Chooses.refers) a a path)
  refine ⟨chains, layouts, fun a listed => ⟨longest a listed, longestLayouts a listed⟩,
    fun a listed depth enough config => ⟨Blueprint.ends_of_execute fun prompt => ?_, ?_⟩⟩
  · exact grounded.execute_concludes longest listed enough prompt config none nofun
  · exact grounded.execute_eq_within longest longestLayouts listed enough (chains a) le_rfl
      (layouts a + 1) (Nat.lt_succ_self _) config none nofun

/-- A page in two layouts. The inner layout nests the date and waits for it, the outer one puts it
into an attribute, where it cannot wait. -/
def noticeSite : Catalog
  | "page" => { body := { name := "page", steps := [{ call := .setLayout "frame" },
      { call := .literal "n" }] } }
  | "frame" => { body := { name := "frame", steps := [{ call := .setLayout "outer" },
      { call := .renderBody }, { call := .templateAsync "date" }] } }
  | "outer" => { body := { name := "outer", steps := [{ call := .beginAttribute { name := "on" } },
      { call := .attributeValue {} (.template "date"), tolerant := true },
      { call := .endAttribute }, { call := .renderBody }, { call := .flush }] } }
  | _ => { body := { name := "date", steps := [{ call := .literal "d" }, { call := .wait 1 }] } }

/-- The writer is not ready at first. -/
def noticeSink : StagedSink where
  writer := { script := [.notReady, .accept 1], flushScript := [.notReady] }

theorem renders_end_noticeSite :
    let names := ["page", "frame", "outer", "date"]
    let page := noticeSite "page"
    noticeSite.Grounded names ∧ ∃ chains layouts : String → Nat,
      chains "page" = 3 ∧ layouts "page" = 2 ∧ page.Ends noticeSite 4 ∧
      (page.renderTo noticeSite 4 (some 1) noticeSink).Ends ∧
      ((page.renderTo noticeSite 4 none).await noticeSink).outcome? = some (.ok ()) ∧
      (execute noticeSite 4 {} page.body none : Action (Task StagedSink) Unit) =
        noticeSite.passesWithin (noticeSite.nestingWithin layouts 3) {} 3 page.body none := by
  intro names page
  let rank : String → Nat := fun name => 3 - names.idxOf name
  let layoutRank : String → Nat := fun name => 2 - names.idxOf name
  have ranked : ∀ a ∈ names, ∀ b ∈ (noticeSite a).body.templates ++ (noticeSite a).body.layouts,
      b ∈ names ∧ rank b < rank a := by
    decide +kernel
  have layoutsRanked : ∀ a ∈ names, ∀ b ∈ (noticeSite a).body.layouts,
      b ∈ names ∧ layoutRank b < layoutRank a := by
    decide +kernel
  have grounded : noticeSite.Grounded names := of_rank rank ranked (by decide +kernel)
  have listed : "page" ∈ names := by decide
  obtain ⟨chains, layouts, longest, renders⟩ := renders_end grounded
  obtain ⟨references, choices⟩ := longest "page" listed
  have three : chains "page" = 3 := references.unique
    (.of_rank ranked listed ["frame", "outer", "date"] (by decide +kernel) (by decide +kernel))
  have two : layouts "page" = 2 := choices.unique
    (.of_rank layoutsRanked listed ["frame", "outer"] (by decide +kernel) (by decide +kernel))
  obtain ⟨ends, within⟩ := renders "page" listed 4 (by omega) {}
  rw [three, two] at within
  have cancelled := ends.external .stagedSink (some 1) noticeSink trivial
  exact ⟨grounded, chains, layouts, three, two, ends, cancelled, by decide +kernel, within⟩

end Grounded

end Catalog

end Templating
