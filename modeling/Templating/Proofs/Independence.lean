import Templating.Proofs.Coupling
import Templating.Proofs.Parametricity

/-!
# Renders do not depend on their destination

If two destinations take text alike, up to a coupling `c`, then so do frames over them, and calls,
bodies and whole executions follow each other (`execute_follows`). Where `c` is lossy the bodies
have to pass on every error: a body that goes on after a failure would go on in one run only.
-/

namespace Templating

variable {σ τ α : Type}

/-- Every error ends the body. -/
def Body.Propagates (body : Body) : Prop :=
  ∀ step ∈ body.steps, step.tolerant = false

instance (body : Body) : Decidable body.Propagates :=
  inferInstanceAs (Decidable (∀ step ∈ body.steps, step.tolerant = false))

def Catalog.Propagates (catalog : Catalog) : Prop :=
  ∀ name, (catalog name).body.Propagates

namespace Coupling

/-- The coupled destinations take text alike. -/
structure Respects [Destination σ] [Destination τ] (c : Coupling σ τ) : Prop where
  write : ∀ text, Action.Follows c (Action.write text) (Action.write text)
  writeAsync : ∀ text, Action.Follows c (Action.writeAsync text) (Action.writeAsync text)
  flush : Action.Follows c Action.flush Action.flush

/-- Tasks over coupled sinks; both were cancelled, or neither. -/
def task (c : Coupling σ τ) : Coupling (Task σ) (Task τ) where
  now a b := a.cancelled = b.cancelled ∧ c.now a.sink b.sink
  past a b := c.past a.sink b.sink
  lossy := c.lossy
  slow := c.slow
  slow_lossy := c.slow_lossy
  now_past a b same := c.now_past a.sink b.sink same.2

/-- Frames over coupled tasks, at the same point of a pass. -/
def frame (c : Coupling σ τ) : Coupling (Frame σ) (Frame τ) where
  now f g := f.pass = g.pass ∧ c.task.now f.task g.task
  past f g := c.past f.task.sink g.task.sink
  lossy := c.lossy
  slow := c.slow
  slow_lossy := c.slow_lossy
  now_past f g same := c.task.now_past f.task g.task same.2

end Coupling

namespace Action.Follows

variable {c : Coupling σ τ}

theorem compositional : Compositional fun _ => Follows c :=
  ⟨fun o _ => conclude o, log, bind⟩

theorem unit {act : Action σ Unit} {ref : Action τ Unit} (h : Follows c act ref) :
    Follows c act.unit ref.unit :=
  .bind h fun _ => .pure Reply.unit

/-- What is rendered to memory is the same for both, and leaves both states alone. -/
theorem inMemory (act : Action TextBuffer Unit) :
    Action.Follows c (Action.inMemory act) (Action.inMemory act) := by
  constructor
  · intro s t same
    unfold Action.inMemory
    induction act {} with
    | done o b => exact .done _ same
    | note e rest ih => exact .noteLeft e (.noteRight e ih)
    | pause b rest ih => exact .pause same (.recast_const (c.now_past s t same) _ _) (ih ())
    | stalled b => exact .stalled same
  · intro s t later
    exact .recast_const later _ _

end Action.Follows

namespace Coupling.Respects

variable {c : Coupling σ τ}

/-- What a frame hands on to its sink unless it captures. -/
private theorem handedOn {act : Action σ Unit} {ref : Action τ Unit} (h : Action.Follows c act ref)
    {whole : Action (Frame σ) Unit} {whole' : Action (Frame τ) Unit}
    {put : Frame σ → σ → Frame σ} {put' : Frame τ → τ → Frame τ}
    (direct : ∀ f, f.pass.captures = [] →
      whole f = (act f.task.sink).recast (put f) fun o _ => o)
    (direct' : ∀ g, g.pass.captures = [] →
      whole' g = (ref g.task.sink).recast (put' g) fun o _ => o)
    (captured : ∀ f, f.pass.captures ≠ [] → whole f = .done (.ok ()) (put f f.task.sink))
    (captured' : ∀ g, g.pass.captures ≠ [] → whole' g = .done (.ok ()) (put' g g.task.sink))
    (puts : ∀ f g s t, c.frame.now f g → c.now s t → c.frame.now (put f s) (put' g t))
    (sink : ∀ f s, (put f s).task.sink = s) (sink' : ∀ g t, (put' g t).task.sink = t) :
    Action.Follows c.frame whole whole' := by
  constructor
  · intro f g same
    by_cases empty : g.pass.captures = []
    · rw [direct f (same.1 ▸ empty), direct' g empty]
      refine (h.run same.2.2).recast id id (fun s t => puts f g s t same) (fun s t past => ?_)
        (fun _ _ _ _ => rfl) fun _ _ _ halted => halted
      simpa only [Coupling.frame, sink, sink'] using past
    · rw [captured f (same.1 ▸ empty), captured' g empty]
      exact .done _ (puts f g _ _ same same.2.2)
  · intro f g past
    by_cases empty : g.pass.captures = []
    · rw [direct' g empty]
      refine (h.keep past).recast fun t later => ?_
      simpa only [Coupling.frame, sink'] using later
    · rw [captured' g empty]
      simpa only [Run.Visits, Coupling.frame, sink'] using past

/-- A frame puts every text of both runs into the same capture, or issues it to both sinks. -/
theorem frame [Destination σ] [Destination τ] (respects : c.Respects) : c.frame.Respects where
  write text :=
    handedOn (respects.write text) (Frame.write_direct · text) (Frame.write_direct · text)
      (Frame.write_captured · text) (Frame.write_captured · text)
      (fun _ _ _ _ same here => ⟨congrArg (Pass.take · text) same.1, same.2.1, here⟩)
      (fun _ _ => rfl) fun _ _ => rfl
  writeAsync text :=
    handedOn (respects.writeAsync text) (Frame.writeAsync_direct · text)
      (Frame.writeAsync_direct · text) (Frame.writeAsync_captured · text)
      (Frame.writeAsync_captured · text)
      (fun _ _ _ _ same here => ⟨congrArg (Pass.take · text) same.1, same.2.1, here⟩)
      (fun _ _ => rfl) fun _ _ => rfl
  flush :=
    handedOn respects.flush Frame.flush_direct Frame.flush_direct Frame.flush_captured
      Frame.flush_captured (fun _ _ _ _ same here => ⟨same.1, same.2.1, here⟩) (fun _ _ => rfl)
      fun _ _ => rfl

end Coupling.Respects

namespace Action.Follows

variable {c : Coupling σ τ}

theorem isolate {act : Action (Task σ) α} {ref : Action (Task τ) α} (h : Follows c.task act ref) :
    Follows c (Task.isolate act) (Task.isolate ref) :=
  h.focus id id (fun _ _ same => ⟨rfl, same⟩) (fun _ _ past => past) (fun _ _ _ _ _ same => same.2)
    (fun _ _ _ _ _ past => past) fun _ _ _ _ past => past

theorem enter {act : Action (Frame σ) α} {ref : Action (Frame τ) α} (pass : Pass)
    (h : Follows c.frame act ref) : Follows c.task (Task.enter pass act) (Task.enter pass ref) :=
  h.focus id id (fun _ _ same => ⟨rfl, same⟩) (fun _ _ past => past) (fun _ _ _ _ _ same => same.2)
    (fun _ _ _ _ _ past => past) fun _ _ _ _ past => past

variable [Destination σ] [Destination τ]

variable {nesting : Nesting}

theorem value (respects : c.Respects)
    (nested : ∀ name, Follows c (nesting name σ) (nesting name τ)) (encoding : Encoding)
    (value : Value) :
    Follows c (value.output nesting encoding) (value.output nesting encoding) :=
  compositional.value respects.write nesting nesting (fun name => (nested name).firstPoll) encoding
    value

theorem output (respects : c.Respects)
    (nested : ∀ name, Follows c (nesting name σ) (nesting name τ)) (p : Pass) (call : Call) :
    Follows c (call.output nesting p) (call.output nesting p) :=
  compositional.output respects.write nesting nesting respects.writeAsync respects.flush nested
    (fun name => (nested name).firstPoll) p call

omit [Destination σ] [Destination τ] in
theorem change (f : Pass → Outcome Pass) :
    Follows c.frame (Frame.change f) (Frame.change f) where
  run {x y} same := by
    unfold Frame.change
    rw [same.1]
    split
    · exact .done _ ⟨rfl, same.2⟩
    · exact .done _ same
    · exact .done _ same
    · exact .done _ same
  keep {x y} past := by
    unfold Frame.change
    split <;> exact past

omit [Destination σ] [Destination τ] in
theorem changeWriter (f : AttributeWriter → Except Misuse AttributeWriter) :
    Follows c.frame (Frame.changeWriter f) (Frame.changeWriter f) :=
  change _

omit [Destination σ] [Destination τ] in
theorem endSection : Follows c.frame Frame.endSection Frame.endSection where
  run {f g} same := by
    unfold Frame.endSection
    rw [same.1]
    exact .done _ ⟨rfl, same.2⟩
  keep past := past

omit [Destination σ] [Destination τ] in
theorem resolve (nesting : Nesting) (value : Value) :
    Follows c (value.resolve nesting) (value.resolve nesting) := by
  cases value with
  | plain text? => exact .pure (MarkedText.dynamic text?)
  | safe text => exact .pure (MarkedText.raw text)
  | encoded content => exact .bind (.inMemory _) fun text => .pure (MarkedText.raw text)
  | template name => exact .bind (.inMemory _) fun text => .pure (MarkedText.raw text)

/-- A call of one pass follows the same call of the other. -/
theorem perform (respects : c.Respects)
    (nested : ∀ name, Follows c.frame (nesting name (Frame σ)) (nesting name (Frame τ)))
    (call : Call) : Follows c.frame (call.perform nesting) (call.perform nesting) := by
  by_cases writing : call.writes = true
  · constructor
    · intro f g same
      rw [Call.perform_output nesting call f writing, Call.perform_output nesting call g writing,
        same.1]
      exact (output respects.frame nested g.pass call).run ⟨rfl, same.2⟩
    · intro f g past
      rw [Call.perform_output nesting call g writing]
      exact (output respects.frame nested g.pass call).keep past
  · cases call with
    | beginAttribute head => exact .unit (.changeWriter _)
    | attributeValue head value =>
      exact .unit (.bind (.resolve nesting value) fun value => .changeWriter _)
    | setLayout name => exact .unit (.change _)
    | beginSection name => exact .unit (.change _)
    | endSection => exact .unit .endSection
    | isSectionDefined name => exact .read fun f g same => by rw [same.1]
    | encoding => exact .read fun f g same => by rw [same.1]
    | config => exact .read fun f g same => by rw [same.1]
    | cancel => exact .unit (.update (fun f g same => ⟨same.1, rfl, same.2.2⟩) fun f g past => past)
    | isCancelled => exact .read fun f g same => by rw [same.2.1]
    | ensureNotCancelled =>
      refine .unit (.bind (.read fun f g same => same.2.1) fun cancelled => ?_)
      split
      · exact .fail _
      · exact .pure ()
    | fail error => exact .fail error
    | wait polls => exact .unit (.wait polls)
    | stall => exact .unit .stall
    | _ => exact absurd rfl writing

theorem step (respects : c.Respects)
    (nested : ∀ name, Follows c.frame (nesting name (Frame σ)) (nesting name (Frame τ)))
    (template : String) (position : Nat) (step : Step)
    (propagates : c.lossy → step.tolerant = false) :
    Follows c.frame (step.run nesting template position) (step.run nesting template position) := by
  refine .bind (.read fun f g same => by rw [same.1]) fun skipped => ?_
  split
  · exact .report _
  · refine .attempt_bind (.perform respects nested step.call) (fun outcome => ?_) ?_
    · refine .bind (.report _) fun _ => ?_
      cases outcome with
      | ok reply => exact .pure ()
      | failed e =>
        dsimp only
        split
        · exact .pure ()
        · exact .fail e
      | misused m =>
        dsimp only
        split
        · exact .pure ()
        · exact .misuse m
      | tooDeep => exact .conclude _
    · intro lossy outcome halted f q later
      refine .noteLeft _ ?_
      cases outcome with
      | ok reply => cases halted
      | failed e =>
        simp only [propagates lossy]
        exact .halt lossy rfl later
      | misused m =>
        simp only [propagates lossy]
        exact .halt lossy rfl later
      | tooDeep => exact .halt lossy rfl later

theorem runAll (respects : c.Respects)
    (nested : ∀ name, Follows c.frame (nesting name (Frame σ)) (nesting name (Frame τ)))
    (template : String) (position : Nat) (steps : List Step)
    (propagates : c.lossy → ∀ step ∈ steps, step.tolerant = false) :
    Follows c.frame (Step.runAll nesting template position steps)
      (Step.runAll nesting template position steps) := by
  induction steps generalizing position with
  | nil => exact .pure ()
  | cons step rest ih =>
    refine .bind (.step respects nested template position step fun lossy => ?_) fun _ => ?_
    · exact propagates lossy step (List.mem_cons_self ..)
    · exact ih (position + 1) fun lossy later member =>
        propagates lossy later (List.mem_cons_of_mem step member)

omit [Destination σ] [Destination τ] in
theorem finish : Follows c.frame Frame.finish Frame.finish := by
  refine .bind (.read fun f g same => same.1) fun pass => ?_
  split
  · exact .conclude _
  · split
    · exact .bind (.log _) fun _ => .pure pass.next?
    · exact .pure pass.next?

end Action.Follows

namespace Catalog

/-- Templates nested below `depth`, as an execution of that depth sees them. -/
def nesting (catalog : Catalog) (depth : Nat) : Nesting := fun name _ _ =>
  Task.isolate (execute catalog depth (catalog name).config (catalog name).body none)

/-- One pass: a body, and what it leaves to be run next. -/
def pass [Destination σ] (catalog : Catalog) (depth : Nat) (body : Body) :
    Action (Frame σ) (Option LayoutCall) := do
  body.run (catalog.nesting depth)
  Frame.finish

/-- What is left to be run after a pass, under the configuration of the page. -/
def proceed [Destination σ] (catalog : Catalog) (depth : Nat) (config : Config) :
    Option LayoutCall → Action (Task σ) Unit
  | none => pure ()
  | some next => do
    .log (.layoutApplied next.input.sections.length)
    execute catalog depth config (catalog next.layout).body (some next.input)

end Catalog

theorem execute_succ [Destination σ] (catalog : Catalog) (depth : Nat) (config : Config)
    (body : Body) (input? : Option LayoutInput) :
    (execute catalog (depth + 1) config body input? : Action (Task σ) Unit) =
      Task.enter (.start config input?) (catalog.pass depth body) >>=
        catalog.proceed depth config := by
  rfl

/-- An execution follows the same execution with another destination. -/
theorem execute_follows (catalog : Catalog) (depth : Nat) {σ τ : Type} [Destination σ]
    [Destination τ] {c : Coupling σ τ} (respects : c.Respects) (config : Config) (body : Body)
    (input? : Option LayoutInput) (bodyPropagates : c.lossy → body.Propagates)
    (catalogPropagates : c.lossy → catalog.Propagates) :
    Action.Follows c.task (execute catalog depth config body input?)
      (execute catalog depth config body input?) := by
  induction depth generalizing σ τ config body input? with
  | zero => exact .conclude .tooDeep
  | succ depth ih =>
    rw [execute_succ, execute_succ]
    have nested : ∀ name, Action.Follows c.frame (catalog.nesting depth name (Frame σ))
        (catalog.nesting depth name (Frame τ)) := fun name =>
      .isolate (ih respects.frame _ _ none (fun lossy => catalogPropagates lossy name)
        catalogPropagates)
    refine .bind (.enter _ (.bind ?_ fun _ => .finish)) fun next? => ?_
    · exact .runAll respects nested body.name 0 body.steps bodyPropagates
    · cases next? with
      | none => exact .pure ()
      | some next =>
        exact .bind (.log _) fun _ =>
          ih respects config _ _ (fun lossy => catalogPropagates lossy next.layout)
            catalogPropagates

namespace Blueprint

variable [Destination σ] [Destination τ] {c : Coupling σ τ}

/-- The caller of the one render may cancel it at any poll, the other is never cancelled. -/
theorem renderCancellable_follows_slow (slow : c.slow) (respects : c.Respects)
    (catalog : Catalog) (depth : Nat) (b : Blueprint) (allowed : Option Nat)
    (bodyPropagates : b.body.Propagates) (catalogPropagates : catalog.Propagates) :
    Action.Follows c (b.renderCancellable catalog depth allowed)
      (b.renderCancellable catalog depth none) := by
  have execution : Action.Follows c.task (execute catalog depth b.config b.body none)
      (execute catalog depth b.config b.body none) :=
    execute_follows catalog depth respects b.config b.body none (fun _ => bodyPropagates)
      fun _ => catalogPropagates
  have taskSlow : c.task.slow := slow
  exact (execution.untilCancelled_slow taskSlow (fun _ _ same => same.1) allowed).isolate

/-- Both callers cancel at the same poll, or neither. -/
theorem renderCancellable_follows_steady (steady : ¬ c.slow) (respects : c.Respects)
    (catalog : Catalog) (depth : Nat) (b : Blueprint) (allowed : Option Nat)
    (bodyPropagates : c.lossy → b.body.Propagates)
    (catalogPropagates : c.lossy → catalog.Propagates) :
    Action.Follows c (b.renderCancellable catalog depth allowed)
      (b.renderCancellable catalog depth allowed) := by
  have execution : Action.Follows c.task (execute catalog depth b.config b.body none)
      (execute catalog depth b.config b.body none) :=
    execute_follows catalog depth respects b.config b.body none bodyPropagates catalogPropagates
  have taskSteady : ¬ c.task.slow := steady
  exact (execution.untilCancelled taskSteady (fun _ _ same => same.1) allowed).isolate

theorem renderCancellable_follows (lossless : ¬ c.lossy) (respects : c.Respects)
    (catalog : Catalog) (depth : Nat) (b : Blueprint) (allowed : Option Nat) :
    Action.Follows c (b.renderCancellable catalog depth allowed)
      (b.renderCancellable catalog depth allowed) :=
  renderCancellable_follows_steady (mt c.slow_lossy lossless) respects catalog depth b allowed
    (fun lossy => absurd lossy lossless) fun lossy => absurd lossy lossless

end Blueprint

end Templating
