import Templating.Proofs.BodyHistory
import Templating.Proofs.PairedRuns

/-!
# Passes that calls cannot tell apart

Two frames over memory resemble each other if they agree in everything that calls read: the
configuration, the attribute, the sections, the input, and whether they are cancelled. They may
differ in where their text goes and in the layout that they chose. A relation between such frames
that calls keep is a veil (`Frame.Veils`): from frames that it relates, all calls but those that
choose a layout or close a section go alike (`Call.perform_veiled`). A body whose calls go alike
goes alike as a whole (`Step.runAll_paired`).
-/

namespace Templating

variable {σ τ : Type}

/-- The states belong together at every point; nothing is lost or delayed. -/
def Coupling.steady (now : σ → τ → Prop) : Coupling σ τ where
  now := now
  past _ _ := True
  lossy := False
  now_past _ _ _ := trivial

namespace Frame

/-- The frame after a text, when its sink is memory. -/
def put (f : Frame TextBuffer) (text : String) : Frame TextBuffer :=
  f.took text (if f.pass.captures = [] then f.task.sink.push text else f.task.sink)

theorem write_memory (f : Frame TextBuffer) (text : String) :
    Action.write text f = .done (.ok ()) (f.put text) ∧
      Action.writeAsync text f = .done (.ok ()) (f.put text) ∧
      (Action.flush f : Run (Frame TextBuffer) Unit) = .done (.ok ()) f := by
  by_cases direct : f.pass.captures = []
  · rw [write_direct f text direct, writeAsync_direct f text direct, flush_direct f direct, put,
      if_pos direct]
    exact ⟨rfl, rfl, rfl⟩
  · rw [write_captured f text direct, writeAsync_captured f text direct, flush_captured f direct,
      put, if_neg direct]
    exact ⟨rfl, rfl, rfl⟩

structure Resembles (f : Frame σ) (g : Frame τ) : Prop where
  config : f.pass.config = g.pass.config
  writer : f.pass.writer = g.pass.writer
  opened : f.pass.openSection? = g.pass.openSection?
  sections : f.pass.sections = g.pass.sections
  input : f.pass.input? = g.pass.input?
  cancelled : f.task.cancelled = g.task.cancelled

/-- What relates frames that resemble each other, and goes on to do so whatever changes in both
alike. -/
structure Veils (now : Frame TextBuffer → Frame TextBuffer → Prop) : Prop where
  resembles : ∀ {f g}, now f g → f.Resembles g
  puts : ∀ {f g}, now f g → ∀ text, now (f.put text) (g.put text)
  writer : ∀ {f g}, now f g → ∀ writer,
    now { f with pass := { f.pass with writer } } { g with pass := { g.pass with writer } }
  input : ∀ {f g}, now f g → ∀ input?,
    now { f with pass := { f.pass with input? } } { g with pass := { g.pass with input? } }
  cancelled : ∀ {f g}, now f g → ∀ cancelled,
    now { f with task := { f.task with cancelled } } { g with task := { g.task with cancelled } }
  opens : ∀ {f g}, now f g → ∀ name,
    let opened : Capture := { kind := .section name }
    now { f with pass := { f.pass with captures := opened :: f.pass.captures } }
      { g with pass := { g.pass with captures := opened :: g.pass.captures } }

end Frame

namespace Call

/-- The calls that choose a layout or close a section. -/
def redirects : Call → Bool
  | setLayout _ | endSection => true
  | _ => false

/-- The output of a call depends on nothing else of the pass. -/
theorem output_congr [Destination τ] (nesting : Nesting) (call : Call) {p q : Pass}
    (config : p.config = q.config) (writer : p.writer = q.writer) (input : p.input? = q.input?) :
    (call.output nesting p : Action τ Reply) = call.output nesting q := by
  have sections : ∀ name, (p.sectionOutput name : Action τ Bool) = q.sectionOutput name := by
    intro name
    rw [Pass.sectionOutput, Pass.sectionOutput, input]
  cases call with
  | write value => simp only [output, config]
  | endAttribute => simp only [output, config, writer]
  | renderBody => simp only [output, input]
  | renderSection name => simp only [output, sections]
  | renderSectionOptional name => simp only [output, sections]
  | _ => rfl

variable {now : Frame TextBuffer → Frame TextBuffer → Prop} {f g : Frame TextBuffer}
  {nesting : Nesting}

/-- From related frames a call goes alike, unless it chooses a layout or closes a section. -/
theorem perform_veiled (veils : Frame.Veils now) (natural : nesting.Natural) (call : Call)
    (stays : call.redirects = false) (here : now f g) :
    (call.perform nesting f).Follows (.steady now) (call.perform nesting g) := by
  obtain ⟨config, writer, opened, sections, input, cancelled⟩ := veils.resembles here
  let c : Coupling (Frame TextBuffer) (Frame TextBuffer) := .steady now
  have respects : c.Respects := by
    have puts : ∀ text {f g}, now f g →
        (Run.done (.ok ()) (f.put text) : Run (Frame TextBuffer) Unit).Follows c
          (.done (.ok ()) (g.put text)) := fun text f g here => .done _ (veils.puts here text)
    refine ⟨fun text => ⟨?_, fun _ => .trivially _⟩, fun text => ⟨?_, fun _ => .trivially _⟩,
      ⟨?_, fun _ => .trivially _⟩⟩
    · intro f g here
      rw [(f.write_memory text).1, (g.write_memory text).1]
      exact puts text here
    · intro f g here
      rw [(f.write_memory text).2.1, (g.write_memory text).2.1]
      exact puts text here
    · intro f g here
      rw [(f.write_memory "").2.2, (g.write_memory "").2.2]
      exact .done _ here
  have waits : ∀ {act : Action (Frame TextBuffer) Reply}, Action.Follows c act act →
      (act f).Follows c (act g) := fun follows => follows.run here
  -- A change of the writer alone, and of what is captured.
  have changesWriter : ∀ (change : AttributeWriter → Except Misuse AttributeWriter)
      {f g : Frame TextBuffer}, now f g →
      (Frame.changeWriter change f).Follows c (Frame.changeWriter change g) := by
    intro change f g here
    unfold Frame.changeWriter Frame.change
    dsimp only
    rw [(veils.resembles here).writer]
    cases change g.pass.writer with
    | ok w => exact .done _ (veils.writer here w)
    | error m => exact .done _ here
  have replies : ∀ {act ref : Action (Frame TextBuffer) Unit}, (act f).Follows c (ref g) →
      (act.unit f).Follows c (ref.unit g) := fun follows =>
    follows.bind (fun _ _ _ here => .done _ here) fun _ _ _ _ => .trivially _
  by_cases writing : call.writes = true
  · have prepared : now { f with pass := call.prepare f.pass }
        { g with pass := call.prepare g.pass } := by
      cases call with
      | endAttribute =>
        have closed := veils.writer here f.pass.writer.close.2
        rw [writer] at closed
        simpa only [prepare, writer] using closed
      | renderBody =>
        have rendered := veils.input here
          (f.pass.input?.map fun input => { input with bodyRendered := true })
        simpa only [prepare, input] using rendered
      | _ => exact here
    rw [perform_output nesting call f writing, perform_output nesting call g writing,
      call.output_congr nesting config writer input]
    exact (Action.Follows.output respects (natural id respects) g.pass call).run prepared
  · cases call with
    | beginAttribute head => exact replies (changesWriter _ here)
    | attributeValue head value =>
      refine replies (((Action.Follows.resolve nesting value).run here).bind ?_ ?_)
      · exact fun m f g here => changesWriter _ here
      · exact fun _ _ _ _ => .trivially _
    | beginSection name =>
      refine replies ?_
      unfold Frame.change Pass.beginSection
      dsimp only
      rw [opened]
      cases g.pass.openSection? with
      | some openName => exact .done _ here
      | none =>
        have defined : f.pass.definesSection name = g.pass.definesSection name := by
          rw [Pass.definesSection, Pass.definesSection, sections]
        dsimp only
        rw [defined]
        cases g.pass.definesSection name with
        | true => exact .done _ here
        | false => exact .done _ (veils.opens here name)
    | isSectionDefined name =>
      refine waits (.read fun f g here => ?_)
      rw [Pass.isSectionDefined, Pass.isSectionDefined, (veils.resembles here).input]
    | encoding => exact waits (.read fun f g here => by rw [(veils.resembles here).config])
    | config => exact waits (.read fun f g here => by rw [(veils.resembles here).config])
    | cancel => exact .done _ (veils.cancelled here true)
    | isCancelled => exact waits (.read fun f g here => by rw [(veils.resembles here).cancelled])
    | ensureNotCancelled =>
      refine waits (.unit (.bind (.read fun f g here => (veils.resembles here).cancelled) ?_))
      intro cancelled
      split
      · exact .fail _
      · exact .pure ()
    | fail error => exact waits (.fail error)
    | wait polls => exact waits (.unit (.wait polls))
    | stall => exact waits (.unit .stall)
    | setLayout _ | endSection => cases stays
    | _ => exact absurd rfl writing

end Call

namespace Step

variable [Destination σ] [Destination τ] {nesting : Nesting} {good : Entry → Prop}
  {step : Step} {rest : List Step} {f : Frame σ}

/-- However the steps are played, every call that they make is such. -/
def Only (nesting : Nesting) (good : Entry → Prop) (steps : List Step) (f : Frame σ) : Prop :=
  ∀ history g whole, Played nesting steps f history g whole → ∀ e ∈ history, good e

namespace Only

omit [Destination τ]

theorem nil (f : Frame σ) : Only nesting good [] f := by
  intro history g whole played
  cases played <;> exact List.forall_mem_nil _

theorem cons (needed : step.isSkipped f.pass = false)
    (first : ∀ more, good (step.call.entry nesting more f))
    (later : ∀ more, Only nesting good rest ((step.call.perform nesting f).drive more).state) :
    Only nesting good (step :: rest) f := by
  intro history g whole played
  cases played with
  | stop => exact List.forall_mem_nil _
  | skip skipped => cases needed.symm.trans skipped
  | call more _ _ played => exact List.forall_mem_cons.mpr ⟨first more, later more _ _ _ played⟩
  | last more => exact List.forall_mem_singleton.mpr (first more)

theorem first (only : Only nesting good (step :: rest) f)
    (needed : step.isSkipped f.pass = false) (more : Nat) :
    good (step.call.entry nesting more f) :=
  only _ _ _ (.last more needed) _ (List.mem_singleton_self _)

theorem skipped (only : Only nesting good (step :: rest) f)
    (skipped : step.isSkipped f.pass = true) : Only nesting good rest f :=
  fun history g whole played => only history g whole (.skip skipped played)

theorem later (only : Only nesting good (step :: rest) f)
    (needed : step.isSkipped f.pass = false) {more : Nat}
    (goesOn : step.goesOn ((step.call.perform nesting f).drive more).outcome? = true) :
    Only nesting good rest ((step.call.perform nesting f).drive more).state :=
  fun _ _ _ played e member =>
    only _ _ _ (.call more needed goesOn played) e (List.mem_cons_of_mem _ member)

end Only

variable {now : Frame σ → Frame τ → Prop} {alter : Call → Call}

/-- A step goes as a step that goes on alike after a call that goes alike. -/
theorem run_paired (template template' : String) (position position' : Nat) {g : Frame τ}
    (here : now f g) (inputs : ∀ {f g}, now f g → f.pass.input? = g.pass.input?)
    (performs : step.isSkipped f.pass = false →
      (step.call.perform nesting f).Paired now (Run.Together now)
        ((alter step.call).perform nesting g)) :
    (step.run nesting template position f).Paired now (Run.Together now)
      (run nesting template' position' { step with call := alter step.call } g) := by
  have skips : ∀ p q : Pass, p.input? = q.input? →
      step.isSkipped p = isSkipped { step with call := alter step.call } q := by
    intro p q input
    unfold isSkipped Pass.isSectionDefined
    rw [input]
  have same := skips f.pass g.pass (inputs here)
  cases skipped : step.isSkipped f.pass with
  | true =>
    rw [step.run_skipped template position f skipped,
      run_skipped template' position' _ g (same.symm.trans skipped)]
    exact .noteLeft _ (.noteRight _ (.done ⟨rfl, here⟩))
  | false =>
    rw [step.run_needed nesting template position f skipped,
      run_needed nesting template' position' _ g (same.symm.trans skipped)]
    refine (performs skipped).attempt_bind fun o s t ends => .noteLeft _ (.noteRight _ ?_)
    cases o with
    | ok reply => exact .done ⟨rfl, ends⟩
    | tooDeep => exact .done ⟨rfl, ends⟩
    | failed e | misused m =>
      dsimp only
      split <;> exact .done ⟨rfl, ends⟩

/-- Steps go as steps whose calls go alike, as long as they make such calls. -/
theorem runAll_paired (template template' : String) (position position' : Nat)
    (steps : List Step) {g : Frame τ} (here : now f g)
    (inputs : ∀ {f g}, now f g → f.pass.input? = g.pass.input?)
    (performs : ∀ step ∈ steps, ∀ {f g}, now f g →
      (∀ more, good (step.call.entry nesting more f)) →
      (step.call.perform nesting f).Paired now (Run.Together now)
        ((alter step.call).perform nesting g))
    (only : Only nesting good steps f) :
    (runAll nesting template position steps f).Paired now (Run.Together now)
      (runAll nesting template' position'
        (steps.map fun step => { step with call := alter step.call }) g) := by
  induction steps generalizing position position' f g with
  | nil => exact .done ⟨rfl, here⟩
  | cons step rest ih =>
    have first := run_paired template template' position position' here inputs fun needed =>
      performs step (List.mem_cons_self ..) here (only.first needed)
    refine first.reached.bind ?_
    rintro o _ s t ⟨⟨rfl, ends⟩, more, ended, rfl⟩
    cases o with
    | ok _ =>
      refine ih (position + 1) (position' + 1) ends
        (fun later member => performs later (List.mem_cons_of_mem step member)) ?_
      cases skipped : step.isSkipped f.pass with
      | true =>
        rw [step.run_skipped template position f skipped]
        exact only.skipped skipped
      | false =>
        obtain ⟨state, -, -, goes⟩ := step.drive_run nesting template position f more skipped
        rw [state]
        exact only.later skipped (goes.mp ended)
    | failed e => exact .done ⟨rfl, ends⟩
    | misused m => exact .done ⟨rfl, ends⟩
    | tooDeep => exact .done ⟨rfl, ends⟩

end Step

end Templating
