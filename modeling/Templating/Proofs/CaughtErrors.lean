import Templating.Destination.BlockingSink
import Templating.Destination.Recorder
import Templating.Destination.StagedSink
import Templating.Proofs.BodyHistory
import Templating.Proofs.Composition
import Templating.Proofs.Renders
import Templating.Proofs.SilentRuns

/-!
# Caught errors

Some errors are found before a call has done anything: a layout comes too late, a section is
defined twice, or not at all, there is no page to render, or the value of an attribute fails to
render. A call that fails with such an error leaves its frame as it was
(`Call.perform_refused`), so a body that goes on after it renders as if the call were not there
(`Catalog.refusals_traceless`).
-/

namespace Templating

variable {σ : Type}

/-- The errors of a layout that looks for what its page did not give it. -/
def RenderError.isLookup : RenderError → Bool
  | notInLayout | sectionNotDefined _ => true
  | _ => false

/-- The destination does not report the errors of a lookup, which are the renderer's own. -/
def Destination.Candid (σ : Type) [Destination σ] : Prop :=
  ∀ (text : String) (s : σ) (e : RenderError),
    (Destination.write text s).1 = .error e → e.isLookup = false

/-- With such an error the call is refused before it has done anything. -/
def Call.isRefusal : Call → RenderError → Bool
  | setLayout _, .layoutAfterOutput | beginSection _, .sectionAlreadyDefined _ => true
  | renderBody, e | renderSection _, e | renderSectionOptional _, e => e.isLookup
  | attributeValue _ _, _ => true
  | _, _ => false

namespace Destination

theorem Candid.buffer : Candid TextBuffer :=
  fun _ _ _ => nofun

theorem Candid.recorder : Candid Recorder := by
  intro text r e refused
  simp only [Destination.write, Recorder.take] at refused
  split at refused <;> cases refused
  rfl

theorem Candid.staged : Candid StagedSink :=
  fun _ _ _ => nofun

theorem Candid.blocking : Candid BlockingSink := by
  have sends : ∀ (script : List WriteAnswer) (w : ScriptedWriter) (bytes : List UInt8)
      (e : RenderError), (w.sendBlocking script bytes).1 = .error e → e.isLookup = false := by
    intro script w bytes
    fun_induction ScriptedWriter.sendBlocking w script bytes with
    | case1 => exact fun _ => nofun
    | case2 => exact fun _ => nofun
    | case3 =>
      rintro _ ⟨⟩
      rfl
    | case4 => assumption
    | case5 => assumption
    | case6 => assumption
    | case7 =>
      rintro _ ⟨⟩
      rfl
  exact fun text b e refused => sends b.writer.script b.writer (ScriptedWriter.utf8 text) e refused

theorem Candid.frame [Destination σ] (candid : Candid σ) : Candid (Frame σ) := by
  intro text f e refused
  cases captured : f.pass.captures with
  | cons c rest => simp [Destination.write, captured] at refused
  | nil =>
    simp only [Destination.write, captured] at refused
    exact candid text f.task.sink e refused

end Destination

theorem Action.write_candid [Destination σ] (candid : Destination.Candid σ) (text : String)
    (s : σ) :
    ∃ o s', Action.write text s = .done o s' ∧ ∀ e, o = .failed e → e.isLookup = false := by
  unfold Action.write Action.ofStep
  cases answer : Destination.write text s with
  | mk result s' =>
    cases result with
    | ok _ => exact ⟨.ok (), s', rfl, nofun⟩
    | error e =>
      refine ⟨.failed e, s', rfl, ?_⟩
      rintro _ ⟨⟩
      exact candid text s e (congrArg Prod.fst answer)

theorem Content.write_pauses (nesting : Nesting) (content : Content) (b : TextBuffer) :
    (content.write nesting b).pauses = [] := by
  have texts : ∀ texts : List String, (Action.writeAll texts b).pauses = [] := by
    intro texts
    rw [b.writeAll_eq texts]
    rfl
  cases content with
  | html text => exact texts _
  | marked text => exact texts _
  | template name => exact Run.pauses_firstPoll _

/-- A value resolves as it is written to memory that is empty: it ends alike, to the same text, and
leaves everything around it alone. -/
theorem Value.resolve_output (nesting : Nesting) (encoding : Encoding) (value : Value) (s : σ) :
    ∃ (o : Outcome Unit) (b : TextBuffer) (m : MarkedText),
      (value.output nesting encoding ({} : TextBuffer)).silent = .done o b ∧
        (value.resolve nesting s).silent = .done (o.map fun _ => m) s ∧
        m.shown encoding = b.text := by
  have portions : ∀ m : MarkedText, m.shown encoding =
      (({} : TextBuffer).push (String.join (m.portions encoding))).text := by
    intro m
    rw [m.join_portions, TextBuffer.push_text, String.empty_append]
  have rendered : ∀ act : Action TextBuffer Unit, (act {}).pauses = [] →
      ∃ (o : Outcome Unit) (b : TextBuffer) (m : MarkedText), (act {}).silent = .done o b ∧
        ((Action.inMemory act s).bind fun text s => .done (.ok (MarkedText.raw text)) s).silent =
          .done (o.map fun _ => m) s ∧ m.shown encoding = b.text := by
    intro act unwaiting
    obtain ⟨o, ended⟩ := Run.silent_eq_done unwaiting
    have kept : (Action.inMemory act s).silent =
        .done (o.map fun _ => (act {}).await.state.text) s := by
      unfold Action.inMemory
      rw [Run.silent_recast, ended]
      rfl
    refine ⟨o, _, .raw (act {}).await.state.text, ended, ?_, rfl⟩
    rw [Run.silent_bind, kept]
    cases o <;> rfl
  -- What the value writes by itself is not affected by the encoding.
  cases value with
  | plain text? =>
    exact ⟨.ok (), _, .dynamic text?, congrArg Run.silent (TextBuffer.writeAll_eq _ _), rfl,
      portions _⟩
  | safe text =>
    exact ⟨.ok (), _, .raw text, congrArg Run.silent (TextBuffer.writeAll_eq _ _), rfl,
      portions _⟩
  | encoded content => exact rendered _ (content.write_pauses nesting {})
  | template name => exact rendered _ (Run.pauses_firstPoll _)

/-- If the run fails with one of these errors, it has left the state `s` alone and did not wait. -/
def Run.Spares {α : Type} (errors : RenderError → Bool) (s : σ) (r : Run σ α) : Prop :=
  ∀ e, errors e = true → r.await.outcome? = some (.failed e) → r.silent = .done (.failed e) s

namespace Run.Spares

variable {α β : Type} {errors : RenderError → Bool} {s : σ} {r : Run σ α}

theorem of_silent {o : Outcome α} (ended : r.silent = .done o s) : r.Spares errors s := by
  intro e _ failed
  rw [← silent_outcome, ended] at failed
  obtain rfl : o = .failed e := Option.some.inj failed
  exact ended

theorem of_outcome (others : ∀ e, r.await.outcome? = some (.failed e) → errors e = false) :
    r.Spares errors s :=
  fun e included failed => absurd included (Bool.eq_false_iff.mp (others e failed))

theorem bind {o : Outcome α} {k : α → σ → Run σ β} (ended : r.silent = .done o s)
    (later : ∀ a, (k a s).Spares errors s) : (r.bind k).Spares errors s := by
  have bound := silent_bind r k
  rw [ended] at bound
  cases o with
  | ok a =>
    intro e included failed
    rw [← silent_outcome, bound] at failed
    rw [bound]
    exact later a e included ((silent_outcome (k a s)).symm.trans failed)
  | failed e => exact of_silent bound
  | misused m => exact of_silent bound
  | tooDeep => exact of_silent bound

/-- Neither what came before nor what follows on its value fails with such an error. -/
theorem of_done {o : Outcome α} {s' : σ} {k : α → σ → Run σ β}
    (others : ∀ e, o = .failed e → errors e = false)
    (later : ∀ a, o = .ok a → ∀ e, (k a s').await.outcome? = some (.failed e) → errors e = false) :
    ((Run.done o s').bind k).Spares errors s := by
  refine of_outcome fun e failed => ?_
  cases o with
  | ok a => exact later a rfl e failed
  | failed e' =>
    obtain rfl : e' = e := by cases failed; rfl
    exact others e' rfl
  | misused m => cases failed
  | tooDeep => cases failed

end Run.Spares

namespace Frame

variable {errors : RenderError → Bool} {f : Frame σ}

/-- A change that fails is none. -/
theorem change_spares (change : Pass → Outcome Pass) :
    ((Frame.change change).unit f).Spares errors f := by
  rw [Frame.change_unit]
  cases change f.pass with
  | ok pass => exact .of_outcome nofun
  | failed e => exact .of_silent rfl
  | misused m => exact .of_silent rfl
  | tooDeep => exact .of_silent rfl

/-- The value is rendered before the attribute is touched. -/
theorem attributeValue_unit (nesting : Nesting) (head : FragmentHead) (value : Value)
    (f : Frame σ) :
    (Frame.attributeValue nesting head value).unit f =
      (value.resolve nesting f).bind fun value f =>
        (Frame.changeWriter (·.add { head, value })).unit f :=
  Run.bind_assoc _ _ _

theorem attributeValue_spares (nesting : Nesting) (head : FragmentHead) (value : Value) :
    ((Frame.attributeValue nesting head value).unit f).Spares errors f := by
  obtain ⟨o, b, m, -, resolved, -⟩ := value.resolve_output nesting .raw f
  rw [attributeValue_unit]
  exact .bind resolved fun value => change_spares _

variable [Destination σ]

/-- A section is looked up before anything is written. -/
theorem sectionOutput_cases (candid : Destination.Candid σ) (name : String) (f : Frame σ) :
    ∃ o f', f.pass.sectionOutput name f = .done o f' ∧
      (f' = f ∨ o ≠ .ok false ∧ ∀ e, o = .failed e → e.isLookup = false) := by
  cases page : f.pass.input? with
  | none =>
    refine ⟨.failed .notInLayout, f, ?_, .inl rfl⟩
    simp only [Pass.sectionOutput, page]
    rfl
  | some input =>
    cases found : input.sections.lookup name with
    | none => exact ⟨.ok false, f, Pass.sectionOutput_absent page found f, .inl rfl⟩
    | some text =>
      obtain ⟨o, f', written, unasked⟩ := Action.write_candid candid.frame text f
      rw [Pass.sectionOutput_found page found, written]
      cases o with
      | ok _ => exact ⟨.ok true, f', rfl, .inr (by simp)⟩
      | failed e =>
        have own : e.isLookup = false := unasked e rfl
        exact ⟨.failed e, f', rfl, .inr (by simpa using own)⟩
      | misused m => exact ⟨.misused m, f', rfl, .inr (by simp)⟩
      | tooDeep => exact ⟨.tooDeep, f', rfl, .inr (by simp)⟩

theorem renderBody_spares (candid : Destination.Candid σ) (nesting : Nesting) :
    (Call.renderBody.perform nesting f).Spares RenderError.isLookup f := by
  rw [Call.perform_output nesting .renderBody f rfl]
  cases page : f.pass.input? with
  | none =>
    have same : Call.renderBody.prepare f.pass = f.pass := by
      rw [Call.prepare, page, Option.map_none, ← page]
    rw [same]
    refine .of_silent (o := .failed .notInLayout) ?_
    simp only [Call.output, page]
    rfl
  | some input =>
    obtain ⟨o, f', written, unasked⟩ := Action.write_candid candid.frame input.body
      { f with pass := Call.renderBody.prepare f.pass }
    have made : Call.renderBody.output nesting f.pass
        { f with pass := Call.renderBody.prepare f.pass } =
          (Run.done o f').bind fun _ f => .done (.ok .unit) f := by
      rw [← written]
      simp only [Call.output, page]
      rfl
    rw [made]
    refine .of_done unasked ?_
    rintro _ _ e ⟨⟩

theorem renderSectionOptional_spares (candid : Destination.Candid σ) (nesting : Nesting)
    (name : String) :
    ((Call.renderSectionOptional name).perform nesting f).Spares RenderError.isLookup f := by
  obtain ⟨o, f', made, spared⟩ := sectionOutput_cases candid name f
  have performed : (Call.renderSectionOptional name).perform nesting f =
      (Run.done o f').bind fun found f => .done (.ok (.flag found)) f := by
    rw [← made, Call.perform_output nesting (.renderSectionOptional name) f rfl]
    rfl
  rw [performed]
  rcases spared with rfl | ⟨-, unasked⟩
  · cases o <;> exact .of_silent rfl
  · refine .of_done unasked ?_
    rintro _ _ e ⟨⟩

/-- A section that is missing is reported after it was looked up, and nothing was written. -/
theorem renderSection_spares (candid : Destination.Candid σ) (nesting : Nesting)
    (name : String) :
    ((Call.renderSection name).perform nesting f).Spares RenderError.isLookup f := by
  obtain ⟨o, f', made, spared⟩ := sectionOutput_cases candid name f
  have performed : (Call.renderSection name).perform nesting f =
      (Run.done o f').bind fun found f =>
        .done (if found then .ok .unit else .failed (.sectionNotDefined name)) f := by
    rw [← made, Call.perform_output nesting (.renderSection name) f rfl]
    refine (Run.bind_assoc _ _ _).trans (congrArg (Run.bind · _) ?_)
    funext found f
    cases found <;> rfl
  rw [performed]
  rcases spared with rfl | ⟨absent, unasked⟩
  · cases o with
    | ok found => cases found <;> exact .of_silent rfl
    | _ => exact .of_silent rfl
  · refine .of_done unasked fun found value e failed => ?_
    cases found with
    | false => exact absurd value absent
    | true => cases failed

end Frame

namespace Call

variable [Destination σ] {nesting : Nesting} {f : Frame σ} {e : RenderError}

/-- A call that is refused leaves its frame as it was, and does not wait. -/
theorem perform_refused (candid : Destination.Candid σ) {call : Call}
    (refusal : call.isRefusal e = true)
    (failed : (call.perform nesting f).await.outcome? = some (.failed e)) :
    (call.perform nesting f).silent = .done (.failed e) f := by
  have every : ∀ {r : Run (Frame σ) Reply}, r.Spares (fun _ => true) f →
      r.await.outcome? = some (.failed e) → r.silent = .done (.failed e) f :=
    fun spares failed => spares e rfl failed
  cases call with
  | setLayout name => exact every (Frame.change_spares _) failed
  | beginSection name => exact every (Frame.change_spares _) failed
  | attributeValue head value =>
    exact every (Frame.attributeValue_spares nesting head value) failed
  | renderBody => exact Frame.renderBody_spares candid nesting e refusal failed
  | renderSection name => exact Frame.renderSection_spares candid nesting name e refusal failed
  | renderSectionOptional name =>
    exact Frame.renderSectionOptional_spares candid nesting name e refusal failed
  | _ => cases refusal

end Call

namespace Step

/-- The steps but for those at the positions that are dropped. -/
def without (dropped : Nat → Bool) : List Step → List Step
  | [] => []
  | step :: rest =>
    let later := without (fun position => dropped (position + 1)) rest
    if dropped 0 then later else step :: later

variable [Destination σ] {nesting : Nesting} {f : Frame σ}

/-- The call of the step is refused here, and the body goes on. -/
def IsIgnored (nesting : Nesting) (step : Step) (f : Frame σ) : Prop :=
  step.tolerant = true ∧ step.isSkipped f.pass = false ∧
    ∃ e, step.call.isRefusal e = true ∧
      (step.call.perform nesting f).await.outcome? = some (.failed e)

/-- If the steps are run from `f`, each that is dropped is ignored when its turn comes. -/
def AreIgnored (nesting : Nesting) (template : String) (start : Nat) (steps : List Step)
    (dropped : Nat → Bool) (f : Frame σ) : Prop :=
  ∀ position step g, dropped position = true → steps[position]? = some step →
    (runAll nesting template start (steps.take position) f).Returns () g →
      step.IsIgnored nesting g

/-- Its position in the body makes no difference to a step. -/
theorem run_silent (nesting : Nesting) (template : String) (start start' : Nat) (step : Step)
    (f : Frame σ) :
    (step.run nesting template start f).silent = (step.run nesting template start' f).silent := by
  cases skipped : step.isSkipped f.pass with
  | true =>
    rw [run_skipped template start step f skipped, run_skipped template start' step f skipped]
    rfl
  | false =>
    rw [run_needed nesting template start step f skipped,
      run_needed nesting template start' step f skipped]
    refine Run.silent_bind_congr rfl fun o g _ => ?_
    cases o <;> rfl

theorem IsIgnored.run_silent (candid : Destination.Candid σ) {step : Step}
    (ignored : step.IsIgnored nesting f) (template : String) (start : Nat) :
    (step.run nesting template start f).silent = .done (.ok ()) f := by
  obtain ⟨tolerant, needed, e, refusal, failed⟩ := ignored
  rw [run_needed nesting template start step f needed, Run.silent_bind, Run.silent_recast,
    Call.perform_refused candid refusal failed]
  show (step.after template start (.failed e) f).silent = .done (.ok ()) f
  simp only [after, tolerant, if_true]
  rfl

/-- Steps that are ignored may be left out. -/
theorem runAll_without (candid : Destination.Candid σ) (template : String) (start start' : Nat)
    (steps : List Step) {dropped : Nat → Bool}
    (ignored : AreIgnored nesting template start steps dropped f) :
    (runAll nesting template start steps f).silent =
      (runAll nesting template start' (without dropped steps) f).silent := by
  -- The two runs are at the same frame throughout; only their positions in the body part.
  induction steps generalizing start start' dropped f with
  | nil => rfl
  | cons step rest ih =>
    have later : ∀ g, (step.run nesting template start f).Returns () g →
        AreIgnored nesting template (start + 1) rest (fun place => dropped (place + 1)) g := by
      intro g ran position step' h drop found returned
      refine ignored (position + 1) step' h drop found ?_
      exact (Run.returns_bind _ _ () h).mpr ⟨(), g, ran, returned⟩
    have run : (runAll nesting template start (step :: rest) f).silent =
        (step.run nesting template start f).silent.bind
          fun _ g => (runAll nesting template (start + 1) rest g).silent :=
      Run.silent_bind _ _
    unfold without
    cases drop : dropped 0 with
    | true =>
      have ignored := ignored 0 step f drop rfl ⟨rfl, rfl⟩
      have ran := ignored.run_silent candid template start
      have returned : (step.run nesting template start f).Returns () f := by
        rw [← Run.silent_returns, ran]
        exact ⟨rfl, rfl⟩
      rw [run, ran]
      exact ih (start + 1) start' (later f returned)
    | false =>
      refine Run.silent_bind_congr (step.run_silent nesting template start start' f) ?_
      exact fun _ g ran => ih (start + 1) (start' + 1) (later g ran)

end Step

/-- The body but for the calls of the steps that are dropped. -/
def Body.without (dropped : Nat → Bool) (body : Body) : Body :=
  { body with steps := Step.without dropped body.steps }

def Blueprint.without (dropped : Nat → Bool) (b : Blueprint) : Blueprint :=
  { b with body := b.body.without dropped }

section Executions

variable [Destination σ]

/-- In a pass of its own, which starts like this, the body ignores each step that is dropped. -/
def Body.Ignores (catalog : Catalog) (depth : Nat) (config : Config) (input? : Option LayoutInput)
    (task : Task σ) (dropped : Nat → Bool) (body : Body) : Prop :=
  Step.AreIgnored (catalog.nesting depth) body.name 0 body.steps dropped
    { pass := .start config input?, task }

theorem execute_without (candid : Destination.Candid σ) {catalog : Catalog} {depth : Nat}
    {config : Config} {body : Body} {input? : Option LayoutInput} {task : Task σ}
    {dropped : Nat → Bool} (ignores : body.Ignores catalog depth config input? task dropped) :
    (execute catalog (depth + 1) config body input? task).silent =
      (execute catalog (depth + 1) config (body.without dropped) input? task).silent := by
  rw [execute_succ, execute_succ]
  refine Run.silent_bind_congr ?_ fun _ _ _ => rfl
  unfold Task.enter
  rw [Run.silent_recast, Run.silent_recast]
  refine congrArg (Run.recast Frame.task _) (Run.silent_bind_congr ?_ fun _ _ _ => rfl)
  exact Step.runAll_without candid body.name 0 0 body.steps ignores

theorem Blueprint.renderCancellable_without (candid : Destination.Candid σ) {catalog : Catalog}
    {depth : Nat} {b : Blueprint} {s : σ} {dropped : Nat → Bool}
    (ignores : b.body.Ignores catalog depth b.config none { sink := s } dropped)
    (allowed : Option Nat) :
    (b.renderCancellable catalog (depth + 1) allowed s).silent =
      ((b.without dropped).renderCancellable catalog (depth + 1) allowed s).silent := by
  unfold renderCancellable Task.isolate
  rw [Run.silent_recast, Run.silent_recast]
  refine congrArg (Run.recast Task.sink _) ?_
  unfold Action.untilCancelled
  split
  · rfl
  · rw [Run.silent_untilCancelled, Run.silent_untilCancelled, execute_without candid ignores]
    rfl

theorem Blueprint.renderTo_without (candid : Destination.Candid σ) {catalog : Catalog}
    {depth : Nat} {b : Blueprint} {s : σ} {dropped : Nat → Bool}
    (ignores : b.body.Ignores catalog depth b.config none { sink := s } dropped)
    (allowed : Option Nat) :
    (b.renderTo catalog (depth + 1) allowed s).silent =
      ((b.without dropped).renderTo catalog (depth + 1) allowed s).silent := by
  rw [renderTo_eq, renderTo_eq]
  refine Run.silent_bind_congr ?_ fun _ _ _ => rfl
  rw [Run.silent_recast, Run.silent_recast, renderCancellable_without candid ignores allowed]

theorem Blueprint.renderToBuffer_without {catalog : Catalog} {depth : Nat} {b : Blueprint}
    {t : TextBuffer} {dropped : Nat → Bool}
    (ignores : b.body.Ignores catalog depth b.config none { sink := t } dropped)
    (allowed : Option Nat) :
    (b.renderToBuffer catalog (depth + 1) allowed t).silent =
      ((b.without dropped).renderToBuffer catalog (depth + 1) allowed t).silent := by
  rw [renderToBuffer_eq, renderToBuffer_eq]
  exact Run.silent_bind_congr (renderCancellable_without .buffer ignores allowed) fun _ _ _ => rfl

/-- A call that is refused, whatever the state of its pass, leaves the frame as it was: what is
captured, the sections, the layout, what the layout may render and what it has rendered, the open
attribute, whether anything was written, and the sink. So a body that goes on after such failures,
in a pass of a page, of a layout or of a nested template, goes as if it did not make those calls,
also in its finish and in the layouts that follow; and whole renders, polled and cancelled alike,
show the same text at every poll and come to the same outcome. -/
theorem Catalog.refusals_traceless (catalog : Catalog) (depth : Nat)
    (candid : Destination.Candid σ) :
    (∀ (f : Frame σ) (call : Call) (e : RenderError), call.isRefusal e = true →
      (call.perform (catalog.nesting depth) f).await.outcome? = some (.failed e) →
        (call.perform (catalog.nesting depth) f).silent = .done (.failed e) f) ∧
    (∀ (config : Config) (body : Body) (input? : Option LayoutInput) (task : Task σ)
      (dropped : Nat → Bool), body.Ignores catalog depth config input? task dropped →
        (execute catalog (depth + 1) config body input? task).silent =
          (execute catalog (depth + 1) config (body.without dropped) input? task).silent) ∧
    (∀ (b : Blueprint) (s : σ) (dropped : Nat → Bool),
      b.body.Ignores catalog depth b.config none { sink := s } dropped →
        ∀ (allowed : Option Nat) (more : Nat),
          let d := (b.renderTo catalog (depth + 1) allowed s).drive more
          let d' := ((b.without dropped).renderTo catalog (depth + 1) allowed s).drive more
          d.state = d'.state ∧ d.outcome? = d'.outcome? ∧ d.polls = d'.polls) ∧
    ∀ (b : Blueprint) (t : TextBuffer) (dropped : Nat → Bool),
      b.body.Ignores catalog depth b.config none { sink := t } dropped →
        ∀ (allowed : Option Nat) (more : Nat),
          let d := (b.renderToBuffer catalog (depth + 1) allowed t).drive more
          let d' := ((b.without dropped).renderToBuffer catalog (depth + 1) allowed t).drive more
          d.state = d'.state ∧ d.outcome? = d'.outcome? ∧ d.polls = d'.polls := by
  refine ⟨fun f call e refusal failed => Call.perform_refused candid refusal failed,
    fun config body input? task dropped ignores => execute_without candid ignores, ?_, ?_⟩
  · intro b s dropped ignores allowed more
    exact Run.drive_of_silent (Blueprint.renderTo_without candid ignores allowed) more
  · intro b t dropped ignores allowed more
    exact Run.drive_of_silent (Blueprint.renderToBuffer_without ignores allowed) more

/-- A template that fails, and a page that goes on after every failure. -/
def carelessSite : Catalog
  | "broken" => { body := { name := "broken", steps := [{ call := .literal "lost" },
      { call := .fail (.body "broken" []) }] } }
  | _ =>
    let caught (call : Call) : Step := { call, tolerant := true }
    { body := { name := "page", steps := [{ call := .literal "<p" },
      caught (.setLayout "broken"),
      { call := .beginAttribute { name := "id", opening := " id=", declared := 1 } },
      caught (.attributeValue {} (.template "broken")),
      { call := .attributeValue {} (.plain (some "x")) },
      { call := .endAttribute },
      { call := .beginSection "menu" },
      caught .renderBody,
      { call := .endSection },
      caught (.beginSection "menu"),
      caught (.renderSection "menu"),
      { call := .literal ">" }] } }

theorem Catalog.refusals_traceless_carelessSite :
    let page := carelessSite "page"
    let dropped := fun position => [1, 3, 7, 9, 10].contains position
    let d := (page.renderToBuffer carelessSite 2 none {}).drive 0
    let d' := ((page.without dropped).renderToBuffer carelessSite 2 none {}).drive 0
    Destination.Candid TextBuffer ∧
      page.body.Ignores carelessSite 1 page.config none { sink := ({} : TextBuffer) } dropped ∧
      d.state = d'.state ∧ d.outcome? = d'.outcome? ∧ d'.outcome? = some (.ok "<p id=x>") := by
  intro page dropped d d'
  have ignores :
      page.body.Ignores carelessSite 1 page.config none { sink := ({} : TextBuffer) } dropped := by
    intro position step g drop found returned
    have places : position = 1 ∨ position = 3 ∨ position = 7 ∨ position = 9 ∨ position = 10 := by
      simpa [dropped] using drop
    obtain ⟨-, rfl⟩ := returned
    rcases places with rfl | rfl | rfl | rfl | rfl <;> obtain rfl := Option.some.inj found
    · exact ⟨rfl, rfl, .layoutAfterOutput, rfl, by decide +kernel⟩
    · exact ⟨rfl, rfl, .body "broken" [], rfl, by decide +kernel⟩
    · exact ⟨rfl, rfl, .notInLayout, rfl, by decide +kernel⟩
    · exact ⟨rfl, rfl, .sectionAlreadyDefined "menu", rfl, by decide +kernel⟩
    · exact ⟨rfl, rfl, .notInLayout, rfl, by decide +kernel⟩
  obtain ⟨-, -, -, traceless⟩ := carelessSite.refusals_traceless 1 Destination.Candid.buffer
  obtain ⟨state, outcome, -⟩ := traceless page {} dropped ignores none 0
  refine ⟨.buffer, ignores, state, outcome, ?_⟩
  decide +kernel

end Executions

end Templating
