import Templating.Proofs.OwnBuffer
import Templating.Proofs.PlacedTexts

/-!
# The body of the page

A page that chose a layout leaves its body to it, and the layout may hand it on to a layout of its
own. Under `requireLayoutBody` every layout has to render the body that it was given; but what that
writes is a text like any other, and it goes the way of the place where it is written. `Carried`
says that the passes of a chain hand a text on from place to place until the last one writes it
outside of its sections. If so, a render that succeeds has delivered it in one piece
(`Template.pageBody_delivered`); a layout that renders the body into a section that nobody renders
loses it, and the render succeeds all the same (`pageBody_lost`).
-/

namespace Templating

open ScriptedWriter (utf8)

variable {σ α : Type}

theorem Run.drive_await_polls {r : Run σ α} (ended : r.await.outcome? ≠ none) :
    r.drive r.await.polls = r.await := by
  induction r with
  | done o s => rfl
  | note e rest ih => simp only [await, drive, ih ended]
  | pause s rest ih => simp only [await, drive, ih () ended]
  | stalled s => exact absurd rfl ended

/-- The calls that the steps of a body make from this frame on, each polled to its end. -/
def Step.history [Destination σ] (nesting : Nesting) : List Step → Frame σ → List Entry
  | [], _ => []
  | step :: rest, f =>
    if step.isSkipped f.pass then history nesting rest f
    else
      let made := (step.call.perform nesting f).await
      step.call.entry nesting made.polls f ::
        if step.goesOn made.outcome? then history nesting rest made.state else []

/-- The passes that an execution makes, the one over its own body first. -/
def Catalog.turns (catalog : Catalog) :
    (depth : Nat) → {σ : Type} → [Destination σ] → Config → Body → Option LayoutInput → Task σ →
      List Turn
  | 0, _, _, _, _, _, _ => []
  | depth + 1, _, _, config, body, input?, task =>
    let start := { pass := .start config input?, task }
    let pass := (catalog.pass depth body start).await
    { input?, history := Step.history (catalog.nesting depth) body.steps start } ::
      match pass.outcome? with
      | some (.ok (some next)) =>
        Catalog.turns catalog depth config (catalog next.layout).body (some next.input)
          pass.state.task
      | _ => []

theorem Catalog.turns_input [Destination σ] {catalog : Catalog} {depth : Nat} {config : Config}
    {body : Body} {input? : Option LayoutInput} {task : Task σ} {turn : Turn} {later : List Turn}
    (turns : catalog.turns depth config body input? task = turn :: later) :
    turn.input? = input? := by
  cases depth with
  | zero => cases turns
  | succ depth =>
    obtain ⟨rfl, -⟩ := List.cons.inj turns
    rfl

/-- The passes of a render: over the page, and then over its layouts. -/
def Blueprint.turns [Destination σ] (catalog : Catalog) (depth : Nat) (b : Blueprint) (sink : σ) :
    List Turn :=
  catalog.turns depth b.config b.body none { sink }

/-- The pass wrote at `target` what the page had written at `source`, and kept it. -/
def Turn.PassesOn (t : Turn) (source target : Place) : Prop :=
  ∃ before e after, t.history = before ++ e :: after ∧ e.call.source? = some source ∧
    e.succeeded = true ∧ Place.ofHistory before = target ∧
    (target = .outside → t.layout? ≠ none → ∀ later ∈ after, ¬ later.uncaptures)

/-- What the page wrote at this place the layouts pass on, each to where the next looks for it, and
the last one writes it outside of its sections. -/
def Carried (source : Place) : List Turn → Prop
  | [] => source = .outside
  | turn :: later => ∃ target, turn.PassesOn source target ∧ Carried target later

variable [Destination σ] {nesting : Nesting}

theorem Step.runAll_leads {template : String} {position : Nat} {steps : List Step}
    {f f' : Frame σ} (returned : (Step.runAll nesting template position steps f).Returns () f') :
    Frame.Leads nesting f (Step.history nesting steps f) f' := by
  induction steps generalizing position f with
  | nil =>
    obtain ⟨-, rfl⟩ := (Run.returns_done _ _ _ _).mp returned
    exact .nil f
  | cons step rest ih =>
    obtain ⟨_, g, first, later⟩ := (Run.returns_bind _ _ () f').mp returned
    unfold Step.history
    cases skipped : step.isSkipped f.pass with
    | true =>
      rw [step.run_skipped template position f skipped] at first
      obtain ⟨-, rfl⟩ := (Run.returns_done _ _ _ _).mp first
      exact ih later
    | false =>
      obtain ⟨more, ok, state⟩ := first.drive
      obtain ⟨stays, -, -, goes⟩ := step.drive_run nesting template position f more skipped
      have goesOn := goes.mp ok
      have ended : ((step.call.perform nesting f).drive more).outcome? ≠ none := by
        intro unfinished
        rw [unfinished] at goesOn
        cases goesOn
      have awaited := Run.await_of_ended ended
      have made : ((step.call.perform nesting f).drive
          (step.call.perform nesting f).await.polls) = (step.call.perform nesting f).await :=
        Run.drive_await_polls (awaited ▸ ended)
      have left : (step.call.perform nesting f).await.state = g := by
        rw [awaited, ← stays, state]
      simp only [Bool.false_eq_true, ↓reduceIte]
      rw [if_pos (awaited ▸ goesOn), left]
      refine .call step.call _ ?_
      rw [made, left]
      exact ih later

/-- A call that succeeded returned where it was left. -/
theorem Call.returns_of_succeeded {call : Call} {more : Nat} {f : Frame σ}
    (succeeded : (call.entry nesting more f).succeeded = true) :
    ∃ reply, (call.perform nesting f).Returns reply ((call.perform nesting f).drive more).state := by
  unfold Entry.succeeded Call.entry at succeeded
  split at succeeded
  · next o ended =>
    have awaited := Run.await_of_ended (ended ▸ Option.some_ne_none o)
    cases o with
    | ok reply => exact ⟨reply, awaited ▸ ended, awaited ▸ rfl⟩
    | _ => cases succeeded
  · cases succeeded

/-- A layout that passes a text on keeps it at the place where it wrote it. -/
theorem Frame.Leads.passesOn {config : Config} {input : LayoutInput} {task : Task σ} {f : Frame σ}
    {history : List Entry}
    (leads : Frame.Leads nesting { pass := .start config (some input), task } history f)
    (natural : nesting.Natural) {reached : σ → Prop} {holds shown : String → σ → Prop}
    (retains : Retains reached holds shown) (here : reached task.sink)
    (unrendered : input.bodyRendered = false) {source target : Place}
    (passes : Turn.PassesOn { input? := some input, history } source target) {text whole : String}
    (found : input.text? source = some whole) (occurs : Occurs text whole) :
    f.Keeps holds text target := by
  obtain ⟨before, e, after, history, fetches, succeeded, rfl, stays⟩ := passes
  cases history
  obtain ⟨g, earlier, later⟩ := leads.split
  cases later with
  | call call more later =>
    have start : Frame.Agrees config (some input) [] ({ pass := .start config (some input), task } :
        Frame σ) := .start config task fun _ same => Option.some.inj same ▸ unrendered
    have agrees := earlier.agrees natural start
    obtain ⟨reply, returned⟩ := Call.returns_of_succeeded succeeded
    have stands := Frame.Keeps.of_source retains (earlier.sink natural retains.reaches here) agrees
      fetches agrees.input found occurs returned
    refine later.keeps natural (retains.keeps text) (agrees.step natural call more) ?_ stands
    intro outside chosen
    refine stays outside fun unchosen => chosen ?_
    rw [List.nil_append, List.append_assoc]
    exact List.getLast?_eq_none_iff.mp unchosen

/-- An execution that succeeds plays its pass to the end, finishes it, and goes on with the layout
that it chose. -/
theorem execute_returns {catalog : Catalog} {depth : Nat} {config : Config} {body : Body}
    {input? : Option LayoutInput} {task task' : Task σ}
    (returned : (execute catalog (depth + 1) config body input? task).Returns () task') :
    ∃ (history : List Entry) (f : Frame σ),
      Frame.Leads (catalog.nesting depth) { pass := .start config input?, task } history f ∧
      f.pass.unfinished? = none ∧
      (catalog.proceed depth config f.pass.next? f.task).Returns () task' ∧
      catalog.turns (depth + 1) config body input? task = { input?, history } ::
        match f.pass.next? with
        | some next =>
          catalog.turns depth config (catalog next.layout).body (some next.input) f.task
        | none => [] := by
  rw [execute_succ] at returned
  obtain ⟨next?, t, entered, proceeded⟩ := (Run.returns_bind _ _ () task').mp returned
  obtain ⟨f, passed, rfl⟩ := (Run.returns_recast _ _ _ _).mp entered
  obtain ⟨_, g, played, finished⟩ := (Run.returns_bind _ _ next? f).mp passed
  obtain ⟨more, value, state⟩ := finished.drive
  obtain ⟨stays, next⟩ := g.drive_finish more
  obtain ⟨done, rfl⟩ := next next? value
  obtain rfl : g = f := stays.symm.trans state
  refine ⟨_, g, Step.runAll_leads played, done, proceeded, ?_⟩
  rw [Catalog.turns, passed.1, passed.2]
  cases g.pass.next? <;> rfl

/-- A text that is carried to the end reaches the sink, if it is not there already. -/
theorem execute_carries {reached : σ → Prop} {holds shown : String → σ → Prop}
    (retains : Retains reached holds shown) (catalog : Catalog) (depth : Nat) (config : Config)
    (body : Body) (input? : Option LayoutInput) (task task' : Task σ) (here : reached task.sink)
    (unrendered : ∀ input, input? = some input → input.bodyRendered = false) {text : String}
    {source : Place}
    (kept : holds text task.sink ∨
      ∃ input whole, input? = some input ∧ input.text? source = some whole ∧ Occurs text whole)
    (carried : Carried source (catalog.turns depth config body input? task))
    (returned : (execute catalog depth config body input? task).Returns () task') :
    holds text task'.sink := by
  induction depth generalizing body input? task source with
  | zero => cases returned.1
  | succ depth ih =>
    have natural : (catalog.nesting depth).Natural := catalog.nesting_natural depth
    obtain ⟨history, f, leads, finished, proceeded, turns⟩ := execute_returns returned
    have agrees := leads.agrees natural (.start config task unrendered)
    have keeps : ∀ {target}, Turn.PassesOn { input?, history } source target →
        f.Keeps holds text target := by
      intro target passes
      rcases kept with sent | ⟨input, whole, rfl, found, occurs⟩
      · exact .inl (leads.sink natural (retains.keeps text) sent)
      · exact leads.passesOn natural retains here (unrendered input rfl) passes found occurs
    rw [turns] at carried
    cases chosen : f.pass.next? with
    | none =>
      rw [chosen] at carried proceeded
      obtain ⟨-, rfl⟩ := (Run.returns_done _ _ _ _).mp proceeded
      obtain ⟨_, passes, rfl⟩ := carried
      exact (keeps passes).delivered agrees chosen
    | some next =>
      rw [chosen] at carried proceeded
      have fresh : next.input.bodyRendered = false := by
        obtain ⟨layout, -, rfl⟩ := Option.map_eq_some_iff.mp chosen
        rfl
      have later : (execute catalog depth config (catalog next.layout).body (some next.input)
          f.task).Returns () task' := proceeded
      obtain ⟨target, passes, carried⟩ := carried
      refine ih (catalog next.layout).body (some next.input) f.task
        (leads.sink natural retains.reaches here) (fun _ same => Option.some.inj same ▸ fresh) ?_
        carried later
      exact ((keeps passes).handedOn agrees finished chosen).imp_right fun ⟨whole, found⟩ =>
        ⟨next.input, whole, rfl, found⟩

/-- The layout rendered the body that it was given: it issued it with a call that renders the
body. -/
def Turn.Renders (t : Turn) : Prop :=
  ∀ input, t.input? = some input →
    ∃ e ∈ t.history, e.call = .renderBody ∧ e.texts = [input.body]

theorem Pass.rendered_of_finished {p : Pass} (finished : p.unfinished? = none)
    {input : LayoutInput} (page : p.input? = some input)
    (required : p.config.requireLayoutBody = true) : input.bodyRendered = true := by
  unfold Pass.unfinished? at finished
  split at finished
  · cases finished
  · cases finished
  · simpa [page, required] using finished

/-- Where the configuration asks for it, a pass that is finished has rendered its body. -/
theorem Frame.Leads.renders {config : Config} {input? : Option LayoutInput} {task : Task σ}
    {f : Frame σ} {history : List Entry}
    (leads : Frame.Leads nesting { pass := .start config input?, task } history f)
    (natural : nesting.Natural)
    (unrendered : ∀ input, input? = some input → input.bodyRendered = false)
    (required : config.requireLayoutBody = true) (finished : f.pass.unfinished? = none) :
    Turn.Renders { input?, history } := by
  rintro input rfl
  have start := Frame.Agrees.start config task unrendered
  have agrees := leads.agrees natural start
  have rendered : (history.any fun e => e.call = .renderBody) = true :=
    Pass.rendered_of_finished finished agrees.input (agrees.config ▸ required)
  obtain ⟨e, member, renders⟩ := List.any_eq_true.mp rendered
  obtain ⟨before, after, rfl⟩ := List.append_of_mem member
  obtain ⟨g, earlier, later⟩ := leads.split
  cases later with
  | call call more later =>
    have made : call = .renderBody := of_decide_eq_true renders
    subst made
    have past := earlier.agrees natural start
    exact ⟨_, member, rfl, Call.entry_answers past.config past.input .renderBody more⟩

theorem execute_renders (catalog : Catalog) (depth : Nat) (config : Config) (body : Body)
    (input? : Option LayoutInput) (task task' : Task σ)
    (unrendered : ∀ input, input? = some input → input.bodyRendered = false)
    (required : config.requireLayoutBody = true)
    (returned : (execute catalog depth config body input? task).Returns () task') :
    ∀ turn ∈ catalog.turns depth config body input? task, turn.Renders := by
  induction depth generalizing body input? task with
  | zero => cases returned.1
  | succ depth ih =>
    have natural : (catalog.nesting depth).Natural := catalog.nesting_natural depth
    obtain ⟨history, f, leads, finished, proceeded, turns⟩ := execute_returns returned
    rw [turns]
    intro turn member
    rcases List.mem_cons.mp member with rfl | later
    · exact leads.renders natural unrendered required finished
    · cases chosen : f.pass.next? with
      | none =>
        rw [chosen] at later
        cases later
      | some next =>
        rw [chosen] at later proceeded
        refine ih (catalog next.layout).body (some next.input) f.task ?_ proceeded turn later
        obtain ⟨layout, -, rfl⟩ := Option.map_eq_some_iff.mp chosen
        rintro _ ⟨⟩
        rfl

omit [Destination σ] in
/-- What becomes of bodies in these passes, of which the first is the page: every layout renders the
body that it is given, and that of the page is delivered if it is carried. -/
structure KeepsBody (turns : List Turn) (delivered : String → Prop) : Prop where
  rendered : ∀ layout ∈ turns.tail, layout.Renders
  carried : ∀ page layout later input, turns = page :: layout :: later →
    layout.input? = some input → Carried .outside (layout :: later) → delivered input.body

omit [Destination σ] in
theorem KeepsBody.mono {turns : List Turn} {delivered shown : String → Prop}
    (keeps : KeepsBody turns delivered) (imp : ∀ text, delivered text → shown text) :
    KeepsBody turns shown :=
  ⟨keeps.rendered, fun page layout later input turns given carried =>
    imp _ (keeps.carried page layout later input turns given carried)⟩

theorem execute_keepsBody {reached : σ → Prop} {holds shown : String → σ → Prop}
    (retains : Retains reached holds shown) (catalog : Catalog) (depth : Nat) (config : Config)
    (body : Body) (task task' : Task σ) (here : reached task.sink)
    (required : config.requireLayoutBody = true)
    (returned : (execute catalog depth config body none task).Returns () task') :
    KeepsBody (catalog.turns depth config body none task) (holds · task'.sink) where
  rendered layout member := execute_renders catalog depth config body none task task' nofun required
    returned layout (List.mem_of_mem_tail member)
  carried page layout later input turns given carried := by
    cases depth with
    | zero => cases returned.1
    | succ depth =>
      have natural : (catalog.nesting depth).Natural := catalog.nesting_natural depth
      obtain ⟨history, f, leads, finished, proceeded, passes⟩ := execute_returns returned
      obtain ⟨-, layouts⟩ := List.cons.inj (passes.symm.trans turns)
      cases chosen : f.pass.next? with
      | none =>
        rw [chosen] at layouts
        cases layouts
      | some next =>
        rw [chosen] at layouts proceeded
        dsimp only at layouts
        obtain rfl : input = next.input :=
          Option.some.inj (given.symm.trans (Catalog.turns_input layouts))
        refine execute_carries retains catalog depth config (catalog next.layout).body
          (some next.input) f.task task' (leads.sink natural retains.reaches here) ?_
          (.inr ⟨_, _, rfl, rfl, .refl _⟩) (layouts ▸ carried) proceeded
        obtain ⟨name, -, rfl⟩ := Option.map_eq_some_iff.mp chosen
        rintro _ ⟨⟩
        rfl

namespace Blueprint

/-- A render that succeeds is an execution that nobody cancelled and that succeeded. -/
theorem execute_of_renderCancellable {catalog : Catalog} {depth : Nat} {b : Blueprint}
    {allowed : Option Nat} {sink sink' : σ}
    (returned : (b.renderCancellable catalog depth allowed sink).Returns () sink') :
    ∃ task, (execute catalog depth b.config b.body none { sink }).Returns () task ∧
      task.sink = sink' := by
  obtain ⟨task, ran, last⟩ := (Run.returns_recast _ _ _ _).mp returned
  refine ⟨task, ?_, last⟩
  unfold Action.untilCancelled at ran
  split at ran
  · cases ran.1
  · exact ran.of_untilCancelled

theorem renderCancellable_keepsBody {reached : σ → Prop} {holds shown : String → σ → Prop}
    (retains : Retains reached holds shown) {catalog : Catalog} {depth : Nat} {b : Blueprint}
    {allowed : Option Nat} {sink sink' : σ} (here : reached sink)
    (required : b.config.requireLayoutBody = true)
    (returned : (b.renderCancellable catalog depth allowed sink).Returns () sink') :
    KeepsBody (b.turns catalog depth sink) (holds · sink') := by
  obtain ⟨task, executed, rfl⟩ := execute_of_renderCancellable returned
  exact execute_keepsBody retains catalog depth b.config b.body { sink } task here required executed

theorem settle_returns {o : Outcome Unit} {s s' : σ} (returned : (settle o s).Returns () s') :
    o = .ok () ∧ (Action.flush s).Returns () s' := by
  have closed : ∀ o : Outcome Unit, (((do
      let flushed ← Action.flush.attempt
      .conclude (o.bind fun _ => flushed)
      .log .renderedToExternal) : Action σ Unit) s).Returns () s' →
      o = .ok () ∧ (Action.flush s).Returns () s' := by
    intro o returned
    obtain ⟨flushed, s₁, attempted, later⟩ := (Run.returns_bind _ _ () s').mp returned
    obtain ⟨ended, state⟩ := (Run.returns_attempt _ _ _).mp attempted
    obtain ⟨_, s₂, concluded, logged⟩ := (Run.returns_bind _ _ () s').mp later
    obtain ⟨both, rfl⟩ := (Run.returns_done _ _ _ _).mp concluded
    obtain rfl : s₁ = s' := logged.2
    cases o with
    | ok _ => exact ⟨rfl, ended.trans (congrArg some both), state⟩
    | _ => cases both
  cases o with
  | ok _ => exact closed (.ok ()) returned
  | failed e => exact closed (.failed e) returned
  | misused m => cases returned.1
  | tooDeep => cases returned.1

/-- A render into a destination that succeeds is an execution that did, and then a flush that
did. -/
theorem flush_of_renderTo {catalog : Catalog} {depth : Nat} {b : Blueprint}
    {allowed : Option Nat} {sink sink' : σ}
    (returned : (b.renderTo catalog depth allowed sink).Returns () sink') :
    ∃ stopped, (b.renderCancellable catalog depth allowed sink).Returns () stopped ∧
      (Action.flush stopped).Returns () sink' := by
  rw [renderTo_eq] at returned
  obtain ⟨o, stopped, attempted, settled⟩ := (Run.returns_bind _ _ () sink').mp returned
  obtain ⟨ended, state⟩ := (Run.returns_attempt _ _ _).mp attempted
  obtain ⟨rfl, flushed⟩ := settle_returns settled
  exact ⟨stopped, ⟨ended, state⟩, flushed⟩

theorem renderTo_keepsBody {reached : σ → Prop} {holds shown : String → σ → Prop}
    (retains : Retains reached holds shown) (catalog : Catalog) (depth : Nat) (b : Blueprint)
    (required : b.config.requireLayoutBody = true) (allowed : Option Nat) (polls : Nat) (sink : σ)
    (here : reached sink) :
    let d := (b.renderTo catalog depth allowed).drive polls sink
    d.outcome? = some (.ok ()) → KeepsBody (b.turns catalog depth sink) (shown · d.state) := by
  intro d ok
  cases polls with
  | zero => cases ok
  | succ more =>
    have awaited : (b.renderTo catalog depth allowed sink).await = d :=
      Run.await_of_ended (ok ▸ Option.some_ne_none _)
    obtain ⟨stopped, rendered, flushed⟩ := flush_of_renderTo ⟨awaited ▸ ok, congrArg _ awaited⟩
    refine (renderCancellable_keepsBody retains here required rendered).mono fun text held => ?_
    exact retains.flushed text stopped d.state held flushed

end Blueprint

namespace Template

/-- Under `requireLayoutBody`, whatever a render writes to and however it is polled: if it succeeds,
every layout has rendered the body that it was given, and the body of the page was delivered in one
piece since the render began if the layouts carried it: each of them rendered it, or the section in
which it was handed on, outside of sections or in a section that the next one rendered in turn, and
no capture of it was taken away. -/
theorem pageBody_delivered (catalog : Catalog) (depth : Nat) (t : Template)
    (required : t.blueprint.config.requireLayoutBody = true) (allowed : Option Nat) (polls : Nat) :
    let b := t.blueprint
    (∀ sink : TextBuffer,
      let d := (b.renderTo catalog depth allowed).drive polls sink
      d.outcome? = some (.ok ()) → KeepsBody (b.turns catalog depth sink)
        (Gained String.toList sink.content · d.state.content)) ∧
    (∀ sink : Recorder,
      let d := (b.renderTo catalog depth allowed).drive polls sink
      d.outcome? = some (.ok ()) → KeepsBody (b.turns catalog depth sink)
        (Gained String.toList sink.delivered · d.state.delivered)) ∧
    (∀ sink : BlockingSink,
      let d := (b.renderTo catalog depth allowed).drive polls sink
      d.outcome? = some (.ok ()) → KeepsBody (b.turns catalog depth sink)
        (Gained utf8 sink.delivered · d.state.delivered)) ∧
    (∀ sink : StagedSink,
      let d := (b.renderTo catalog depth allowed).drive polls sink
      d.outcome? = some (.ok ()) → KeepsBody (b.turns catalog depth sink)
        (Gained utf8 sink.writer.accepted · d.state.writer.accepted)) ∧
    ∀ text, ((render catalog depth allowed).drive polls t).outcome? = some (.ok text) →
      KeepsBody (b.turns catalog depth t.output) (Occurs · text) := by
  intro b
  refine ⟨fun sink => ?_, fun sink => ?_, fun sink => ?_, fun sink => ?_, fun text ok => ?_⟩
  · exact b.renderTo_keepsBody (TextBuffer.retains sink.content) catalog depth required allowed polls
      sink (List.prefix_refl _)
  · exact b.renderTo_keepsBody (Recorder.retains sink.delivered) catalog depth required allowed polls
      sink (List.prefix_refl _)
  · exact b.renderTo_keepsBody (BlockingSink.retains sink.delivered) catalog depth required allowed
      polls sink (List.prefix_refl _)
  · exact b.renderTo_keepsBody (StagedSink.retains sink.writer.accepted) catalog depth required
      allowed polls sink (List.prefix_refl _)
  · obtain ⟨-, answered⟩ := drive_render catalog depth allowed polls t
    obtain ⟨o, ended, mapped⟩ := Option.map_eq_some_iff.mp (answered.symm.trans ok)
    obtain ⟨state, outcome⟩ := b.drive_renderCancellable_buffer catalog depth allowed polls t.output
    rw [← outcome] at ended
    cases o with
    | ok _ =>
      obtain rfl : String.join (b.issuedTexts catalog depth allowed polls) = text := by
        cases mapped
        rfl
      cases polls with
      | zero => cases ended
      | succ more =>
        have awaited : (b.renderCancellable catalog depth allowed t.output).await =
            (b.renderCancellable catalog depth allowed t.output).drive more :=
          Run.await_of_ended (ended ▸ Option.some_ne_none _)
        have returned : (b.renderCancellable catalog depth allowed t.output).Returns ()
            (t.output.push (String.join (b.issuedTexts catalog depth allowed (more + 1)))) :=
          ⟨awaited ▸ ended, awaited ▸ state⟩
        refine (b.renderCancellable_keepsBody (TextBuffer.retains t.output.content)
          (List.prefix_refl _) required returned).mono ?_
        rintro body ⟨added, whole, inside⟩
        rw [TextBuffer.content_push] at whole
        exact .of_toList (List.append_cancel_left whole ▸ inside)
    | _ => cases mapped

end Template

/-- A page with a body of one letter. -/
def letterPage : Blueprint :=
  { body := { name := "page", steps := [{ call := .setLayout "frame" }, { call := .literal "B" }] } }

/-- A layout that renders the body into a section, under a layout of its own. -/
def sectionFrame : Blueprint :=
  { body := { name := "frame", steps := [{ call := .setLayout "outer" },
      { call := .beginSection "main" }, { call := .renderBody }, { call := .endSection },
      { call := .literal "x" }] } }

/-- A layout that renders that section, and then the body. -/
def outerFrame : Blueprint :=
  { body := { name := "outer", steps := [{ call := .renderSection "main" },
      { call := .renderBody }] } }

/-- The body comes through the section of the inner layout, to a writer that is slow. -/
theorem Template.pageBody_delivered_letterPage :
    let catalog : Catalog := fun name => if name = "frame" then sectionFrame else outerFrame
    let t : Template := { blueprint := letterPage }
    let sink : StagedSink := { writer := { script := [.notReady, .accept 1] } }
    let turns := t.blueprint.turns catalog 3 sink
    let d := (t.blueprint.renderTo catalog 3 none).drive 2 sink
    t.blueprint.config.requireLayoutBody = true ∧ d.outcome? = some (.ok ()) ∧
      (∀ layout ∈ turns.tail, layout.Renders) ∧ Carried .outside turns.tail ∧
      Gained utf8 sink.writer.accepted "B" d.state.writer.accepted := by
  intro catalog t sink
  let outer : LayoutInput := { body := "x", sections := [("main", "B")] }
  let entry (call : Call) (texts : List String) : Entry :=
    { call, texts, outcome? := some (.ok .unit) }
  let first : Turn := { input? := some { body := "B" }, history := [entry (.setLayout "outer") [],
    entry (.beginSection "main") [], entry .renderBody ["B"], entry .endSection [],
    entry (.literal "x") ["x"]] }
  let second : Turn := { input? := some outer, history := [entry (.renderSection "main") ["B"],
    entry .renderBody ["x"]] }
  have played : t.blueprint.turns catalog 3 sink = { input? := none, history := [entry (.setLayout "frame") [],
      entry (.literal "B") ["B"]] } :: first :: [second] := by
    decide +kernel
  have inner : first.PassesOn .outside (.inside "main") :=
    ⟨first.history.take 2, entry .renderBody ["B"], first.history.drop 3, rfl, rfl, rfl, rfl, nofun⟩
  have last : second.PassesOn (.inside "main") .outside :=
    ⟨[], entry (.renderSection "main") ["B"], [entry .renderBody ["x"]], rfl, rfl, rfl, rfl,
      fun _ chosen => absurd rfl chosen⟩
  have carried : Carried .outside (first :: [second]) := ⟨_, inner, _, last, rfl⟩
  have ok : ((t.blueprint.renderTo catalog 3 none).drive 2 sink).outcome? = some (.ok ()) := by
    decide +kernel
  obtain ⟨-, -, -, staged, -⟩ := Template.pageBody_delivered catalog 3 t rfl none 2
  have keeps := staged sink ok
  have delivered := keeps.carried _ first [second] { body := "B" } played rfl carried
  refine ⟨rfl, ok, keeps.rendered, ?_, delivered⟩
  rw [played]
  exact carried

/-- The body stands in a section that nobody renders, and the render succeeds without it. -/
theorem Blueprint.pageBody_lost :
    let frame : Blueprint := { body := { name := "frame", steps := [{ call := .beginSection "s" },
      { call := .renderBody }, { call := .endSection }, { call := .literal "x" }] } }
    let d := (letterPage.renderTo (fun _ => frame) 2 none).drive 1 ({} : TextBuffer)
    letterPage.config.requireLayoutBody = true ∧ d.outcome? = some (.ok ()) ∧ d.state.text = "x" ∧
      (letterPage.turns (fun _ => frame) 2 ({} : TextBuffer)).map Turn.input? =
        [none, some { body := "B" }] ∧
      ¬ Occurs "B" d.state.text := by
  intro frame d
  have text : d.state.text = "x" := by decide +kernel
  refine ⟨rfl, by decide +kernel, text, by decide +kernel, ?_⟩
  rw [text]
  rintro ⟨before, after, same⟩
  have letter : 'B' ∈ "x".toList := by simp [same]
  simp at letter

end Templating
