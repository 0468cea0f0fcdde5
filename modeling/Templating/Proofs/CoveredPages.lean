import Templating.Proofs.LayoutChain
import Templating.Proofs.VeiledPasses

/-!
# Pages in plain layouts

A layout whose whole body renders the page is plain. A template whose last pass chooses a plain
layout before anything else, and that layout perhaps another one, and so on, is captured at its
outer end and then handed on as it is. A render of it ends as a render of the template itself, and
delivers the same text if it succeeds (`Blueprint.render_covered`).

The last pass of the one template issues its text to the sink, that of the other captures it;
`Frame.Covers` relates the frames of both, until a panic would close the capture of the body. In
the passes before, the two templates differ in the names of their layouts (`Frame.Renames`).
-/

namespace Templating

/-- A plain layout that is in `n` further ones. -/
def Catalog.Stacked (catalog : Catalog) : Nat → String → Prop
  | 0, name => (catalog name).body.steps = [{ call := .renderBody }]
  | n + 1, name => ∃ outer,
    (catalog name).body.steps = [{ call := .setLayout outer }, { call := .renderBody }] ∧
      Stacked catalog n outer

namespace Call

/-- The same call, with another name for the layout that it chooses. -/
def renamed (rename : String → String) : Call → Call
  | setLayout name => setLayout (rename name)
  | call => call

theorem renderBody_memory (nesting : Nesting) {f : Frame TextBuffer} {input : LayoutInput}
    (page : f.pass.input? = some input) :
    renderBody.perform nesting f =
      .done (.ok .unit) (Frame.put
        { f with pass := { f.pass with input? := some { input with bodyRendered := true } } }
        input.body) := by
  rw [perform_output nesting renderBody f rfl]
  simp only [output, prepare, page, Option.map_some]
  show Run.bind _ (Action.write input.body _) = _
  rw [(Frame.write_memory _ _).1]
  rfl

theorem setLayout_unit (nesting : Nesting) (name : String) (f : Frame TextBuffer) :
    (setLayout name).perform nesting f =
      match f.pass.setLayout name with
      | .ok pass => .done (.ok .unit) { f with pass }
      | .error e => .done (.failed e) f := by
  refine (Frame.change_unit _ f).trans ?_
  cases f.pass.setLayout name <;> rfl

end Call

/-- A call that succeeds at once leaves the rest of the body to run. -/
theorem Step.silent_runAll_cons {σ : Type} [Destination σ] {nesting : Nesting} {template : String}
    {position : Nat} {step : Step} {rest : List Step} {f g : Frame σ} {reply : Reply}
    (needed : step.isSkipped f.pass = false)
    (made : step.call.perform nesting f = .done (.ok reply) g) :
    (Step.runAll nesting template position (step :: rest) f).silent =
      (Step.runAll nesting template (position + 1) rest g).silent := by
  refine (Run.silent_bind (step.run nesting template position f) _).trans ?_
  rw [step.run_needed nesting template position f needed, made]
  rfl

namespace Pass

/-- The same pass with other names for its layouts. -/
def renamed (rename : String → String) (p : Pass) : Pass :=
  { p with layout? := p.layout?.map rename }

theorem setLayout_renamed (rename : String → String) (name : String) (p : Pass) :
    (p.renamed rename).setLayout (rename name) = (p.setLayout name).map (renamed rename) := by
  unfold setLayout renamed
  cases p.written <;> rfl

theorem endSection_renamed (rename : String → String) (p : Pass) :
    (p.renamed rename).endSection = (p.endSection.1, p.endSection.2.renamed rename) := by
  cases captured : p.captures with
  | nil => simp [endSection, renamed, captured]
  | cons c rest => cases kind : c.kind <;> simp [endSection, renamed, captured, kind]

/-- How a pass is finished. -/
def finished (p : Pass) : Outcome (Option LayoutCall) :=
  match p.unfinished? with
  | some reason => reason.map fun _ => none
  | none => .ok p.next?

end Pass

/-- The same call of a layout, under another name. -/
def LayoutCall.renamed (rename : String → String) (next : LayoutCall) : LayoutCall :=
  { next with layout := rename next.layout }

theorem Pass.finished_renamed (rename : String → String) (p : Pass) :
    (p.renamed rename).finished = p.finished.map (Option.map (LayoutCall.renamed rename)) := by
  have same : (p.renamed rename).unfinished? = p.unfinished? := rfl
  unfold finished
  rw [same]
  cases p.unfinished? with
  | some reason => cases reason <;> rfl
  | none =>
    refine congrArg Outcome.ok ?_
    unfold next? renamed
    cases p.layout? <;> rfl

theorem Frame.silent_finish {σ : Type} (f : Frame σ) :
    (Frame.finish f).silent = .done f.pass.finished f := by
  unfold Frame.finish Pass.finished
  rw [Action.read_bind]
  cases f.pass.unfinished? with
  | some reason => rfl
  | none =>
    dsimp only
    split <;> rfl

/-- A pass whose calls succeed at once. -/
theorem Catalog.silent_pass {σ : Type} [Destination σ] (catalog : Catalog) {depth : Nat}
    {body : Body} {f g : Frame σ}
    (played : (body.run (catalog.nesting depth) f).silent = .done (.ok ()) g) :
    (catalog.pass depth body f).silent = .done g.pass.finished g := by
  refine (Run.silent_bind _ _).trans ?_
  rw [played]
  exact g.silent_finish

/-- A stack of plain layouts delivers the page, and comes to nothing else. -/
theorem execute_stacked (catalog : Catalog) (n : Nat) {depth : Nat} (deep : n < depth)
    (config : Config) {name : String} (stacked : catalog.Stacked n name) (input : LayoutInput)
    (task : Task TextBuffer) :
    (execute catalog depth config (catalog name).body (some input) task).silent =
      .done (.ok ()) { task with sink := task.sink.push input.body } := by
  obtain ⟨depth, rfl⟩ : ∃ d, depth = d + 1 := ⟨depth - 1, by omega⟩
  let nesting := catalog.nesting depth
  let start : Frame TextBuffer := { pass := .start config (some input), task }
  rw [execute_succ]
  refine (Run.silent_bind _ _).trans ?_
  rw [Task.enter, Run.silent_recast]
  cases n with
  | zero =>
    have steps : (catalog name).body.steps = [{ call := .renderBody }] := stacked
    let page := { input with bodyRendered := true }
    let rendered : Frame TextBuffer :=
      Frame.put { start with pass := { start.pass with input? := some page } } input.body
    have played : ((catalog name).body.run nesting start).silent = .done (.ok ()) rendered := by
      rw [Body.run, steps]
      exact Step.silent_runAll_cons rfl (Call.renderBody_memory nesting rfl)
    have finished : rendered.pass.finished = .ok none := by
      simp [rendered, start, page, Frame.put, Frame.took, Pass.take, Pass.start, Pass.finished,
        Pass.unfinished?, Pass.openSection?, Pass.next?]
    rw [catalog.silent_pass played, finished]
    rfl
  | succ n =>
    obtain ⟨outer, steps, further⟩ := stacked
    let chosen : Frame TextBuffer :=
      { start with
        pass := { start.pass with captures := [{ kind := .body }], layout? := some outer } }
    let page := { input with bodyRendered := true }
    let rendered : Frame TextBuffer :=
      Frame.put { chosen with pass := { chosen.pass with input? := some page } } input.body
    have played : ((catalog name).body.run nesting start).silent = .done (.ok ()) rendered := by
      rw [Body.run, steps]
      have chooses := Call.setLayout_unit nesting outer start
      refine (Step.silent_runAll_cons (g := chosen) rfl chooses).trans ?_
      exact Step.silent_runAll_cons rfl (Call.renderBody_memory nesting rfl)
    have finished : rendered.pass.finished =
        .ok (some { layout := outer, input := { body := input.body } }) := by
      simp [rendered, chosen, start, page, Frame.put, Frame.took, Pass.take, Pass.start,
        Pass.finished, Pass.unfinished?, Pass.openSection?, Pass.next?, Pass.bodyText]
    rw [catalog.silent_pass played, finished]
    exact execute_stacked catalog n (by omega) config further { body := input.body } task
termination_by n

namespace Frame

/-- The same frame of a pass whose layouts have other names. -/
def renamed (rename : String → String) (f : Frame TextBuffer) : Frame TextBuffer :=
  { f with pass := f.pass.renamed rename }

/-- The frame with a text in its sink. -/
def delivered (text : String) (f : Frame TextBuffer) : Frame TextBuffer :=
  { f with task := { f.task with sink := f.task.sink.push text } }

/-- The frame with a text that is captured for the layout `cover`. -/
def covered (cover text : String) (f : Frame TextBuffer) : Frame TextBuffer :=
  { f with
    pass := { f.pass with
      captures := f.pass.captures ++ [{ kind := .body, text }]
      layout? := some cover } }

/-- The frames are the same but for the names of the layouts. -/
def Renames (rename : String → String) (f g : Frame TextBuffer) : Prop :=
  g = f.renamed rename

/-- What the one frame has issued to its sink, the other has captured for the layout `cover`. -/
inductive Covers (cover : String) : Frame TextBuffer → Frame TextBuffer → Prop
  | intro (f : Frame TextBuffer) (text : String) (written : Bool)
      (unchosen : f.pass.layout? = none) (sections : ∀ c ∈ f.pass.captures, c.kind ≠ .body) :
      Covers cover ({ f with pass := { f.pass with written } }.delivered text)
        (f.covered cover text)

variable {rename : String → String} {cover : String}
  {f g : Frame TextBuffer} {nesting : Nesting}

theorem put_renamed (f : Frame TextBuffer) (text : String) :
    (f.renamed rename).put text = (f.put text).renamed rename := by
  cases captured : f.pass.captures <;>
    simp [renamed, Pass.renamed, put, took, Pass.take, captured]

theorem Renames.veils : Veils (Renames rename) where
  resembles := by
    rintro f _ rfl
    exact ⟨rfl, rfl, rfl, rfl, rfl, rfl⟩
  puts := by
    rintro f _ rfl text
    exact f.put_renamed text
  writer := by
    rintro f _ rfl w
    rfl
  input := by
    rintro f _ rfl input?
    rfl
  cancelled := by
    rintro f _ rfl cancelled
    rfl
  opens := by
    rintro f _ rfl name
    rfl

theorem Covers.veils : Veils (Covers cover) where
  resembles := by
    rintro _ _ ⟨f, text, written, unchosen, sections⟩
    refine ⟨rfl, rfl, ?_, rfl, rfl, rfl⟩
    simp [Pass.openSection?, covered, delivered]
  puts := by
    rintro _ _ ⟨f, text, written, unchosen, sections⟩ more
    cases captured : f.pass.captures with
    | nil =>
      have direct : Covers cover _ _ :=
        .intro f (text ++ more) (written || !more.isEmpty) unchosen sections
      simpa [put, took, Pass.take, captured, covered, delivered] using direct
    | cons c rest =>
      let longer : Capture := { c with text := c.text ++ more }
      have inside : Covers cover _ _ :=
        .intro { f with pass := { f.pass with captures := longer :: rest } } text written unchosen
          (by simpa [captured, longer] using sections)
      simpa [put, took, Pass.take, captured, covered, delivered, longer] using inside
  writer := by
    rintro _ _ ⟨f, text, written, unchosen, sections⟩ w
    exact .intro { f with pass := { f.pass with writer := w } } text written unchosen sections
  input := by
    rintro _ _ ⟨f, text, written, unchosen, sections⟩ input?
    exact .intro { f with pass := { f.pass with input? } } text written unchosen sections
  cancelled := by
    rintro _ _ ⟨f, text, written, unchosen, sections⟩ cancelled
    exact .intro { f with task := { f.task with cancelled } } text written unchosen sections
  opens := by
    rintro _ _ ⟨f, text, written, unchosen, sections⟩ name
    let opened : Capture := { kind := .section name }
    refine .intro { f with pass := { f.pass with captures := opened :: f.pass.captures } } text
      written unchosen ?_
    simpa [opened] using sections

theorem Renames.perform (natural : nesting.Natural) (call : Call) (here : Renames rename f g) :
    (call.perform nesting f).Paired (Renames rename) (Run.Together (Renames rename))
      ((call.renamed rename).perform nesting g) := by
  cases redirects : call.redirects with
  | false =>
    have unnamed : call.renamed rename = call := by
      cases call with
      | setLayout name => cases redirects
      | _ => rfl
    rw [unnamed]
    exact .of_follows id (call.perform_veiled veils natural redirects here)
  | true =>
    obtain rfl : g = f.renamed rename := here
    cases call with
    | setLayout name =>
      have chooses := f.pass.setLayout_renamed rename name
      rw [Call.renamed, Call.setLayout_unit, Call.setLayout_unit, renamed, chooses]
      cases f.pass.setLayout name with
      | error e => exact .done ⟨rfl, rfl⟩
      | ok p => exact .done ⟨rfl, rfl⟩
    | endSection =>
      have closes := f.pass.endSection_renamed rename
      rw [Call.renamed, Call.endSection_unit, Call.endSection_unit, renamed, closes]
      · exact .done ⟨rfl, rfl⟩
      · exact nofun
    | _ => cases redirects

theorem Covers.perform (natural : nesting.Natural) (call : Call)
    (unchosen : ∀ name, call ≠ .setLayout name)
    (calm : ∀ more m, ((call.perform nesting f).drive more).outcome? ≠ some (.misused m))
    (here : Covers cover f g) :
    (call.perform nesting f).Paired (Covers cover) (Run.Together (Covers cover))
      (call.perform nesting g) := by
  cases redirects : call.redirects with
  | false => exact .of_follows id (call.perform_veiled veils natural redirects here)
  | true =>
    cases call with
    | setLayout name => exact absurd rfl (unchosen name)
    | endSection =>
      obtain ⟨f, text, written, unchosen, sections⟩ := here
      rw [Call.endSection_unit, Call.endSection_unit]
      cases captured : f.pass.captures with
      | nil =>
        refine absurd ?_ (calm 0 .endWithoutSection)
        rw [Call.endSection_unit]
        simp only [Pass.endSection, delivered, captured]
        rfl
      | cons c rest =>
        obtain ⟨name, kind⟩ : ∃ name, c.kind = .section name := by
          cases kind : c.kind with
          | body => exact absurd kind (sections c (by simp [captured]))
          | «section» name => exact ⟨name, rfl⟩
        have inside : Covers cover _ _ :=
          .intro
            { f with
              pass := { f.pass with
                captures := rest, sections := (name, c.text) :: f.pass.sections } }
            text written unchosen fun d member => sections d (by simp [captured, member])
        simp only [Pass.endSection, delivered, covered, captured, kind, List.cons_append]
        exact .done ⟨rfl, inside⟩
    | _ => cases redirects

/-- Both passes are finished, or neither, for the same reason. The second then calls the layout
`cover` with the text that the first has issued to its sink. -/
theorem Covers.finished (here : Covers cover f g) :
    f.pass.finished.isOk = false ∧ g.pass.finished = f.pass.finished ∨
      f.pass.finished = .ok none ∧ ∃ text sections,
        g.pass.finished = .ok (some { layout := cover, input := { body := text, sections } }) ∧
          f.task = { g.task with sink := g.task.sink.push text } := by
  obtain ⟨-, writer, opened, -, input, -⟩ := veils.resembles here
  obtain ⟨f, text, written, unchosen, sections⟩ := here
  have same : (f.covered cover text).pass.unfinished? =
      (delivered text { f with pass := { f.pass with written } }).pass.unfinished? := by
    unfold Pass.unfinished?
    rw [← writer, ← opened, ← input]
    rfl
  unfold Pass.finished
  rw [same]
  cases ended : (delivered text { f with pass := { f.pass with written } }).pass.unfinished? with
  | some reason =>
    have halted := Pass.unfinished?_isOk ended
    refine .inl ⟨?_, rfl⟩
    cases reason with
    | ok _ => cases halted
    | _ => rfl
  | none =>
    -- No section is open, and nothing else was captured.
    have unopened : f.pass.openSection? = none := Pass.openSection?_of_finished ended
    have captures : f.pass.captures = [] := by
      refine List.eq_nil_iff_forall_not_mem.mpr fun c member => ?_
      have closed := List.findSome?_eq_none_iff.mp unopened c member
      cases kind : c.kind with
      | body => exact sections c member kind
      | «section» name => simp [kind] at closed
    have unlaid : (delivered text { f with pass := { f.pass with written } }).pass.next? = none :=
      congrArg (Option.map _) unchosen
    refine .inr ⟨congrArg Outcome.ok unlaid, text, f.pass.sections, ?_, rfl⟩
    simp [Pass.next?, Pass.bodyText, covered, captures]

end Frame

/-- A call that chooses no layout, and is no misuse. -/
def Entry.Settled (e : Entry) : Prop :=
  (∀ name, e.call ≠ .setLayout name) ∧ e.panicked = false

namespace Catalog

variable (catalog : Catalog) (depth : Nat) {body body' : Body}

/-- The passes ended alike, and hand on the same to a layout and the one of the other name. -/
def EndRenamed (rename : String → String) (o o' : Outcome (Option LayoutCall))
    (task task' : Task TextBuffer) : Prop :=
  o' = o.map (Option.map (LayoutCall.renamed rename)) ∧ task' = task

/-- The passes ended alike, and neither chose a layout but the second, which hands on to `cover`
what the first has issued to the sink. -/
def EndCovered (cover : String) (o o' : Outcome (Option LayoutCall))
    (task task' : Task TextBuffer) : Prop :=
  o.isOk = false ∧ o' = o ∨
    o = .ok none ∧ ∃ text sections,
      o' = .ok (some { layout := cover, input := { body := text, sections } }) ∧
        task = { task' with sink := task'.sink.push text }

/-- A pass over a body that names its layouts differently ends alike, and hands on the same to the
layout of the other name. -/
theorem pass_renamed {rename : String → String}
    (steps : body'.steps =
      body.steps.map fun step => { step with call := step.call.renamed rename })
    (f : Frame TextBuffer) (fresh : f.pass.layout? = none) :
    (catalog.pass depth body f).Paired (fun f g => f.task.cancelled = g.task.cancelled)
      (fun o o' f g => EndRenamed rename o o' f.task g.task) (catalog.pass depth body' f) := by
  have natural : (catalog.nesting depth).Natural := catalog.nesting_natural depth
  have start : Frame.Renames rename f f := by
    rw [Frame.Renames, Frame.renamed, Pass.renamed, fresh, Option.map_none, ← fresh]
  have played : (body.run (catalog.nesting depth) f).Paired (Frame.Renames rename)
      (Run.Together (Frame.Renames rename)) (body'.run (catalog.nesting depth) f) := by
    have any : Step.Only (catalog.nesting depth) (fun _ => True) body.steps f :=
      fun _ _ _ _ _ _ => trivial
    unfold Body.run
    rw [steps]
    exact Step.runAll_paired body.name body'.name 0 0 body.steps start
      (fun here => (Frame.Renames.veils.resembles here).input)
      (fun step _ _ _ here _ => here.perform natural step.call) any
  refine (played.mono ?_ fun _ _ _ _ ends => ends).bind ?_
  · exact fun f g here => (Frame.Renames.veils.resembles here).cancelled
  · rintro o _ f g ⟨rfl, rfl⟩
    cases o with
    | ok _ =>
      exact .of_silent f.silent_finish (Frame.silent_finish _)
        ⟨f.pass.finished_renamed rename, rfl⟩
    | failed e => exact .done ⟨rfl, rfl⟩
    | misused m => exact .done ⟨rfl, rfl⟩
    | tooDeep => exact .done ⟨rfl, rfl⟩

/-- A last pass that first chooses the layout `cover` ends alike, and hands on to it what it would
have issued to the sink. -/
theorem pass_covered {cover : String}
    (steps : body'.steps = { call := .setLayout cover } :: body.steps) (config : Config)
    (input? : Option LayoutInput) (task : Task TextBuffer) :
    let start : Frame TextBuffer := { pass := .start config input?, task }
    Step.Only (catalog.nesting depth) Entry.Settled body.steps start →
      (catalog.pass depth body start).Paired (fun f g => f.task.cancelled = g.task.cancelled)
        (fun o o' f g => EndCovered cover o o' f.task g.task) (catalog.pass depth body' start) := by
  intro start only
  let nesting := catalog.nesting depth
  have natural : nesting.Natural := catalog.nesting_natural depth
  have veils : Frame.Veils (Frame.Covers cover) := Frame.Covers.veils
  let captured := start.covered cover ""
  have here : Frame.Covers cover start captured := by
    have untouched : Frame.Covers cover _ captured := .intro start "" false rfl nofun
    rw [Frame.delivered, TextBuffer.push_empty] at untouched
    exact untouched
  have chosen : body'.run nesting start =
      .note (.step body'.name 0 (.ok .unit))
        (Step.runAll nesting body'.name 1 body.steps captured) := by
    rw [Body.run, steps]
    rfl
  have played : (body.run nesting start).Paired (Frame.Covers cover)
      (Run.Together (Frame.Covers cover)) (body'.run nesting start) := by
    rw [chosen]
    refine .noteRight _ ?_
    have performs : ∀ step ∈ body.steps, ∀ {f g}, Frame.Covers cover f g →
        (∀ more, (step.call.entry nesting more f).Settled) →
        (step.call.perform nesting f).Paired (Frame.Covers cover)
          (Run.Together (Frame.Covers cover)) ((id step.call).perform nesting g) := by
      intro step _ f g here settled
      refine here.perform natural step.call (settled 0).1 fun more m misused => ?_
      refine Bool.false_ne_true ((settled more).2.symm.trans ?_)
      simp [Call.entry, Entry.panicked, misused]
    have alike := Step.runAll_paired body.name body'.name 0 1 body.steps here
      (fun here => (veils.resembles here).input) performs only
    have same : body.steps.map (fun step => { step with call := id step.call }) = body.steps :=
      List.map_id body.steps
    rwa [same] at alike
  refine (played.mono ?_ fun _ _ _ _ ends => ends).bind ?_
  · exact fun f g here => (veils.resembles here).cancelled
  · rintro o _ f g ⟨rfl, here⟩
    cases o with
    | ok _ => exact .of_silent f.silent_finish g.silent_finish here.finished
    | failed e => exact .done (.inl ⟨rfl, rfl⟩)
    | misused m => exact .done (.inl ⟨rfl, rfl⟩)
    | tooDeep => exact .done (.inl ⟨rfl, rfl⟩)

/-- How `body'` renders what `body` does, but in the plain layout `cover`, which is in `n` further
ones: its last pass chooses that layout first, and its earlier ones choose the layouts that lead
there. -/
inductive Covered (config : Config) (n : Nat) (cover : String) :
    Nat → Body → Body → Option LayoutInput → Task TextBuffer → Prop
  | last {depth : Nat} {body body' : Body} {input? : Option LayoutInput} {task : Task TextBuffer}
      (deep : n < depth) (steps : body'.steps = { call := .setLayout cover } :: body.steps)
      (settled : Step.Only (catalog.nesting depth) Entry.Settled body.steps
        { pass := .start config input?, task }) :
      Covered config n cover (depth + 1) body body' input? task
  | earlier {depth : Nat} {body body' : Body} {input? : Option LayoutInput}
      {task : Task TextBuffer} (rename : String → String)
      (steps : body'.steps =
        body.steps.map fun step => { step with call := step.call.renamed rename })
      (later : ∀ next task',
        (Task.enter (.start config input?) (catalog.pass depth body) task).Returns (some next)
            task' →
          Covered config n cover depth (catalog next.layout).body
            (catalog (rename next.layout)).body (some next.input) task') :
      Covered config n cover (depth + 1) body body' input? task

/-- The plain layouts leave an execution as it is. One that fails may differ in what it delivers. -/
theorem Covered.execute {catalog : Catalog} {config : Config} {n depth : Nat} {cover : String}
    {input? : Option LayoutInput} {task : Task TextBuffer} (stacked : catalog.Stacked n cover)
    (covered : catalog.Covered config n cover depth body body' input? task) :
    (Templating.execute catalog depth config body input? task).Paired
      (fun s t => s.cancelled = t.cancelled) Run.Delivered
      (Templating.execute catalog depth config body' input? task) := by
  induction covered with
  | @last depth body body' input? task deep steps settled =>
    have passes := catalog.pass_covered depth steps config input? task settled
    refine passes.enter.bind ?_
    rintro o _ s t (⟨halted, rfl⟩ | ⟨rfl, text, sections, rfl, rfl⟩)
    · let proceeds : Option LayoutCall → Action (Task TextBuffer) Unit :=
        catalog.proceed depth config
      obtain ⟨o, unfinished, ends⟩ := Run.bind_halted proceeds _ halted
      show Run.Paired _ _ (Run.bind proceeds _) (Run.bind proceeds _)
      rw [ends, ends]
      exact .done ⟨rfl, fun ok => absurd (ok.symm.trans unfinished) nofun⟩
    · exact .of_silent rfl (execute_stacked catalog n deep config stacked _ t) ⟨rfl, fun _ => rfl⟩
  | @earlier depth body body' input? task rename steps later ih =>
    have passes := catalog.pass_renamed depth steps { pass := .start config input?, task } rfl
    refine passes.enter.reached.bind ?_
    rintro o _ s t ⟨⟨rfl, same⟩, more, ended, state⟩
    obtain rfl : t = s := same
    cases o with
    | ok next? =>
      cases next? with
      | none => exact .done ⟨rfl, fun _ => rfl⟩
      | some next =>
        refine .noteLeft _ (.noteRight _ (ih next t ?_))
        have awaited := Run.await_of_ended (fun none => nomatch none.symm.trans ended)
        exact ⟨(congrArg Driven.outcome? awaited).trans ended,
          (congrArg Driven.state awaited).trans state⟩
    | failed e => exact .done ⟨rfl, nofun⟩
    | misused m => exact .done ⟨rfl, nofun⟩
    | tooDeep => exact .done ⟨rfl, nofun⟩

end Catalog

namespace Blueprint

variable {catalog : Catalog} {n depth : Nat} {cover : String} {b b' : Blueprint} {t : TextBuffer}

theorem renderCancellable_covered (stacked : catalog.Stacked n cover)
    (config : b'.config = b.config)
    (covered : catalog.Covered b.config n cover depth b.body b'.body none { sink := t })
    (allowed : Option Nat) :
    (b.renderCancellable catalog depth allowed t).Paired (fun _ _ => True) Run.Delivered
      (b'.renderCancellable catalog depth allowed t) := by
  have executes := covered.execute stacked
  have passes : ((execute catalog depth b.config b.body none).untilCancelled Task.cancelled
        allowed { sink := t }).Paired (fun s t => s.cancelled = t.cancelled) Run.Delivered
      ((execute catalog depth b'.config b'.body none).untilCancelled Task.cancelled allowed
        { sink := t }) := by
    rw [config]
    unfold Action.untilCancelled
    split
    · exact .done ⟨rfl, nofun⟩
    · exact executes.untilCancelled (fun _ _ same => same) (fun _ _ _ => ⟨rfl, nofun⟩) _
  refine passes.recast (fun _ _ _ => trivial) ?_
  rintro o _ s t ⟨rfl, same⟩
  exact ⟨rfl, fun ok => congrArg Task.sink (same ok)⟩

/-- Capturing is transparent: if the last pass of a render is in plain layouts, any number of them,
then the render comes to the same result in the same poll, and delivers the same text if it
succeeds. -/
theorem render_covered (stacked : catalog.Stacked n cover) (config : b'.config = b.config)
    (covered : catalog.Covered b.config n cover depth b.body b'.body none { sink := t })
    (allowed : Option Nat) (polls : Nat) :
    ((b.renderTo catalog depth allowed).drive polls t).SameDelivery
        ((b'.renderTo catalog depth allowed).drive polls t) ∧
      ((b.renderToBuffer catalog depth allowed).drive polls t).SameDelivery
        ((b'.renderToBuffer catalog depth allowed).drive polls t) := by
  have cancellable := renderCancellable_covered stacked config covered allowed
  have external : (b.renderTo catalog depth allowed t).Paired (fun _ _ => True) Run.Delivered
      (b'.renderTo catalog depth allowed t) := by
    rw [renderTo_eq, renderTo_eq]
    have attempted : ((b.renderCancellable catalog depth allowed t).recast id
          fun o _ => .ok o).Paired (fun _ _ => True)
        (fun o o' s s' => ∃ ended, o = .ok ended ∧ o' = .ok ended ∧ (ended.isOk = true → s' = s))
        ((b'.renderCancellable catalog depth allowed t).recast id fun o _ => .ok o) := by
      refine cancellable.recast (fun _ _ here => here) ?_
      rintro _ o s s' ⟨rfl, same⟩
      exact ⟨o, rfl, rfl, same⟩
    refine .noteLeft _ (.noteRight _ (attempted.bind ?_))
    rintro _ _ s s' ⟨ended, rfl, rfl, same⟩
    cases ended with
    | ok _ => exact .of_silent rfl rfl ⟨rfl, same⟩
    | failed e => exact .of_silent rfl rfl ⟨rfl, nofun⟩
    | misused m => exact .done ⟨rfl, nofun⟩
    | tooDeep => exact .done ⟨rfl, nofun⟩
  have buffered : (b.renderToBuffer catalog depth allowed t).Paired (fun _ _ => True)
      Run.Delivered (b'.renderToBuffer catalog depth allowed t) := by
    rw [renderToBuffer_eq, renderToBuffer_eq]
    refine .noteLeft _ (.noteRight _ (cancellable.bind ?_))
    rintro _ o s s' ⟨rfl, same⟩
    cases o with
    | ok _ =>
      obtain rfl : s' = s := same rfl
      obtain ⟨o, ended⟩ := Run.silent_eq_done (readSince_pauses t.length s')
      exact .of_silent ended ended ⟨rfl, fun _ => rfl⟩
    | failed e => exact .done ⟨rfl, nofun⟩
    | misused m => exact .done ⟨rfl, nofun⟩
    | tooDeep => exact .done ⟨rfl, nofun⟩
  cases polls with
  | zero => exact ⟨⟨rfl, rfl, nofun⟩, ⟨rfl, rfl, nofun⟩⟩
  | succ more => exact ⟨external.sameDelivery more, buffered.sameDelivery more⟩

/-- The page with a title, in a frame that is in two plain layouts. -/
def coveredPage : Blueprint :=
  { body := { name := "page", steps := [{ call := .setLayout "covered frame" },
      { call := .beginSection "title" }, { call := .literal "T" }, { call := .endSection },
      { call := .literal "B" }] } }

def coveredSite : Catalog
  | "frame" => titleFrame
  | "covered frame" =>
    { body := { name := "covered frame", steps := [{ call := .setLayout "plain" },
        { call := .renderSection "title" }, { call := .literal ": " }, { call := .renderBody },
        { call := .renderBody }] } }
  | "plain" =>
    { body := { name := "plain", steps := [{ call := .setLayout "plainer" },
        { call := .renderBody }] } }
  | _ => { body := { name := "plainer", steps := [{ call := .renderBody }] } }

theorem render_covered_titledPage :
    coveredSite.Stacked 1 "plain" ∧ coveredPage.config = titledPage.config ∧
      coveredSite.Covered titledPage.config 1 "plain" 4 titledPage.body coveredPage.body none
        { sink := ({} : TextBuffer) } ∧
      ((coveredPage.renderTo coveredSite 4 none).drive 1 ({} : TextBuffer)).outcome? =
        some (.ok ()) ∧
      ((coveredPage.renderTo coveredSite 4 none).drive 1 ({} : TextBuffer)).state.text =
        "T: BB" := by
  have stacked : coveredSite.Stacked 1 "plain" := ⟨"plainer", rfl, rfl⟩
  have covered : coveredSite.Covered titledPage.config 1 "plain" 4 titledPage.body
      coveredPage.body none { sink := ({} : TextBuffer) } := by
    refine .earlier (fun _ => "covered frame") rfl ?_
    rintro next task ⟨value, rfl⟩
    have chosen : next =
        { layout := "frame", input := { body := "B", sections := [("title", "T")] } } :=
      (Option.some.inj (Outcome.ok.inj (Option.some.inj value))).symm
    subst chosen
    refine .last (by decide) rfl ?_
    refine .cons rfl (fun _ => ⟨nofun, rfl⟩) fun _ => ?_
    refine .cons rfl (fun _ => ⟨nofun, rfl⟩) fun _ => ?_
    refine .cons rfl (fun _ => ⟨nofun, rfl⟩) fun _ => ?_
    refine .cons rfl (fun _ => ⟨nofun, rfl⟩) fun _ => ?_
    exact .nil _
  have config : coveredPage.config = titledPage.config := rfl
  have same := (render_covered stacked config covered none 1).1
  have ok : ((titledPage.renderTo coveredSite 4 none).drive 1 ({} : TextBuffer)).outcome? =
      some (.ok ()) := by
    decide +kernel
  have shown : ((titledPage.renderTo coveredSite 4 none).drive 1
      ({} : TextBuffer)).state.text = "T: BB" := by
    decide +kernel
  refine ⟨stacked, config, covered, same.outcome.trans ok, ?_⟩
  rw [same.state () ok, shown]

end Blueprint

end Templating
