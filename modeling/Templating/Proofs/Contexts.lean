import Templating.Proofs.NestedTemplates
import Templating.Proofs.BodyHistory

/-!
# Contexts of a render

A render goes over its page and its layouts, and over the templates that are nested in these, at any
depth. All passes of one execution hold the same token, but every nested execution has a token of
its own, which nobody has fired when it starts. Wherever an execution is left, it is in such a
context (`Catalog.Context.execution`). So a pass of the page or of a layout sees whether the render
was cancelled, and a nested one sees only whether its own execution was
(`Catalog.Context.observes`).
-/

namespace Templating

variable {σ : Type}

/-- No call but `cancel` changes whether the task is cancelled. -/
theorem Call.perform_cancelled [Destination σ] {nesting : Nesting} (natural : nesting.Natural)
    (call : Call) (f : Frame σ) (more : Nat) :
    ((call.perform nesting f).drive more).state.task.cancelled =
      (f.task.cancelled || call == .cancel) := by
  let kept : Frame σ → Prop := fun g => g.task.cancelled = f.task.cancelled
  have unchanged : call ≠ .cancel → (call.perform nesting f).Visits kept →
      ((call.perform nesting f).drive more).state.task.cancelled =
        (f.task.cancelled || call == .cancel) := by
    intro other visits
    rw [beq_eq_false_iff_ne.mpr other, Bool.or_false]
    exact visits.drive more
  have changes : ∀ (change : Pass → Outcome Pass) (g : Frame σ), kept g →
      (Frame.change change g).Visits kept := by
    intro change g here
    unfold Frame.change
    split <;> exact here
  have replies : ∀ act : Action (Frame σ) Unit, (act f).Visits kept → (act.unit f).Visits kept :=
    fun act visits => visits.bind fun _ _ here => here
  by_cases writing : call.writes = true
  · have landed := call.perform_landed natural Logged.true_kept more f writing trivial
    rw [landed.cancelled]
    cases call with
    | cancel => cases writing
    | _ => exact (Bool.or_false _).symm
  · cases call with
    | cancel => exact (Bool.or_true _).symm
    | beginAttribute head => exact unchanged nofun (replies _ (changes _ f rfl))
    | attributeValue head value =>
      refine unchanged nofun (replies _ ?_)
      have resolved : (value.resolve nesting f).Visits kept :=
        (value.resolve_stays nesting f).mono fun g same => congrArg (·.task.cancelled) same
      exact resolved.bind fun m g here => changes _ g here
    | setLayout name => exact unchanged nofun (replies _ (changes _ f rfl))
    | beginSection name => exact unchanged nofun (replies _ (changes _ f rfl))
    | endSection => exact unchanged nofun (replies _ rfl)
    | ensureNotCancelled =>
      refine unchanged nofun (replies _ ?_)
      unfold Frame.ensureNotCancelled
      rw [Action.read_bind]
      split <;> rfl
    | wait polls =>
      refine unchanged nofun (replies _ ?_)
      clear writing unchanged
      induction polls with
      | zero => rfl
      | succ polls ih => exact ⟨rfl, ih⟩
    | stall => exact unchanged nofun rfl
    | isSectionDefined _ | encoding | config | isCancelled | fail _ => exact unchanged nofun rfl
    | _ => exact absurd rfl writing

/-- The contexts of a render, whatever its bodies call. `render` says whether the token of the
render was fired, and `own?` whether the token of the nested execution that the context belongs to
was; there is none for the page and its layouts. Whoever holds the token of the render may fire it
at any time. -/
inductive Catalog.Context (catalog : Catalog) : {σ : Type} → [Destination σ] →
    (depth : Nat) → (render : Bool) → (own? : Option Bool) → Frame σ → Prop
  | page {σ : Type} [Destination σ] (depth : Nat) (config : Config) (sink : σ) :
      Context catalog depth false none { pass := .start config none, task := { sink } }
  | fires {σ : Type} [Destination σ] {depth : Nat} {render : Bool} {f : Frame σ}
      (context : Context catalog depth render none f) :
      Context catalog depth true none { f with task := { f.task with cancelled := true } }
  | firesAround {σ : Type} [Destination σ] {depth : Nat} {render own : Bool} {f : Frame σ}
      (context : Context catalog depth render (some own) f) :
      Context catalog depth true (some own) f
  | call {σ : Type} [Destination σ] {depth : Nat} {render : Bool} {own? : Option Bool}
      {f : Frame σ} (context : Context catalog depth render own? f) (call : Call) (more : Nat) :
      Context catalog depth (render || own?.isNone && call == .cancel)
        (own?.map (· || call == .cancel))
        ((call.perform (catalog.nesting depth) f).drive more).state
  | layout {σ : Type} [Destination σ] {depth : Nat} {render : Bool} {own? : Option Bool}
      {f : Frame σ} (context : Context catalog (depth + 1) render own? f) {next : LayoutCall}
      (finished : f.pass.unfinished? = none) (chosen : f.pass.next? = some next)
      (config : Config) :
      Context catalog depth render own? { pass := .start config (some next.input), task := f.task }
  | inPlace {σ : Type} [Destination σ] {depth : Nat} {render : Bool} {own? : Option Bool}
      {f : Frame σ} (context : Context catalog (depth + 1) render own? f) {name : String}
      {call : Call} (embeds : call ∈ Call.embedding name) :
      Context catalog depth render (some false)
        { pass := .start (catalog name).config none, task := { sink := f } }
  | inFragment {σ : Type} [Destination σ] {depth : Nat} {render : Bool} {own? : Option Bool}
      {f : Frame σ} (context : Context catalog (depth + 1) render own? f) {name : String}
      {value : Value} (renders : value = .template name ∨ value = .encoded (.template name)) :
      Context catalog depth render (some false)
        { pass := .start (catalog name).config none, task := { sink := ({} : TextBuffer) } }

namespace Catalog.Context

variable [Destination σ] {catalog : Catalog} {depth : Nat} {render : Bool} {own? : Option Bool}
  {f : Frame σ}

/-- The frame knows of the token of its own execution, and of no other. -/
theorem cancelled_eq (context : catalog.Context depth render own? f) :
    f.task.cancelled = own?.getD render := by
  induction context with
  | page depth config sink => rfl
  | fires context ih => rfl
  | firesAround context ih => exact ih
  | @call σ _ depth render own? f context call more ih =>
    rw [call.perform_cancelled (catalog.nesting_natural depth) f more, ih]
    cases own? <;> simp
  | layout context finished chosen config ih => exact ih
  | inPlace context embeds ih => rfl
  | inFragment context renders ih => rfl

/-- Whatever calls a body made, it made them in contexts, and `cancel` fired the token of its own
execution. -/
theorem played {steps : List Step} {history : List Entry} {g : Frame σ} {whole : Bool}
    (played : Step.Played (catalog.nesting depth) steps f history g whole)
    (context : catalog.Context depth render own? f) :
    let fired := history.any (·.call == .cancel)
    catalog.Context depth (render || own?.isNone && fired) (own?.map (· || fired)) g := by
  induction played generalizing render own? with
  | all f => simpa using context
  | stop steps f => simpa using context
  | skip skipped later ih => exact ih context
  | @call step rest f g history whole more needed goesOn later ih =>
    have later := ih (context.call step.call more)
    cases own? <;> simpa [Call.entry, Bool.or_assoc] using later
  | @last step rest f more needed =>
    have next := context.call step.call more
    simpa [Call.entry] using next

/-- An execution that starts in a context is in one wherever it is left, after any number of its
passes. -/
theorem execution {depth : Nat} {render : Bool} {own? : Option Bool} {config : Config}
    {input? : Option LayoutInput} {task : Task σ}
    (context : catalog.Context depth render own? { pass := .start config input?, task })
    (body : Body) (more : Nat) :
    let left := ((execute catalog (depth + 1) config body input? task).drive more).state
    ∃ fired rest pass, catalog.Context rest (render || own?.isNone && fired)
      (own?.map (· || fired)) { pass, task := left } := by
  intro left
  let start : Frame σ := { pass := .start config input?, task }
  let first := (catalog.pass depth body start).drive more
  obtain ⟨history, whole, played, ends, -⟩ := catalog.pass_played depth body start more
  have reached := context.played played
  let entering := Task.enter (.start config input?) (catalog.pass depth body) task
  have entered : entering.drive more = _ :=
    Run.drive_recast (catalog.pass depth body start) Frame.task (fun o _ => o) more
  rcases Run.drive_bind_cases entering
    (fun next? task => catalog.proceed depth config next? task) more with
    ⟨next?, later, value, -, state, -⟩ | ⟨-, -, -, state⟩
  · rw [entered] at value state
    have gave : first.outcome? = some (.ok next?) := by
      simpa using value
    obtain ⟨-, finished, next⟩ := ends next? gave
    cases next? with
    | none =>
      have stays : left = first.state.task := state
      rw [stays]
      exact ⟨_, _, _, reached⟩
    | some call =>
      cases depth with
      | zero =>
        have stays : left = first.state.task := state
        rw [stays]
        exact ⟨_, _, _, reached⟩
      | succ depth =>
        have goesOn : left = ((execute catalog (depth + 1) config (catalog call.layout).body
            (some call.input) first.state.task).drive later).state := state
        have layout := reached.layout finished next.symm config
        obtain ⟨fired, rest, pass, there⟩ := layout.execution (catalog call.layout).body later
        refine ⟨history.any (·.call == .cancel) || fired, rest, pass, ?_⟩
        rw [goesOn]
        cases own? <;> simpa [Bool.or_assoc] using there
  · rw [entered] at state
    have stays : left = first.state.task := state
    rw [stays]
    exact ⟨_, _, _, reached⟩
termination_by depth

/-- In a context of a render, `is_cancelled` answers whether the token of the execution that it
belongs to was fired, and `ensure_not_cancelled` fails exactly if it was. In the passes of the page
and its layouts that is the token of the render; a nested template sees nothing of it. -/
theorem observes (context : catalog.Context depth render own? f) :
    let nesting := catalog.nesting depth
    let seen := own?.getD render
    Call.isCancelled.perform nesting f = .done (.ok (.flag seen)) f ∧
      Call.ensureNotCancelled.perform nesting f =
        .done (if seen then .failed .cancelled else .ok .unit) f := by
  intro nesting seen
  have known : f.task.cancelled = seen := context.cancelled_eq
  constructor
  · exact congrArg (fun fired => Run.done (.ok (Reply.flag fired)) f) known
  · show Run.bind _ (Frame.ensureNotCancelled f) = _
    unfold Frame.ensureNotCancelled
    rw [Action.read_bind, known]
    cases seen <;> rfl

/-- A page that cancels its render and then makes a call, and a template that asks whether it is
cancelled. -/
def cancellingSite (call : Call) : Catalog
  | "inner" => { body := { name := "inner", steps := [{ call := .isCancelled },
      { call := .ensureNotCancelled }] } }
  | _ => { body := { name := "page", steps := [{ call := .cancel }, { call }] } }

theorem observes_cancellingSite :
    let catalog := cancellingSite (.templateAsync "inner")
    let start : Frame TextBuffer := { pass := .start {} none, task := { sink := {} } }
    let page := ((Call.cancel.perform (catalog.nesting 1) start).drive 0).state
    let inner : Frame (Frame TextBuffer) := { pass := .start {} none, task := { sink := page } }
    catalog.Context 1 true none page ∧ catalog.Context 0 true (some false) inner ∧
      Call.ensureNotCancelled.perform (catalog.nesting 1) page = .done (.failed .cancelled) page ∧
      Call.isCancelled.perform (catalog.nesting 0) inner = .done (.ok (.flag false)) inner := by
  intro catalog start page inner
  have begun : catalog.Context 1 false none start := .page 1 {} ({} : TextBuffer)
  have cancelled : catalog.Context 1 true none page := .call begun .cancel 0
  have embeds : Call.templateAsync "inner" ∈ Call.embedding "inner" := by decide
  have nested : catalog.Context 0 true (some false) inner := .inPlace cancelled embeds
  exact ⟨cancelled, nested, (observes cancelled).2, (observes nested).1⟩

/-- Each way to nest the template hides from it that the render is cancelled. -/
theorem cancellingSite_hidden :
    [Call.write (.template "inner"), .write (.encoded (.template "inner")),
        .templateAsync "inner", .attributeValue {} (.template "inner")].map (fun call =>
      let catalog := cancellingSite call
      let d := ((catalog "page").renderCancellable catalog 2 none).drive 1 ({} : TextBuffer)
      d.events.take 3) =
    List.replicate 4 [.step "page" 0 (.ok .unit), .step "inner" 0 (.ok (.flag false)),
      .step "inner" 1 (.ok .unit)] := by
  decide +kernel

end Catalog.Context

end Templating
