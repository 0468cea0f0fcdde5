import Templating.Pass

/-!
# Rendering

`Call.perform` says what each call of a body does to its frame, and `execute` goes over a body and
then over the layouts it chose. Templates refer to each other by name, so `execute` is given a
depth: the number of bodies that may be stacked, by nesting or as layouts of layouts. Going beyond
it ends the render as `tooDeep`; for templates that do not refer to each other in a circle the
depth need not exceed the longest chain of references.

A template that is nested is a task of its own, under its own configuration, and knows nothing of
the frame it is written into but where its text goes.
-/

namespace Templating

variable {σ : Type}

/-- How a template of a given name renders into some destination. -/
def Nesting : Type 1 :=
  String → (τ : Type) → [Destination τ] → Action τ Unit

namespace Nesting

/-- Renders a template without waiting. -/
def renderNow (nesting : Nesting) (name : String) [Destination σ] : Action σ Unit :=
  (nesting name σ).firstPoll

end Nesting

namespace Content

/-- Content writes itself as HTML, whatever the encoding around it. -/
def write (nesting : Nesting) [Destination σ] : Content → Action σ Unit
  | html text => .writeAll text.portions
  | marked text => .writeAll text.contentPortions
  | template name => nesting.renderNow name

end Content

namespace Action

/-- The text that `act` writes to memory; the state around it is left alone. -/
def inMemory (act : Action TextBuffer Unit) : Action σ String := fun s =>
  (act {}).recast (fun _ => s) fun o b => o.map fun _ => b.text

end Action

namespace Value

/-- The value as a fragment of an attribute. What writes itself is rendered first, and is safe. -/
def resolve (nesting : Nesting) : Value → Action σ MarkedText
  | plain text? => pure (.dynamic text?)
  | safe text => pure (.raw text)
  | encoded content => do
    let text ← .inMemory (content.write nesting)
    pure (.raw text)
  | template name => do
    let text ← .inMemory (nesting.renderNow name)
    pure (.raw text)

end Value

namespace Frame

variable {α : Type}

/-- Changes the pass, unless the change fails. -/
def change (f : Pass → Outcome Pass) : Action (Frame σ) Unit := fun frame =>
  match f frame.pass with
  | .ok pass => .done (.ok ()) { frame with pass }
  | .failed e => .done (.failed e) frame
  | .misused m => .done (.misused m) frame
  | .tooDeep => .done .tooDeep frame

def changeWriter (f : AttributeWriter → Except Misuse AttributeWriter) : Action (Frame σ) Unit :=
  change fun p =>
    match f p.writer with
    | .ok writer => .ok { p with writer }
    | .error m => .misused m

def setLayout (name : String) : Action (Frame σ) Unit :=
  change fun p =>
    match p.setLayout name with
    | .ok p => .ok p
    | .error e => .failed e

def endSection : Action (Frame σ) Unit := fun frame =>
  let (outcome, pass) := frame.pass.endSection
  .done outcome { frame with pass }

variable [Destination σ]

/-- Literal markup is never escaped. Empty markup is not written at all. -/
def literal (text : String) : Action (Frame σ) Unit :=
  if text.isEmpty then pure () else .write text

def literalAsync (text : String) : Action (Frame σ) Unit :=
  if text.isEmpty then pure () else .writeAsync text

/-- Writes a value under the encoding of the configuration. -/
def write (nesting : Nesting) (value : Value) : Action (Frame σ) Unit := do
  let encoding ← .read fun f => f.pass.config.encoding
  match value with
  | .plain text? => .writeAll ((MarkedText.dynamic text?).portions encoding)
  | .safe text => .writeAll ((MarkedText.raw text).portions encoding)
  | .encoded content => content.write nesting
  | .template name => nesting.renderNow name

def attributeValue (nesting : Nesting) (head : FragmentHead) (value : Value) :
    Action (Frame σ) Unit := do
  let value ← value.resolve nesting
  changeWriter (·.add { head, value })

def endAttribute : Action (Frame σ) Unit := do
  let closing ← .read fun f => f.pass.writer.close.1
  .update fun f => { f with pass := { f.pass with writer := f.pass.writer.close.2 } }
  let encoding ← .read fun f => f.pass.config.encoding
  let _ ← closing.write encoding

/-- Writes the page body. It counts as rendered even if the sink refuses it. -/
def renderBody : Action (Frame σ) Unit := do
  match ← .read fun f => f.pass.input? with
  | none => .fail .notInLayout
  | some input =>
    .update fun f =>
      { f with pass := { f.pass with input? := some { input with bodyRendered := true } } }
    .write input.body

/-- Writes a section of the page if there is one. The value says whether there is. -/
def renderSectionOptional (name : String) : Action (Frame σ) Bool := do
  match ← .read fun f => f.pass.input? with
  | none => .fail .notInLayout
  | some input =>
    match input.sections.lookup name with
    | none => pure false
    | some text =>
      .write text
      pure true

def renderSection (name : String) : Action (Frame σ) Unit := do
  if !(← renderSectionOptional name) then .fail (.sectionNotDefined name)

def ensureNotCancelled : Action (Frame σ) Unit := do
  if ← .read fun f => f.task.cancelled then .fail .cancelled

/-- Ends a pass. The value is the layout to run next. -/
def finish : Action (Frame σ) (Option LayoutCall) := do
  let pass ← .read Frame.pass
  if let some reason := pass.unfinished? then .conclude (reason.map fun _ => none)
  else
    if pass.layout?.isNone && !pass.sections.isEmpty then
      .log (.sectionsDiscarded pass.sections.length)
    pure pass.next?

end Frame

/-- An action that answers nothing. -/
def Action.unit (act : Action σ Unit) : Action σ Reply := do
  act
  pure .unit

namespace Call

/-- What a call does, and what it answers. -/
def perform [Destination σ] (nesting : Nesting) : Call → Action (Frame σ) Reply
  | literal text => (Frame.literal text).unit
  | literalAsync text => (Frame.literalAsync text).unit
  | write value => (Frame.write nesting value).unit
  | templateAsync name => Action.unit (nesting name (Frame σ))
  | flush => Action.flush.unit
  | beginAttribute head => (Frame.changeWriter (·.start head)).unit
  | attributeValue head value => (Frame.attributeValue nesting head value).unit
  | endAttribute => Frame.endAttribute.unit
  | setLayout name => (Frame.setLayout name).unit
  | beginSection name => (Frame.change (·.beginSection name)).unit
  | endSection => Frame.endSection.unit
  | isSectionDefined name => .read fun f => .flag (f.pass.isSectionDefined name)
  | renderBody => Frame.renderBody.unit
  | renderSection name => (Frame.renderSection name).unit
  | renderSectionOptional name => .flag <$> Frame.renderSectionOptional name
  | encoding => .read fun f => .encoding f.pass.config.encoding
  | config => .read fun f => .config f.pass.config
  | cancel =>
    Action.unit (.update fun f => { f with task := { f.task with cancelled := true } })
  | isCancelled => .read fun f => .flag f.task.cancelled
  | ensureNotCancelled => Frame.ensureNotCancelled.unit
  | fail error => .fail error
  | wait polls => (Action.wait polls).unit
  | stall => Action.stall.unit

end Call

namespace Step

def isSkipped (step : Step) (p : Pass) : Bool :=
  match step.needs? with
  | some name => !p.isSectionDefined name
  | none => false

/-- Performs a step and reports how it ended. A tolerant step ends the body only when the depth is
exceeded. -/
def run [Destination σ] (nesting : Nesting) (template : String) (position : Nat) (step : Step) :
    Action (Frame σ) Unit := do
  if ← .read fun f => step.isSkipped f.pass then
    .report (.step template position (.ok .skipped))
  else
    let outcome ← (step.call.perform nesting).attempt
    .report (.step template position outcome)
    match outcome with
    | .ok _ => pure ()
    | .failed e => if step.tolerant then pure () else .fail e
    | .misused m => if step.tolerant then pure () else .misuse m
    | .tooDeep => .conclude .tooDeep

/-- Runs steps in order; the first of them has this position in its body. -/
def runAll [Destination σ] (nesting : Nesting) (template : String) :
    Nat → List Step → Action (Frame σ) Unit
  | _, [] => pure ()
  | position, step :: rest => do
    step.run nesting template position
    runAll nesting template (position + 1) rest

end Step

namespace Body

def run [Destination σ] (nesting : Nesting) (body : Body) : Action (Frame σ) Unit :=
  Step.runAll nesting body.name 0 body.steps

end Body

/-- Goes over a body, and then over the layout it chose, if any. Every pass of the task runs under
the same configuration. -/
def execute (catalog : Catalog) :
    (depth : Nat) → {σ : Type} → [Destination σ] → Config → Body → Option LayoutInput →
      Action (Task σ) Unit
  | 0, _, _, _, _, _ => .conclude .tooDeep
  | depth + 1, _, _, config, body, input? => do
    let nesting : Nesting := fun name _ _ =>
      let template := catalog name
      Task.isolate (execute catalog depth template.config template.body none)
    let next? ← Task.enter (.start config input?) do
      body.run nesting
      Frame.finish
    match next? with
    | none => pure ()
    | some next =>
      .log (.layoutApplied next.input.sections.length)
      execute catalog depth config (catalog next.layout).body (some next.input)

namespace Blueprint

variable [Destination σ]

/-- Renders the template as it renders inside another one: under a task of its own, and without a
flush at the end. -/
def renderNested (catalog : Catalog) (depth : Nat) (b : Blueprint) : Action σ Unit :=
  Task.isolate (execute catalog depth b.config b.body none)

/-- Renders until the caller cancels, once `allowed` polls were started, or the template does. -/
def renderCancellable (catalog : Catalog) (depth : Nat) (b : Blueprint) (allowed : Option Nat) :
    Action σ Unit :=
  Task.isolate
    ((execute catalog depth b.config b.body none).untilCancelled Task.cancelled allowed)

/-- A whole render into `σ`. What is staged is flushed at the end, also when the render failed or
was cancelled; an error of the render comes before one of the flush. A misuse ends it at once. -/
def renderTo (catalog : Catalog) (depth : Nat) (b : Blueprint) (allowed : Option Nat) :
    Action σ Unit := do
  .log (.renderStarted .external)
  let outcome ← (b.renderCancellable catalog depth allowed).attempt
  match outcome with
  | .misused m => .misuse m
  | .tooDeep => .conclude .tooDeep
  | outcome =>
    let flushed ← Action.flush.attempt
    .conclude (outcome.bind fun _ => flushed)
    .log .renderedToExternal

end Blueprint

end Templating
