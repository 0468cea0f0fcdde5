import Templating.Body

/-!
# A pass over a body

`Pass` is what the renderer knows while it goes once over a body, of a page, of a layout or of a
nested template: the open attribute, the captures, the sections that are closed, the layout that
was chosen, and, in a layout, what it may render of its page. A `Frame` is a pass together with
the task it belongs to, which holds the sink.

Text goes to the innermost capture, or to the sink if there is none. A pass that chose a layout
has a capture of its body below all others, so nothing more of it reaches the sink.
-/

namespace Templating

inductive CaptureKind where
  | body
  | section (name : String)
  deriving DecidableEq, Repr, Inhabited

structure Capture where
  kind : CaptureKind
  text : String := ""
  deriving DecidableEq, Repr, Inhabited

/-- What a layout may render of the page it stands around. -/
structure LayoutInput where
  body : String := ""
  sections : List (String × String) := []
  bodyRendered : Bool := false
  deriving DecidableEq, Repr, Inhabited

/-- A layout that is to run next, with what it may render. -/
structure LayoutCall where
  layout : String
  input : LayoutInput
  deriving DecidableEq, Repr, Inhabited

structure Pass where
  config : Config
  writer : AttributeWriter
  /-- The innermost capture comes first. -/
  captures : List Capture := []
  layout? : Option String := none
  /-- The latest section comes first. -/
  sections : List (String × String) := []
  input? : Option LayoutInput := none
  /-- Some text of this pass was issued to its sink. -/
  written : Bool := false
  deriving DecidableEq, Repr, Inhabited

namespace Pass

def start (config : Config) (input? : Option LayoutInput) : Pass :=
  { config, input?, writer := { strict := config.strictAttributeCount } }

def openSection? (p : Pass) : Option String :=
  p.captures.findSome? fun c =>
    match c.kind with
    | .section name => some name
    | .body => none

def definesSection (p : Pass) (name : String) : Bool :=
  (p.sections.lookup name).isSome

/-- The page that this pass stands around defined the section. -/
def isSectionDefined (p : Pass) (name : String) : Bool :=
  match p.input? with
  | some input => (input.sections.lookup name).isSome
  | none => false

def capturesBody (p : Pass) : Bool :=
  match p.captures.getLast? with
  | some c => c.kind == .body
  | none => false

/-- From here on the body is captured for the layout. The last choice of a layout counts. -/
def setLayout (name : String) (p : Pass) : Except RenderError Pass :=
  if p.written then .error .layoutAfterOutput
  else
    .ok { p with
      captures := if p.capturesBody then p.captures else p.captures ++ [{ kind := .body }]
      layout? := some name }

def beginSection (name : String) (p : Pass) : Outcome Pass :=
  match p.openSection? with
  | some openName => .misused (.sectionStillOpen name openName)
  | none =>
    if p.definesSection name then .failed (.sectionAlreadyDefined name)
    else .ok { p with captures := { kind := .section name } :: p.captures }

/-- Closes the innermost capture. If that is not a section, the call does not fit, and the capture
is lost. -/
def endSection (p : Pass) : Outcome Unit × Pass :=
  match p.captures with
  | [] => (.misused .endWithoutSection, p)
  | c :: captures =>
    match c.kind with
    | .section name => (.ok (), { p with captures, sections := (name, c.text) :: p.sections })
    | .body => (.misused .endWithoutSection, { p with captures })

/-- Why the pass may not end as it is. -/
def unfinished? (p : Pass) : Option (Outcome Unit) :=
  match p.writer.pending, p.openSection? with
  | some a, _ => some (.misused (.finishedWithAttribute a.head.name))
  | none, some name => some (.misused (.finishedWithSection name))
  | none, none =>
    match p.input? with
    | some input =>
      if p.config.requireLayoutBody && !input.bodyRendered then
        some (.failed .layoutBodyNotRendered)
      else none
    | none => none

/-- The text that was captured for the layout. -/
def bodyText (p : Pass) : String :=
  match p.captures with
  | { kind := .body, text } :: _ => text
  | _ => ""

/-- The layout that runs after this pass. It sees of the earlier passes what this one hands on. -/
def next? (p : Pass) : Option LayoutCall :=
  p.layout?.map fun layout => { layout, input := { body := p.bodyText, sections := p.sections } }

end Pass

/-- One execution of a template: whether it was cancelled, and where it writes. -/
structure Task (σ : Type) where
  cancelled : Bool := false
  sink : σ

structure Frame (σ : Type) where
  pass : Pass
  task : Task σ

namespace Frame

variable {σ : Type}

def withSink (f : Frame σ) (sink : σ) : Frame σ :=
  { f with task := { f.task with sink } }

/-- Records that `text` is issued to the sink; empty text does not count. -/
def markWritten (text : String) (f : Frame σ) : Frame σ :=
  { f with pass := { f.pass with written := f.pass.written || !text.isEmpty } }

end Frame

variable {σ : Type}

/-- Text for a frame goes to its innermost capture, or else to its sink. Captured text needs no
flush. -/
instance [Destination σ] : Destination (Frame σ) where
  write text f :=
    match f.pass.captures with
    | c :: captures =>
      let capture := { c with text := c.text ++ text }
      (.ok (), { f with pass := { f.pass with captures := capture :: captures } })
    | [] =>
      let (result, sink) := Destination.write text f.task.sink
      (result, (f.markWritten text).withSink sink)
  writeAsync text := fun f =>
    match f.pass.captures with
    | c :: captures =>
      let capture := { c with text := c.text ++ text }
      .done (.ok ()) { f with pass := { f.pass with captures := capture :: captures } }
    | [] =>
      (Action.writeAsync text f.task.sink).recast (f.markWritten text).withSink fun o _ => o
  flush := fun f =>
    match f.pass.captures with
    | _ :: _ => .done (.ok ()) f
    | [] => (Action.flush f.task.sink).recast f.withSink fun o _ => o

namespace Task

variable {α : Type}

/-- Goes over a body in a pass of its own. -/
def enter (pass : Pass) (act : Action (Frame σ) α) : Action (Task σ) α := fun task =>
  (act { pass, task }).recast Frame.task fun o _ => o

/-- A task of its own on the same sink: cancelling it has no effect outside. -/
def isolate (act : Action (Task σ) α) : Action σ α := fun sink =>
  (act { sink }).recast Task.sink fun o _ => o

end Task

end Templating
