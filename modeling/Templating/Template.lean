import Templating.Render

/-!
# Templates

A template with a buffer of its own. A render without a destination appends to that buffer and
returns what it appended; nothing but `clear` and `takeOutput` ever removes text from it. Renders
into a destination leave the buffer alone.
-/

namespace Templating

structure Template where
  blueprint : Blueprint
  output : TextBuffer := {}
  deriving DecidableEq, Repr, Inhabited

namespace Blueprint

/-- A whole render that appends to a buffer. Its value is the text that was appended. -/
def renderToBuffer (catalog : Catalog) (depth : Nat) (b : Blueprint) (allowed : Option Nat) :
    Action TextBuffer String := do
  let start ← .read TextBuffer.length
  .log (.renderStarted .buffer)
  b.renderCancellable catalog depth allowed
  match ← .read fun buffer => buffer.since? start with
  | some text =>
    .log (.renderedToBuffer text.utf8ByteSize)
    pure text
  | none => .misuse (.offsetOutsideText start)

/-- The content of a template, written without waiting. -/
def writeContent {σ : Type} [Destination σ] (catalog : Catalog) (depth : Nat) (b : Blueprint) :
    Action σ Unit :=
  (b.renderNested catalog depth).firstPoll

end Blueprint

namespace Template

variable {α : Type}

/-- Acts on the template's own buffer. -/
def onOutput (act : Action TextBuffer α) : Action Template α := fun t =>
  (act t.output).recast (fun output => { t with output }) fun o _ => o

/-- Renders into the template's own buffer. -/
def render (catalog : Catalog) (depth : Nat) (allowed : Option Nat) : Action Template String :=
  fun t => onOutput (t.blueprint.renderToBuffer catalog depth allowed) t

def pushOutput (text : String) (t : Template) : Template :=
  { t with output := t.output.push text }

def clearOutput (t : Template) : Template :=
  { t with output := t.output.clear }

/-- The text of the template's own buffer, which becomes empty. -/
def takeOutput (t : Template) : String × Template :=
  (t.output.text, t.clearOutput)

def setBody (body : Body) (t : Template) : Template :=
  { t with blueprint := { t.blueprint with body } }

/-- A template of the same making, with an empty buffer. -/
def fresh (t : Template) : Template :=
  { blueprint := t.blueprint }

end Template

end Templating
