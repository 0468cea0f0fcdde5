import Templating.Config.Basic

/-!
# Events

What a render reports while it runs: the reply of every finished step of a body, and the log.
Nothing in a render reads what was reported.
-/

namespace Templating

/-- How a call or a whole render ends. `tooDeep` stands for a nesting of templates that exceeds
the depth the render was given; no template can recover from it. -/
inductive Outcome (α : Type) where
  | ok (value : α)
  | failed (error : RenderError)
  | misused (misuse : Misuse)
  | tooDeep
  deriving DecidableEq, Repr, Inhabited

/-- What a finished step of a body answers. -/
inductive Reply where
  | unit
  | flag (value : Bool)
  | encoding (value : Encoding)
  | config (value : Config)
  | skipped
  deriving DecidableEq, Repr, Inhabited

/-- Where a whole render writes: into the template's own buffer, or somewhere else. -/
inductive Target where
  | buffer | external
  deriving DecidableEq, Repr, Inhabited

inductive LogEntry where
  | renderStarted (target : Target)
  | renderedToBuffer (bytes : Nat)
  | renderedToExternal
  | layoutApplied (sections : Nat)
  | sectionsDiscarded (sections : Nat)
  | fragmentsMiscounted (name : String) (declared received : Nat)
  | attributeLeftOut (name : String)
  | attributeWritten (name : String) (fragments : Nat)
  deriving DecidableEq, Repr, Inhabited

inductive LogLevel where
  | trace | debug | warn
  deriving DecidableEq, Repr, Inhabited

/-- The value of a field of a log entry. -/
inductive LogField where
  | text (value : String)
  | number (value : Nat)
  deriving DecidableEq, Repr, Inhabited

namespace LogLevel

def name : LogLevel → String
  | trace => "TRACE"
  | debug => "DEBUG"
  | warn => "WARN"

end LogLevel

namespace Target

def name : Target → String
  | buffer => "buffer"
  | external => "external"

end Target

namespace LogEntry

def level : LogEntry → LogLevel
  | fragmentsMiscounted .. => .warn
  | attributeLeftOut .. | attributeWritten .. => .trace
  | _ => .debug

def message : LogEntry → String
  | renderStarted _ => "render started"
  | renderedToBuffer _ | renderedToExternal => "render finished"
  | layoutApplied _ => "applying layout"
  | sectionsDiscarded _ => "sections defined without a layout were discarded"
  | fragmentsMiscounted .. => "attribute fragment count mismatch"
  | attributeLeftOut _ => "attribute suppressed"
  | attributeWritten .. => "attribute emitted"

def fields : LogEntry → List (String × LogField)
  | renderStarted target => [("destination", .text target.name)]
  | renderedToBuffer bytes =>
    [("destination", .text Target.buffer.name), ("bytes", .number bytes)]
  | renderedToExternal => [("destination", .text Target.external.name)]
  | layoutApplied sections | sectionsDiscarded sections => [("sections", .number sections)]
  | fragmentsMiscounted name declared received =>
    [("attribute", .text name), ("expected", .number declared), ("received", .number received)]
  | attributeLeftOut name => [("attribute", .text name)]
  | attributeWritten name fragments =>
    [("attribute", .text name), ("fragments", .number fragments)]

end LogEntry

inductive Event where
  /-- The step at this position of the body of a template is finished. -/
  | step (template : String) (position : Nat) (outcome : Outcome Reply)
  | log (entry : LogEntry)
  deriving DecidableEq, Repr, Inhabited

end Templating
