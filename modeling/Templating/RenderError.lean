/-!
# Errors of a render

`RenderError` holds the causes that a template can react to. `Misuse` holds the calls that do
not fit the protocol between a template and the renderer; a misuse ends the call that made it.
-/

namespace Templating

/-- Where a configuration comes from, and what was wrong with it. -/
inductive ConfigFault where
  | fileMissing
  | fileNotText
  | malformed
  | emptyCapacity
  | oversizedCapacity (limit found : Nat)
  | other (text : String)
  deriving DecidableEq, Repr, Inhabited

namespace ConfigFault

/-- The file's name is shown as a placeholder. -/
def message : ConfigFault → String
  | fileMissing =>
    "failed to read config file '<path>': No such file or directory (os error 2)"
  | fileNotText =>
    "failed to read config file '<path>': stream did not contain valid UTF-8"
  | malformed => "failed to parse config YAML"
  | emptyCapacity => "config validation failed: buffer_capacity must be greater than 0"
  | oversizedCapacity limit found =>
    s!"config validation failed: buffer_capacity must be at most {limit} (found {found})"
  | other text => text

end ConfigFault

inductive RenderError where
  /-- A destination could not take the text. -/
  | output (cause : String)
  /-- A value could not be formatted. -/
  | format
  /-- A failure of the template itself: its root cause, and what was added on the way out, the
  outermost addition last. -/
  | body (cause : String) (context : List String)
  | cancelled
  | sectionAlreadyDefined (name : String)
  | sectionNotDefined (name : String)
  | notInLayout
  | layoutBodyNotRendered
  | nestedSuspended
  | layoutAfterOutput
  | config (fault : ConfigFault)
  deriving DecidableEq, Repr, Inhabited

namespace RenderError

/-- The texts of a template's own failure, outermost first. -/
def bodyChain (cause : String) (context : List String) : List String :=
  context.reverse ++ [cause]

def message : RenderError → String
  | output cause => s!"failed to write template output: {cause}"
  | format => "failed to format template output"
  | body cause context => (bodyChain cause context).headD cause
  | cancelled => "render was cancelled"
  | sectionAlreadyDefined name => s!"section '{name}' is already defined"
  | sectionNotDefined name => s!"section '{name}' is not defined"
  | notInLayout => "page body and sections can only be rendered from a layout"
  | layoutBodyNotRendered => "layout did not render the page body"
  | nestedSuspended =>
    "nested template suspended during a synchronous write; use write_template_async"
  | layoutAfterOutput => "layout must be set before the page writes any output"
  | config fault => fault.message

/-- The causes behind an error, nearest first. -/
def sources : RenderError → List String
  | output cause => [cause]
  | format => ["an error occurred when formatting an argument"]
  | body cause context => (bodyChain cause context).tail
  | _ => []

end RenderError

/-- Calls that do not fit the protocol between a template and the renderer. -/
inductive Misuse where
  | attributeStillOpen (name openName : String)
  /-- No list can have so many fragments as are declared. -/
  | noRoom
  | fragmentWithoutAttribute
  | endWithoutAttribute
  | fragmentCount (name : String) (declared received : Nat)
  | sectionStillOpen (name openName : String)
  | endWithoutSection
  | finishedWithAttribute (name : String)
  | finishedWithSection (name : String)
  | offsetOutsideText (offset : Nat)
  deriving DecidableEq, Repr, Inhabited

namespace Misuse

def message : Misuse → String
  | attributeStillOpen name openName =>
    s!"begin_write_attribute('{name}') called while attribute '{openName}' is still open"
  | noRoom => "capacity overflow"
  | fragmentWithoutAttribute => "write_attribute_value called without begin_write_attribute"
  | endWithoutAttribute => "end_write_attribute called without begin_write_attribute"
  | fragmentCount name declared received =>
    s!"attribute '{name}' declared {declared} fragments but received {received}"
  | sectionStillOpen name openName =>
    s!"begin_section('{name}') called while section '{openName}' is still open"
  | endWithoutSection => "end_section called without begin_section"
  | finishedWithAttribute name => s!"template finished with attribute '{name}' still open"
  | finishedWithSection name => s!"template finished with section '{name}' still open"
  | offsetOutsideText offset => s!"byte offset {offset} is not a position in the text"

end Misuse

end Templating
