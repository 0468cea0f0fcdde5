import Templating.Attribute
import Templating.Value.Basic

/-!
# Bodies

The body of a template is a list of calls to the renderer. A call that fails ends its body with
that failure, unless the step says that the body goes on; a step may also depend on a section that
the page in a layout defined.
-/

namespace Templating

inductive Call where
  | literal (text : String)
  | literalAsync (text : String)
  | write (value : Value)
  /-- Renders a template in place, and waits when it waits. -/
  | templateAsync (name : String)
  | flush
  | beginAttribute (head : AttributeHead)
  | attributeValue (head : FragmentHead) (value : Value)
  | endAttribute
  | setLayout (name : String)
  | beginSection (name : String)
  | endSection
  | isSectionDefined (name : String)
  | renderBody
  | renderSection (name : String)
  | renderSectionOptional (name : String)
  | encoding
  | config
  /-- Cancels the render that the body runs in. -/
  | cancel
  | isCancelled
  | ensureNotCancelled
  | fail (error : RenderError)
  | wait (polls : Nat)
  | stall
  deriving DecidableEq, Repr, Inhabited

structure Step where
  call : Call
  /-- The body goes on when the call fails. -/
  tolerant : Bool := false
  /-- The call is skipped unless this section is defined. -/
  needs? : Option String := none
  deriving DecidableEq, Repr, Inhabited

structure Body where
  name : String
  steps : List Step
  deriving DecidableEq, Repr, Inhabited

/-- What a template is made of. -/
structure Blueprint where
  body : Body
  config : Config := {}
  deriving DecidableEq, Repr, Inhabited

/-- The templates that can be referred to, by name. -/
abbrev Catalog :=
  String → Blueprint

end Templating
