import Templating.Encoding
import Templating.RenderError

/-!
# Configuration of a render
-/

namespace Templating

structure Config where
  encoding : Encoding := .html
  /-- Initial room of the buffers of a render. -/
  bufferCapacity : Nat := 1024
  /-- An attribute whose fragments are miscounted is a misuse, and not only reported. -/
  strictAttributeCount : Bool := false
  /-- A layout has to render the page body. -/
  requireLayoutBody : Bool := true
  deriving DecidableEq, Repr, Inhabited

namespace Config

/-- For plain text: values are written as they are. -/
def raw : Config :=
  { encoding := .raw }

/-- 16 MiB. -/
def maxBufferCapacity : Nat :=
  16 * 1024 * 1024

def validate (c : Config) : Except ConfigFault Unit :=
  if c.bufferCapacity = 0 then .error .emptyCapacity
  else if maxBufferCapacity < c.bufferCapacity then
    .error (.oversizedCapacity maxBufferCapacity c.bufferCapacity)
  else .ok ()

end Config

end Templating
