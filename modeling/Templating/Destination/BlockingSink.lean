import Templating.Destination.ScriptedWriter

/-!
# Blocking sink

Writes every text straight to a writer. Nothing is held back, and nothing waits.
-/

namespace Templating

structure BlockingSink where
  writer : ScriptedWriter := {}
  deriving DecidableEq, Repr, Inhabited

namespace BlockingSink

def send (text : String) (b : BlockingSink) : Except RenderError Unit × BlockingSink :=
  let (result, writer) := b.writer.sendBlocking b.writer.script (ScriptedWriter.utf8 text)
  (result, { writer })

def pushThrough (b : BlockingSink) : Except RenderError Unit × BlockingSink :=
  let (result, writer) := b.writer.flushBlocking
  (result, { writer })

end BlockingSink

instance : Destination BlockingSink where
  write := BlockingSink.send
  writeAsync text := .ofStep (BlockingSink.send text)
  flush := .ofStep BlockingSink.pushThrough

end Templating
