import Templating.Destination.ScriptedWriter

/-!
# Staged sink

A sink over an asynchronous writer. Synchronous writes are staged in order, and handed over before
the next asynchronous write or flush. Staged text is dropped only when all of it was handed over.
-/

namespace Templating

structure StagedSink where
  writer : ScriptedWriter := {}
  staged : String := ""
  deriving DecidableEq, Repr, Inhabited

namespace StagedSink

def stage (text : String) (s : StagedSink) : StagedSink :=
  { s with staged := s.staged ++ text }

/-- Hands over a text and leaves what is staged alone. -/
def send (text : String) : Action StagedSink Unit := fun s =>
  (s.writer.sendAsync s.writer.script (ScriptedWriter.utf8 text)).recast
    (fun writer => { s with writer }) fun o _ => o

/-- Hands over what is staged. -/
def drain : Action StagedSink Unit := do
  send (← .read staged)
  .update fun s => { s with staged := "" }

def pushThrough : Action StagedSink Unit := fun s =>
  (s.writer.flushAsync s.writer.flushScript).recast (fun writer => { s with writer }) fun o _ => o

end StagedSink

instance : Destination StagedSink where
  write text s := (.ok (), s.stage text)
  writeAsync text := do
    StagedSink.drain
    StagedSink.send text
  flush := do
    StagedSink.drain
    StagedSink.pushThrough

end Templating
