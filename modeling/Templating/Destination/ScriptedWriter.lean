import Templating.Destination

/-!
# Scripted writer

A writer of bytes that answers every low-level call by the next entry of its script, and takes
everything once the script is used up. `sendBlocking` and `sendAsync` are the two loops that hand
over a whole text. Both try again at once when they were interrupted; only the asynchronous one
waits for a writer that is not ready. Neither calls the writer for an empty text.
-/

namespace Templating

/-- The answer to one low-level write. -/
inductive WriteAnswer where
  /-- Takes that many bytes, or all there are. -/
  | accept (count : Nat)
  | notReady
  | interrupted
  | error (cause : String)
  deriving DecidableEq, Repr, Inhabited

/-- The answer to one low-level flush. -/
inductive FlushAnswer where
  | ok
  | notReady
  | error (cause : String)
  deriving DecidableEq, Repr, Inhabited

structure ScriptedWriter where
  script : List WriteAnswer := []
  flushScript : List FlushAnswer := []
  accepted : List UInt8 := []
  flushes : Nat := 0
  deriving DecidableEq, Repr, Inhabited

namespace ScriptedWriter

/-- The bytes of a text in UTF-8. -/
def utf8 (text : String) : List UInt8 :=
  text.toList.flatMap String.utf8EncodeChar

theorem utf8_append (s t : String) : utf8 (s ++ t) = utf8 s ++ utf8 t := by
  simp [utf8]

def accept (bytes : List UInt8) (w : ScriptedWriter) : ScriptedWriter :=
  { w with accepted := w.accepted ++ bytes }

/-- Hands over all bytes without waiting; a writer that is not ready is asked again. Taking no
byte is an error. -/
def sendBlocking (w : ScriptedWriter) :
    List WriteAnswer → List UInt8 → Except RenderError Unit × ScriptedWriter
  | script, [] => (.ok (), { w with script })
  | [], bytes => (.ok (), { w.accept bytes with script := [] })
  | .accept 0 :: script, _ :: _ =>
    (.error (.output "failed to write whole buffer"), { w with script })
  | .accept (n + 1) :: script, b :: bytes =>
    sendBlocking (w.accept (b :: bytes.take n)) script (bytes.drop n)
  | .notReady :: script, b :: bytes | .interrupted :: script, b :: bytes =>
    sendBlocking w script (b :: bytes)
  | .error cause :: script, _ :: _ => (.error (.output cause), { w with script })

/-- Hands over all bytes, and waits when the writer is not ready. An interrupted call is made again
without waiting. Taking no byte is an error. -/
def sendAsync (w : ScriptedWriter) : List WriteAnswer → List UInt8 → Run ScriptedWriter Unit
  | script, [] => .done (.ok ()) { w with script }
  | [], bytes => .done (.ok ()) { w.accept bytes with script := [] }
  | .accept 0 :: script, _ :: _ => .done (.failed (.output "write zero")) { w with script }
  | .accept (n + 1) :: script, b :: bytes =>
    sendAsync (w.accept (b :: bytes.take n)) script (bytes.drop n)
  | .notReady :: script, b :: bytes =>
    .pause { w with script } fun _ => sendAsync w script (b :: bytes)
  | .interrupted :: script, b :: bytes => sendAsync w script (b :: bytes)
  | .error cause :: script, _ :: _ => .done (.failed (.output cause)) { w with script }

def flushBlocking (w : ScriptedWriter) : Except RenderError Unit × ScriptedWriter :=
  match w.flushScript.dropWhile (· == .notReady) with
  | .error cause :: script => (.error (.output cause), { w with flushScript := script })
  | script => (.ok (), { w with flushScript := script.tail, flushes := w.flushes + 1 })

def flushAsync (w : ScriptedWriter) : List FlushAnswer → Run ScriptedWriter Unit
  | [] => .done (.ok ()) { w with flushScript := [], flushes := w.flushes + 1 }
  | .ok :: script => .done (.ok ()) { w with flushScript := script, flushes := w.flushes + 1 }
  | .notReady :: script => .pause { w with flushScript := script } fun _ => flushAsync w script
  | .error cause :: script => .done (.failed (.output cause)) { w with flushScript := script }

end ScriptedWriter

end Templating
