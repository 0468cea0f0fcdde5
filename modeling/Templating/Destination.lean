import Templating.Run
import Templating.TextBuffer

/-!
# Destinations

What rendered text can be written to. A synchronous write never waits; an asynchronous one, and a
flush, may. Text in memory takes everything at once.
-/

namespace Templating

class Destination (σ : Type) where
  write : String → σ → Except RenderError Unit × σ
  writeAsync : String → Action σ Unit
  flush : Action σ Unit

variable {σ : Type}

namespace Action

/-- An action that never waits and reports nothing. -/
def ofStep {α : Type} (step : σ → Except RenderError α × σ) : Action σ α := fun s =>
  match step s with
  | (.ok a, s) => .done (.ok a) s
  | (.error e, s) => .done (.failed e) s

def write [Destination σ] (text : String) : Action σ Unit :=
  ofStep (Destination.write text)

def writeAsync [Destination σ] (text : String) : Action σ Unit :=
  Destination.writeAsync text

def flush [Destination σ] : Action σ Unit :=
  Destination.flush

/-- Writes the portions in order, up to the first that fails. -/
def writeAll [Destination σ] : List String → Action σ Unit
  | [] => pure ()
  | text :: rest => do
    write text
    writeAll rest

end Action

instance : Destination TextBuffer where
  write text b := (.ok (), b.push text)
  writeAsync text := .update (·.push text)
  flush := pure ()

end Templating
