import Templating.Destination

/-!
# Recorder

A destination that keeps a list of the writes it took and counts its flushes. It can be told to
refuse some writes, to wait once before every asynchronous write, and to refuse every flush.
-/

namespace Templating

inductive WriteKind where
  | sync | async
  deriving DecidableEq, Repr, Inhabited

structure Recorder where
  /-- Positions of the writes that are refused, counted over all writes. -/
  refusals : List Nat := []
  waits : Bool := false
  refusesFlush : Bool := false
  /-- How many writes there were, with those that were refused. -/
  writes : Nat := 0
  taken : List (WriteKind × String) := []
  flushes : Nat := 0
  deriving DecidableEq, Repr, Inhabited

namespace Recorder

def take (kind : WriteKind) (text : String) (r : Recorder) :
    Except RenderError Unit × Recorder :=
  let next := { r with writes := r.writes + 1 }
  if r.refusals.contains r.writes then (.error (.output "sink failed"), next)
  else (.ok (), { next with taken := r.taken ++ [(kind, text)] })

def countFlush (r : Recorder) : Except RenderError Unit × Recorder :=
  (if r.refusesFlush then .error (.output "flush failed") else .ok (),
    { r with flushes := r.flushes + 1 })

/-- What was taken, in order and without the cuts between writes. -/
def text (r : Recorder) : String :=
  String.join (r.taken.map Prod.snd)

end Recorder

instance : Destination Recorder where
  write := Recorder.take .sync
  writeAsync text := do
    if ← .read Recorder.waits then .wait 1
    .ofStep (Recorder.take .async text)
  flush := .ofStep Recorder.countFlush

namespace Recorder

theorem writeAsync_eq (text : String) (r : Recorder) :
    Action.writeAsync text r =
      if r.waits then .pause r fun _ => Action.ofStep (take .async text) r
      else Action.ofStep (take .async text) r := by
  cases waits : r.waits <;>
    simp [Action.writeAsync, Destination.writeAsync, bind, Action.read, waits, Action.wait,
      pure, Run.bind]

theorem flush_eq (r : Recorder) :
    Action.flush r =
      .done (if r.refusesFlush then .failed (.output "flush failed") else .ok ())
        { r with flushes := r.flushes + 1 } := by
  cases refuses : r.refusesFlush <;>
    simp [Action.flush, Destination.flush, Action.ofStep, countFlush, refuses]

theorem attempt_flush_eq (r : Recorder) :
    Action.flush.attempt r =
      .done (.ok (if r.refusesFlush then .failed (.output "flush failed") else .ok ()))
        { r with flushes := r.flushes + 1 } := by
  rw [Action.attempt, flush_eq]
  rfl

end Recorder

end Templating
