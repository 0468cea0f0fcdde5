import Templating.Proofs.CallOutput

/-!
# Relations that outputs respect

What a call writes is put together from writing texts, rendering templates and flushing. A relation
between actions on two destinations that composing actions respects (`Action.Compositional`) thus
relates the outputs of a call for both, if it relates what they are put together from
(`Action.Compositional.output`). A property of actions on one destination is the relation that
leaves its second side unused.
-/

namespace Templating

variable {σ τ : Type}

/-- One clause for each way to make an action out of others. No output is too deep by itself. -/
structure Action.Compositional (R : (α : Type) → Action σ α → Action τ α → Prop) : Prop where
  conclude : ∀ {α : Type} (o : Outcome α), o ≠ .tooDeep → R α (.conclude o) (.conclude o)
  log : ∀ entry, R Unit (.log entry) (.log entry)
  bind : ∀ {α β : Type} {act : Action σ α} {ref : Action τ α} {next : α → Action σ β}
    {next' : α → Action τ β}, R α act ref → (∀ a, R β (next a) (next' a)) →
      R β (act >>= next) (ref >>= next')

/-- Calls whose output is texts alone: no template, and nothing that may wait. -/
def Call.writesTexts : Call → Bool
  | literalAsync _ | write _ | templateAsync _ | flush => false
  | _ => true

namespace Action.Compositional

variable {R : (α : Type) → Action σ α → Action τ α → Prop} (composes : Compositional R)

include composes

theorem pure {α : Type} (a : α) : R α (pure a) (pure a) :=
  composes.conclude (.ok a) nofun

theorem unit {act : Action σ Unit} {ref : Action τ Unit} (h : R Unit act ref) :
    R Reply act.unit ref.unit :=
  composes.bind h fun _ => composes.pure Reply.unit

variable [Destination σ] [Destination τ]
  (write : ∀ text, R Unit (Action.write text) (Action.write text))

include write

theorem writeAll (texts : List String) : R Unit (writeAll texts) (writeAll texts) := by
  induction texts with
  | nil => exact composes.pure ()
  | cons text rest ih => exact composes.bind (write text) fun _ => ih

theorem sectionOutput (p : Pass) (name : String) :
    R Bool (p.sectionOutput name) (p.sectionOutput name) := by
  unfold Pass.sectionOutput
  split
  · exact composes.conclude _ nofun
  · split
    · exact composes.pure false
    · exact composes.bind (write _) fun _ => composes.pure true

theorem closing (encoding : Encoding) (closing : Closing) :
    R Bool (closing.write encoding) (closing.write encoding) := by
  have count : ∀ a, R Unit (Closing.reportCount a) (Closing.reportCount a) := by
    intro a
    unfold Closing.reportCount
    split
    · exact composes.log _
    · exact composes.pure ()
  cases closing with
  | refused m => exact composes.conclude _ nofun
  | leftOut a =>
    exact composes.bind (count a) fun _ => composes.bind (composes.log _) fun _ =>
      composes.pure false
  | written a =>
    exact composes.bind (count a) fun _ => composes.bind (composes.log _) fun _ =>
      composes.bind (composes.writeAll write _) fun _ => composes.pure true

variable (nesting nesting' : Nesting)

theorem content (nested : ∀ name, R Unit (nesting.renderNow name) (nesting'.renderNow name))
    (content : Content) : R Unit (content.write nesting) (content.write nesting') := by
  cases content with
  | html text => exact composes.writeAll write _
  | marked text => exact composes.writeAll write _
  | template name => exact nested name

theorem value (nested : ∀ name, R Unit (nesting.renderNow name) (nesting'.renderNow name))
    (encoding : Encoding) (value : Value) :
    R Unit (value.output nesting encoding) (value.output nesting' encoding) := by
  cases value with
  | plain text? => exact composes.writeAll write _
  | safe text => exact composes.writeAll write _
  | encoded content => exact composes.content write nesting nesting' nested content
  | template name => exact nested name

theorem output_of_writesTexts (p : Pass) {call : Call} (texts : call.writesTexts = true) :
    R Reply (call.output nesting p) (call.output nesting' p) := by
  cases call with
  | literal text =>
    refine composes.unit ?_
    split
    · exact composes.pure ()
    · exact write text
  | endAttribute =>
    exact composes.unit (composes.bind (composes.closing write _ _) fun _ => composes.pure ())
  | renderBody =>
    unfold Call.output
    dsimp only
    split
    · exact composes.conclude _ nofun
    · exact composes.unit (write _)
  | renderSection name =>
    refine composes.unit (composes.bind (composes.sectionOutput write p name) fun found => ?_)
    split
    · exact composes.conclude _ nofun
    · exact composes.pure ()
  | renderSectionOptional name =>
    exact composes.bind (composes.sectionOutput write p name) fun found =>
      composes.pure (Reply.flag found)
  | literalAsync _ | write _ | templateAsync _ | flush => cases texts
  | _ => exact composes.pure Reply.unit

theorem output
    (writeAsync : ∀ text, R Unit (Action.writeAsync text) (Action.writeAsync text))
    (flush : R Unit Action.flush Action.flush)
    (nested : ∀ name, R Unit (nesting name σ) (nesting' name τ))
    (nestedNow : ∀ name, R Unit (nesting.renderNow name) (nesting'.renderNow name)) (p : Pass)
    (call : Call) : R Reply (call.output nesting p) (call.output nesting' p) := by
  cases call with
  | literalAsync text =>
    refine composes.unit ?_
    split
    · exact composes.pure ()
    · exact writeAsync text
  | write v => exact composes.unit (composes.value write nesting nesting' nestedNow _ v)
  | templateAsync name => exact composes.unit (nested name)
  | flush => exact composes.unit flush
  | _ => exact composes.output_of_writesTexts write nesting nesting' p rfl

end Action.Compositional

end Templating
