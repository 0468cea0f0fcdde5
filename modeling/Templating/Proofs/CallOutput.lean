import Templating.Proofs.RunStates
import Templating.Render

/-!
# The output of a call

A call of a body either works on its pass or writes. What a writing call writes is the same for
every destination: `Call.output` gives it for any of them, and `perform_output` says that
performing the call is writing that output to the frame. The frame itself is a destination, and
`Frame.write_eq` says where it puts a text: into the innermost capture, or else to its sink.
-/

namespace Templating

variable {σ τ : Type}

theorem join_eq_empty {texts : List String} (quiet : ∀ text ∈ texts, text = "") :
    String.join texts = "" := by
  induction texts with
  | nil => rfl
  | cons text rest ih =>
    have later : String.join rest = "" := ih fun t member => quiet t (by simp [member])
    simp [quiet text (by simp), later]

theorem isEmpty_append (s t : String) : (s ++ t).isEmpty = (s.isEmpty && t.isEmpty) := by
  rw [Bool.eq_iff_iff]
  simp

theorem any_nonempty (texts : List String) :
    texts.any (!·.isEmpty) = !(String.join texts).isEmpty := by
  induction texts with
  | nil => rfl
  | cons text rest ih =>
    rw [List.any_cons, ih, String.join_cons, isEmpty_append, Bool.not_and]

namespace Pass

/-- The pass when a text was issued to it. -/
def take (p : Pass) (text : String) : Pass :=
  match p.captures with
  | c :: captures => { p with captures := { c with text := c.text ++ text } :: captures }
  | [] => { p with written := p.written || !text.isEmpty }

def takeAll (p : Pass) (texts : List String) : Pass :=
  texts.foldl take p

theorem takeAll_append (p : Pass) (texts later : List String) :
    p.takeAll (texts ++ later) = (p.takeAll texts).takeAll later :=
  List.foldl_append

theorem take_captures_eq_nil (p : Pass) (text : String) :
    (p.take text).captures = [] ↔ p.captures = [] := by
  unfold take
  split
  · next h => simp [h]
  · next h => simp [h]

theorem takeAll_captures_eq_nil (p : Pass) (texts : List String) :
    (p.takeAll texts).captures = [] ↔ p.captures = [] := by
  induction texts generalizing p with
  | nil => rfl
  | cons text rest ih => exact (ih (p.take text)).trans (p.take_captures_eq_nil text)

theorem takeAll_captured (p : Pass) (texts : List String) {c : Capture} {rest : List Capture}
    (captured : p.captures = c :: rest) :
    p.takeAll texts =
      { p with captures := { c with text := c.text ++ String.join texts } :: rest } := by
  induction texts generalizing p c with
  | nil => simp [takeAll, ← captured]
  | cons text later ih =>
    have taken : p.take text =
        { p with captures := { c with text := c.text ++ text } :: rest } := by
      simp [take, captured]
    rw [takeAll, List.foldl_cons, taken, ← takeAll, ih _ rfl, String.join_cons, String.append_assoc]

theorem takeAll_direct (p : Pass) (texts : List String) (direct : p.captures = []) :
    p.takeAll texts = { p with written := p.written || texts.any (!·.isEmpty) } := by
  induction texts generalizing p with
  | nil => simp [takeAll]
  | cons text later ih =>
    have taken : p.take text = { p with written := p.written || !text.isEmpty } := by
      simp [take, direct]
    have still : (p.take text).captures = [] := (p.take_captures_eq_nil text).mpr direct
    rw [takeAll, List.foldl_cons, ← takeAll, ih _ still, taken, List.any_cons, Bool.or_assoc]

end Pass

namespace Frame

variable [Destination σ]

/-- The frame after a text that leaves this sink. -/
def took (f : Frame σ) (text : String) (sink : σ) : Frame σ :=
  { pass := f.pass.take text, task := { f.task with sink } }

theorem write_captured (f : Frame σ) (text : String) (captured : f.pass.captures ≠ []) :
    Action.write text f = .done (.ok ()) (f.took text f.task.sink) := by
  cases h : f.pass.captures with
  | nil => exact absurd h captured
  | cons c captures =>
    simp [Action.write, Action.ofStep, Destination.write, took, Pass.take, h]

theorem write_direct (f : Frame σ) (text : String) (direct : f.pass.captures = []) :
    Action.write text f =
      (Action.write text f.task.sink).recast (f.took text) fun o _ => o := by
  cases h : Destination.write text f.task.sink with
  | mk result sink =>
    cases result <;>
      simp [Action.write, Action.ofStep, Destination.write, took, Pass.take, direct, h, Run.recast,
        markWritten, withSink]

theorem writeAsync_captured (f : Frame σ) (text : String) (captured : f.pass.captures ≠ []) :
    Action.writeAsync text f = .done (.ok ()) (f.took text f.task.sink) := by
  cases h : f.pass.captures with
  | nil => exact absurd h captured
  | cons c captures => simp [Action.writeAsync, Destination.writeAsync, took, Pass.take, h]

theorem writeAsync_direct (f : Frame σ) (text : String) (direct : f.pass.captures = []) :
    Action.writeAsync text f =
      (Action.writeAsync text f.task.sink).recast (f.took text) fun o _ => o := by
  have same : (f.markWritten text).withSink = f.took text := by
    funext sink
    simp [markWritten, withSink, took, Pass.take, direct]
  simp [Action.writeAsync, Destination.writeAsync, direct, same]

theorem flush_captured (f : Frame σ) (captured : f.pass.captures ≠ []) :
    Action.flush f = .done (.ok ()) f := by
  cases h : f.pass.captures with
  | nil => exact absurd h captured
  | cons c captures => simp [Action.flush, Destination.flush, h]

theorem flush_direct (f : Frame σ) (direct : f.pass.captures = []) :
    Action.flush f = (Action.flush f.task.sink).recast f.withSink fun o _ => o := by
  simp [Action.flush, Destination.flush, direct]

theorem writeAll_captured (texts : List String) (f : Frame σ) (captured : f.pass.captures ≠ []) :
    Action.writeAll texts f = .done (.ok ()) { f with pass := f.pass.takeAll texts } := by
  induction texts generalizing f with
  | nil => rfl
  | cons text rest ih =>
    have still : (f.took text f.task.sink).pass.captures ≠ [] :=
      mt (f.pass.take_captures_eq_nil text).mp captured
    have written : Action.writeAll (text :: rest) f =
        (Action.write text f).bind fun _ => Action.writeAll rest := rfl
    rw [written, write_captured f text captured]
    exact ih _ still

/-- What the sink takes at once the frame takes at once. -/
theorem writeAll_direct (texts : List String) (f : Frame σ) (direct : f.pass.captures = [])
    {s : σ} (taken : Action.writeAll texts f.task.sink = .done (.ok ()) s) :
    Action.writeAll texts f =
      .done (.ok ()) { pass := f.pass.takeAll texts, task := { f.task with sink := s } } := by
  induction texts generalizing f with
  | nil =>
    cases taken
    rfl
  | cons text rest ih =>
    have written : Action.writeAll (text :: rest) f =
        (Action.write text f).bind fun _ => Action.writeAll rest := rfl
    have issued : Action.writeAll (text :: rest) f.task.sink =
        (Action.write text f.task.sink).bind fun _ => Action.writeAll rest := rfl
    rw [issued] at taken
    rw [written, write_direct f text direct]
    unfold Action.write Action.ofStep at taken ⊢
    split at taken
    · next s₁ first =>
      have still : (f.took text s₁).pass.captures = [] :=
        (f.pass.take_captures_eq_nil text).mpr direct
      exact ih _ still taken
    · cases taken

end Frame

theorem TextBuffer.writeAll_eq (texts : List String) (b : TextBuffer) :
    Action.writeAll texts b = .done (.ok ()) (b.push (String.join texts)) := by
  induction texts generalizing b with
  | nil =>
    rw [String.join_nil, push_empty]
    rfl
  | cons text rest ih =>
    rw [String.join_cons, ← push_push]
    exact ih (b.push text)

theorem Action.returns_unit {act : Action σ Unit} {s s' : σ} {reply : Reply}
    (returned : (act.unit s).Returns reply s') : (act s).Returns () s' := by
  obtain ⟨_, t, inner, ends⟩ := (Run.returns_bind _ _ reply s').mp returned
  obtain ⟨-, rfl⟩ := (Run.returns_done _ _ _ _).mp ends
  exact inner

/-- What writing a value writes under an encoding. -/
def Value.output (nesting : Nesting) [Destination τ] (encoding : Encoding) :
    Value → Action τ Unit
  | plain text? => .writeAll ((MarkedText.dynamic text?).portions encoding)
  | safe text => .writeAll ((MarkedText.raw text).portions encoding)
  | encoded content => content.write nesting
  | template name => nesting.renderNow name

/-- What rendering a section that need not exist writes, and whether it exists. -/
def Pass.sectionOutput [Destination τ] (p : Pass) (name : String) : Action τ Bool :=
  match p.input? with
  | none => .fail .notInLayout
  | some input =>
    match input.sections.lookup name with
    | none => pure false
    | some text => do
      .write text
      pure true

namespace Pass

variable [Destination τ] {p : Pass} {input : LayoutInput} {name : String}

theorem sectionOutput_absent (page : p.input? = some input)
    (absent : input.sections.lookup name = none) (t : τ) :
    p.sectionOutput name t = .done (.ok false) t := by
  simp only [sectionOutput, page, absent]
  rfl

theorem sectionOutput_found (page : p.input? = some input) {text : String}
    (found : input.sections.lookup name = some text) (t : τ) :
    p.sectionOutput name t = (Action.write text t).bind fun _ t' => .done (.ok true) t' := by
  simp only [sectionOutput, page, found]
  rfl

end Pass

namespace Call

/-- The calls that write, or flush what was written. -/
def writes : Call → Bool
  | literal _ | literalAsync _ | write _ | templateAsync _ | flush | endAttribute | renderBody
  | renderSection _ | renderSectionOptional _ => true
  | _ => false

/-- What a call writes when it is made in this pass. -/
def output (nesting : Nesting) [Destination τ] (p : Pass) : Call → Action τ Reply
  | literal text => (if text.isEmpty then pure () else Action.write text).unit
  | literalAsync text => (if text.isEmpty then pure () else Action.writeAsync text).unit
  | write value => (value.output nesting p.config.encoding).unit
  | templateAsync name => (nesting name τ).unit
  | flush => Action.flush.unit
  | endAttribute => Action.unit do
    let _ ← p.writer.close.1.write p.config.encoding
  | renderBody =>
    match p.input? with
    | none => .fail .notInLayout
    | some input => (Action.write input.body).unit
  | renderSection name => Action.unit do
    if !(← p.sectionOutput name) then .fail (.sectionNotDefined name)
  | renderSectionOptional name => .flag <$> p.sectionOutput name
  | _ => pure .unit

/-- What a call that writes changes in its pass beforehand. -/
def prepare (p : Pass) : Call → Pass
  | endAttribute => { p with writer := p.writer.close.2 }
  | renderBody => { p with input? := p.input?.map fun input => { input with bodyRendered := true } }
  | _ => p

end Call

theorem Frame.renderSectionOptional_eq [Destination σ] (f : Frame σ) (name : String) :
    Frame.renderSectionOptional name f = f.pass.sectionOutput name f := by
  unfold Frame.renderSectionOptional
  refine (Action.read_bind (fun f : Frame σ => f.pass.input?) _ f).trans ?_
  unfold Pass.sectionOutput
  cases f.pass.input? with
  | none => rfl
  | some input => cases input.sections.lookup name <;> rfl

/-- Performing a call that writes is writing its output to the frame. -/
theorem Call.perform_output [Destination σ] (nesting : Nesting) (call : Call) (f : Frame σ)
    (writing : call.writes = true) :
    call.perform nesting f =
      call.output nesting f.pass { f with pass := call.prepare f.pass } := by
  cases call with
  | literal text => rfl
  | literalAsync text => rfl
  | write value => cases value <;> rfl
  | templateAsync name => rfl
  | flush => rfl
  | endAttribute => rfl
  | renderBody =>
    obtain ⟨⟨config, writer, captures, layout?, sections, input?, written⟩, task⟩ := f
    cases input? <;> rfl
  | renderSection name =>
    change Run.bind _ (Run.bind _ (Frame.renderSectionOptional name f)) = _
    rw [Frame.renderSectionOptional_eq]
    rfl
  | renderSectionOptional name =>
    change Run.bind _ (Frame.renderSectionOptional name f) = _
    rw [Frame.renderSectionOptional_eq]
    rfl
  | _ => cases writing

end Templating
