import Templating.Proofs.IssuedTexts
import Templating.Proofs.Renders

/-!
# Nested templates

A template that is written into another one and the frame around it do not see each other. The
frame changes by the text that comes out of the template, and by nothing else: what is captured
grows by it, or else it goes to the sink, and the frame records that something was issued. The
template, for its part, does in any place that is in memory what it does in a render of its own
(`Call.nested_isolated`).
-/

namespace Templating

variable {σ τ α : Type}

namespace Pass

theorem take_empty (p : Pass) : p.take "" = p := by
  unfold take
  split
  · next c rest captures =>
    rw [String.append_empty, ← captures]
  · rw [show ("" : String).isEmpty = true from rfl, Bool.not_true, Bool.or_false]

/-- What goes to the sink in two texts could go there in one. -/
theorem take_take (p : Pass) (direct : p.captures = []) (text more : String) :
    (p.take text).take more = p.take (text ++ more) := by
  simp [take, direct, isEmpty_append, Bool.or_assoc]

end Pass

namespace Frame

/-- The frame with `text` appended to its innermost capture `c`. -/
def capturing (f : Frame σ) (c : Capture) (rest : List Capture) (text : String) : Frame σ :=
  { f with pass := { f.pass with captures := { c with text := c.text ++ text } :: rest } }

/-- The frame after these texts were issued to its sink. -/
def issuing (f : Frame σ) (l : Logged σ) : Frame σ where
  pass := { f.pass with written := f.pass.written || l.texts.any (!·.isEmpty) }
  task := { f.task with sink := l.sink }

theorem took_capturing (f : Frame σ) (c : Capture) (rest : List Capture) (text more : String) :
    (f.capturing c rest text).took more (f.capturing c rest text).task.sink =
      f.capturing c rest (text ++ more) := by
  simp [took, capturing, Pass.take, String.append_assoc]

theorem took_issuing (f : Frame σ) (direct : f.pass.captures = []) (l : Logged σ) (text : String)
    (sink : σ) :
    (f.issuing l).took text sink = f.issuing { sink, texts := l.texts ++ [text] } := by
  simp [took, issuing, Pass.take, direct, Bool.or_assoc]

end Frame

/-- The destination `s` is in memory, and `put text` is `s` with `text` appended to it. -/
inductive InMemory : {σ : Type} → [Destination σ] → σ → (String → σ) → Prop
  | buffer (b : TextBuffer) : InMemory b b.push
  | captured {σ : Type} [Destination σ] {f : Frame σ} {c : Capture} {rest : List Capture}
      (captures : f.pass.captures = c :: rest) : InMemory f (f.capturing c rest)
  | direct {σ : Type} [Destination σ] {f : Frame σ} {put : String → σ}
      (captures : f.pass.captures = []) (sink : InMemory f.task.sink put) :
      InMemory f fun text => f.took text (put text)

namespace InMemory

theorem put_empty [Destination σ] {s : σ} {put : String → σ} (memory : InMemory s put) :
    put "" = s := by
  induction memory with
  | buffer b => exact b.push_empty
  | @captured σ _ f c rest captures =>
    simp only [Frame.capturing, String.append_empty]
    rw [← captures]
  | @direct σ _ f put captures sink ih =>
    simp only [Frame.took, Pass.take_empty, ih]

/-- Whatever was appended before, every text is appended at once. -/
theorem takes [Destination σ] {s : σ} {put : String → σ} (memory : InMemory s put)
    (before text : String) :
    Action.write text (put before) = .done (.ok ()) (put (before ++ text)) ∧
      Action.writeAsync text (put before) = .done (.ok ()) (put (before ++ text)) ∧
      (Action.flush (put before) : Run σ Unit) = .done (.ok ()) (put before) := by
  induction memory generalizing before text with
  | buffer b =>
    rw [← b.push_push before text]
    exact ⟨rfl, rfl, rfl⟩
  | @captured σ _ f c rest captures =>
    have open' : (f.capturing c rest before).pass.captures ≠ [] := by simp [Frame.capturing]
    refine ⟨?_, ?_, Frame.flush_captured _ open'⟩
    · rw [Frame.write_captured _ text open', Frame.took_capturing]
    · rw [Frame.writeAsync_captured _ text open', Frame.took_capturing]
  | @direct σ _ f put captures sink ih =>
    have unopened : (f.took before (put before)).pass.captures = [] :=
      (f.pass.take_captures_eq_nil before).mpr captures
    have taken : (f.took before (put before)).took text (put (before ++ text)) =
        f.took (before ++ text) (put (before ++ text)) :=
      congrArg (Frame.mk · _) (f.pass.take_take captures before text)
    obtain ⟨write, writeAsync, flush⟩ := ih before text
    refine ⟨?_, ?_, ?_⟩
    · refine (Frame.write_direct _ text unopened).trans ?_
      exact (congrArg (Run.recast _ _) write).trans (congrArg (Run.done _) taken)
    · refine (Frame.writeAsync_direct _ text unopened).trans ?_
      exact (congrArg (Run.recast _ _) writeAsync).trans (congrArg (Run.done _) taken)
    · exact (Frame.flush_direct _ unopened).trans (congrArg (Run.recast _ _) flush)

/-- A destination in memory beside memory that was empty at first. -/
def beside (put : String → σ) : Coupling σ TextBuffer where
  now s b := s = put b.text
  past _ _ := True
  lossy := False
  now_past _ _ _ := trivial

theorem beside_respects [Destination σ] {s : σ} {put : String → σ} (memory : InMemory s put) :
    (beside put).Respects where
  write text := by
    refine ⟨?_, fun _ => .trivially _⟩
    rintro _ b rfl
    rw [(memory.takes b.text text).1]
    exact .done _ rfl
  writeAsync text := by
    refine ⟨?_, fun _ => .trivially _⟩
    rintro _ b rfl
    rw [(memory.takes b.text text).2.1]
    exact .done _ rfl
  flush := by
    refine ⟨?_, fun _ => .trivially _⟩
    rintro _ b rfl
    rw [(memory.takes b.text "").2.2]
    exact .done _ rfl

end InMemory

namespace Frame

/-- A frame that captures nothing beside its sink with a log. -/
def besideSink (f : Frame σ) : Coupling (Frame σ) (Logged σ) where
  now g l := g = f.issuing l
  past _ _ := True
  lossy := False
  now_past _ _ _ := trivial

theorem besideSink_respects [Destination σ] (f : Frame σ) (direct : f.pass.captures = []) :
    f.besideSink.Respects := by
  have seen : ∀ (l : Logged σ) (texts : List String) (r : Run σ Unit)
      (put : σ → Frame σ), (∀ s, put s = f.issuing { sink := s, texts }) →
      (r.recast put fun o _ => o).Follows f.besideSink
        (r.recast ({ sink := ·, texts }) fun o _ => o) := by
    intro l texts r put same
    induction r with
    | done o s => exact .done o (same s)
    | note e rest ih => exact .noteLeft e (.noteRight e ih)
    | pause s rest ih => exact .pause (same s) (.trivially _) (ih ())
    | stalled s => exact .stalled (same s)
  refine ⟨fun text => ⟨?_, fun _ => .trivially _⟩, fun text => ⟨?_, fun _ => .trivially _⟩,
    ⟨?_, fun _ => .trivially _⟩⟩
  · rintro _ l rfl
    rw [write_direct (f.issuing l) text direct, Logged.write_eq]
    exact seen l _ _ _ (f.took_issuing direct l text)
  · rintro _ l rfl
    rw [writeAsync_direct (f.issuing l) text direct]
    exact seen l _ _ _ (f.took_issuing direct l text)
  · rintro _ l rfl
    rw [flush_direct (f.issuing l) direct]
    exact seen l _ _ _ fun s => rfl

end Frame

namespace Blueprint

/-- A render into memory goes, poll by poll, as its execution. -/
theorem drive_renderTo_memory (catalog : Catalog) (depth : Nat) (b : Blueprint)
    (allowed : Option Nat) (t : TextBuffer) (more : Nat) :
    let whole := (b.renderTo catalog depth allowed t).drive more
    let execution := (b.renderCancellable catalog depth allowed t).drive more
    whole.state = execution.state ∧ whole.outcome? = execution.outcome? := by
  intro whole execution
  have settled : ∀ (o : Outcome Unit) (t : TextBuffer),
      (settle o t).await.state = t ∧ (settle o t).await.outcome? = some o := by
    intro o t
    cases o <;> exact ⟨rfl, rfl⟩
  have closed : whole = _ := b.drive_renderTo (fun _ => rfl) catalog depth allowed t more
  rw [closed]
  unfold Driven.closed
  cases ended : execution.outcome? with
  | none => simp [execution]
  | some o => simp [execution, settled]

end Blueprint

/-- The templates to refer to, whatever their own buffers hold. -/
def Catalog.ofTemplates (templates : String → Template) : Catalog := fun name =>
  (templates name).blueprint

/-- A frame, and the templates that its calls refer to. Each has a buffer of its own. -/
structure Scene (σ : Type) where
  frame : Frame σ
  templates : String → Template

namespace Call

/-- Performs a call with templates at hand, which it reads. -/
def performAt [Destination σ] (depth : Nat) (call : Call) : Action (Scene σ) Reply := fun scene =>
  (call.perform ((Catalog.ofTemplates scene.templates).nesting depth) scene.frame).recast
    ({ scene with frame := · }) fun o _ => o

/-- The calls that write this template in place. -/
def embedding (name : String) : List Call :=
  [.write (.template name), .write (.encoded (.template name)), .templateAsync name]

theorem mem_embedding {name : String} {call : Call} :
    call ∈ embedding name ↔ call = .write (.template name) ∨
      call = .write (.encoded (.template name)) ∨ call = .templateAsync name := by
  simp [embedding]

theorem writes_of_embeds {name : String} {call : Call} (embeds : call ∈ embedding name) :
    call.writes = true := by
  rcases mem_embedding.mp embeds with rfl | rfl | rfl <;> rfl

theorem prepare_of_embeds {name : String} {call : Call} (embeds : call ∈ embedding name)
    (p : Pass) : call.prepare p = p := by
  rcases mem_embedding.mp embeds with rfl | rfl | rfl <;> rfl

/-- How often such a call polls the template again. -/
def patience (call : Call) (more : Nat) : Nat :=
  match call with
  | .templateAsync _ => more
  | _ => 0

/-- A call that waits with its template polls it as often as it is polled itself, and a template
that never waits needs no more than one poll. -/
theorem drive_patience {call : Call} {name : String} {r : Run σ α}
    (awaited : r.pauses = [] ∨ call = .templateAsync name) (more : Nat) :
    r.drive (call.patience more) = r.drive more := by
  rcases awaited with unwaiting | rfl
  · rw [Run.drive_eq_await unwaiting, Run.drive_eq_await unwaiting]
  · rfl

variable [Destination σ]

/-- A call changes its frame, and no template. -/
theorem drive_performAt (templates : String → Template) (depth : Nat) (call : Call) (f : Frame σ)
    (more : Nat) :
    let made := (call.perform ((Catalog.ofTemplates templates).nesting depth) f).drive more
    let d := (call.performAt depth { frame := f, templates }).drive more
    d.state.frame = made.state ∧ d.state.templates = templates ∧ d.outcome? = made.outcome? := by
  intro made d
  have seen : d = _ := Run.drive_recast
    (call.perform ((Catalog.ofTemplates templates).nesting depth) f)
    (fun frame => ({ frame, templates } : Scene σ)) (fun o _ => o) more
  rw [seen]
  exact ⟨rfl, rfl, Option.map_id'⟩

/-- Into a frame that is in memory a call writes as into memory that is empty. -/
theorem perform_inMemory {nesting : Nesting} (natural : nesting.Natural) {call : Call} {f : Frame σ}
    {put : String → Frame σ} (memory : InMemory f put) (writing : call.writes = true)
    (unprepared : call.prepare f.pass = f.pass) :
    (call.perform nesting f).Follows (InMemory.beside put)
      (call.output nesting f.pass ({} : TextBuffer)) := by
  have respects := InMemory.beside_respects memory
  have follows : Action.Follows (InMemory.beside put) (call.output nesting f.pass)
      (call.output nesting f.pass) := .output respects (natural id respects) f.pass call
  rw [perform_output nesting call f writing, unprepared]
  exact follows.run memory.put_empty.symm

/-- Through a frame that captures nothing a call writes as to the sink itself. -/
theorem perform_direct {nesting : Nesting} (natural : nesting.Natural) {call : Call} {f : Frame σ}
    (direct : f.pass.captures = []) (writing : call.writes = true)
    (unprepared : call.prepare f.pass = f.pass) :
    (call.perform nesting f).Follows f.besideSink
      (call.output nesting f.pass ({ sink := f.task.sink } : Logged σ)) := by
  have respects := f.besideSink_respects direct
  have follows : Action.Follows f.besideSink (call.output nesting f.pass)
      (call.output nesting f.pass) := .output respects (natural id respects) f.pass call
  rw [perform_output nesting call f writing, unprepared]
  refine follows.run ?_
  simp [Frame.besideSink, Frame.issuing]

/-- A call that writes a template leaves what the template comes to in as many polls. -/
theorem output_embedded [Destination τ] {nesting : Nesting} {name : String} {call : Call}
    (embeds : call ∈ embedding name) (p : Pass) (t : τ) (more : Nat) :
    ((call.output nesting p t).drive more).state =
      ((nesting name τ t).drive (call.patience more)).state := by
  have once : ((Action.unit (nesting name τ).firstPoll t).drive more).state =
      ((nesting name τ t).drive 0).state :=
    (congrArg Driven.state (Action.drive_unit _ t more)).trans (Run.firstPoll_state _ more)
  rcases mem_embedding.mp embeds with rfl | rfl | rfl
  · exact once
  · exact once
  · exact congrArg Driven.state (Action.drive_unit (nesting name τ) t more)

/-- Unless the template waits in a call that does not, the call ends as the template does. -/
theorem output_embedded_outcome [Destination τ] {nesting : Nesting} {name : String} {call : Call}
    (embeds : call ∈ embedding name) (p : Pass) (t : τ) (more : Nat)
    (awaited : (nesting name τ t).pauses = [] ∨ call = .templateAsync name) :
    ((call.output nesting p t).drive more).outcome? =
      ((nesting name τ t).drive more).outcome?.map (·.map fun _ => .unit) := by
  have replied := congrArg Driven.outcome? (Action.drive_unit (nesting name τ) t more)
  rcases awaited with unwaiting | rfl
  · have whole : (nesting name τ).firstPoll t = nesting name τ t := Run.firstPoll_eq_self unwaiting
    have once := congrArg Driven.outcome? (Action.drive_unit (nesting name τ).firstPoll t more)
    rw [whole] at once
    rcases mem_embedding.mp embeds with rfl | rfl | rfl
    · exact once
    · exact once
    · exact replied
  · exact replied

/-- A template that is written in place, whatever it does, changes the frame around it by the text
that comes out of it and by nothing else, and no template at all. An open capture grows by what
comes out of the template in memory; without one the sink receives what the template sends it, and
the frame is marked as written. Nor does the template learn anything from a frame in memory: unless
it waits in a call that does not, or after it cancelled itself, text and outcome are those of a
render of its own into empty memory. -/
theorem nested_isolated (templates : String → Template) (depth : Nat) (name : String)
    (f : Frame σ) (call : Call) (more : Nat) (embeds : call ∈ embedding name) :
    let catalog := Catalog.ofTemplates templates
    let nested := (templates name).blueprint
    let d := (call.performAt depth { frame := f, templates }).drive more
    (∀ c rest, f.pass.captures = c :: rest →
      d.state.templates = templates ∧ d.state.frame = f.capturing c rest
        ((nested.renderNested catalog depth ({} : TextBuffer)).drive
          (call.patience more)).state.text) ∧
    (f.pass.captures = [] →
      d.state.templates = templates ∧ d.state.frame = f.issuing
        ((nested.renderNested catalog depth { sink := f.task.sink }).drive
          (call.patience more)).state) ∧
    ∀ put, InMemory f put →
      (∀ task ∈ (execute catalog depth nested.config nested.body none
        { sink := ({} : TextBuffer) }).pauses,
          call = .templateAsync name ∧ task.cancelled = false) →
      let alone := (nested.renderTo catalog depth none ({} : TextBuffer)).drive more
      d.state.frame = put alone.state.text ∧
        d.outcome? = alone.outcome?.map (·.map fun _ => .unit) := by
  intro catalog nested d
  have natural : (catalog.nesting depth).Natural := catalog.nesting_natural depth
  let made := (call.perform (catalog.nesting depth) f).drive more
  obtain ⟨frame, kept, ended⟩ := call.drive_performAt templates depth f more
  rw [frame, ended, kept]
  refine ⟨?_, ?_, ?_⟩
  · intro c rest captures
    have follows := call.perform_inMemory natural (.captured captures) (writes_of_embeds embeds)
      (prepare_of_embeds embeds f.pass)
    have left : made.state = f.capturing c rest _ := (follows.drive id more).2
    rw [left, output_embedded embeds]
    exact ⟨rfl, rfl⟩
  · intro direct
    have follows := call.perform_direct natural direct (writes_of_embeds embeds)
      (prepare_of_embeds embeds f.pass)
    have left : made.state = f.issuing _ := (follows.drive id more).2
    rw [left, output_embedded embeds]
    exact ⟨rfl, rfl⟩
  · intro put memory awaited alone
    have follows := call.perform_inMemory natural memory (writes_of_embeds embeds)
      (prepare_of_embeds embeds f.pass)
    obtain ⟨outcome, left⟩ := follows.drive id more
    have left : made.state = put _ := left
    have own := nested.drive_renderTo_memory catalog depth none {} more
    rw [nested.renderCancellable_eq_renderNested catalog depth _ fun task member =>
      (awaited task member).2] at own
    have quiet : (nested.renderNested catalog depth ({} : TextBuffer)).pauses = [] ∨
        call = .templateAsync name := by
      by_cases waits : call = .templateAsync name
      · exact .inr waits
      · refine .inl ((Run.pauses_recast _ _ _).trans (List.map_eq_nil_iff.mpr ?_))
        exact List.eq_nil_iff_forall_not_mem.mpr fun task member => waits (awaited task member).1
    refine ⟨?_, ?_⟩
    · rw [left, output_embedded embeds, own.1, ← drive_patience quiet more]
      rfl
    · rw [own.2]
      exact outcome.trans (output_embedded_outcome embeds f.pass ({} : TextBuffer) more quiet)

/-- A page that waits once, and its layout, which renders the page, cancels itself and then asks
for a section that is missing. -/
def waitingSite : String → Template
  | "layout" =>
    { blueprint := { body := { name := "layout", steps := [{ call := .renderBody },
        { call := .cancel }, { call := .renderSection "none" }] } } }
  | _ =>
    { blueprint := { body := { name := "page", steps := [{ call := .setLayout "layout" },
        { call := .literal "<" }, { call := .wait 1 }] } }
      output := { text := "kept" } }

/-- A section is open in a page with a layout, and an attribute too. -/
def menuFrame : Frame TextBuffer where
  pass :=
    { Pass.start {} none with
      captures := [{ kind := .section "menu", text := "x" }, { kind := .body, text := "y" }]
      layout? := some "layout"
      writer := { pending := some { head := { name := "id" } } } }
  task := { sink := { text := "z" } }

theorem nested_isolated_menuFrame :
    let call := Call.templateAsync "page"
    let put := menuFrame.capturing { kind := .section "menu", text := "x" }
      [{ kind := .body, text := "y" }]
    let d := (call.performAt 2 { frame := menuFrame, templates := waitingSite }).drive 1
    call ∈ embedding "page" ∧ InMemory menuFrame put ∧
      (∀ task ∈ (execute (.ofTemplates waitingSite) 2 (waitingSite "page").blueprint.config
        (waitingSite "page").blueprint.body none { sink := ({} : TextBuffer) }).pauses,
          call = .templateAsync "page" ∧ task.cancelled = false) ∧
      d.state.templates = waitingSite ∧ d.state.frame = put "<" ∧
      d.outcome? = some (.failed (.sectionNotDefined "none")) := by
  intro call put d
  have embeds : call ∈ embedding "page" := by decide
  have memory : InMemory menuFrame put := .captured rfl
  have awaited : ∀ task ∈ (execute (.ofTemplates waitingSite) 2
      (waitingSite "page").blueprint.config (waitingSite "page").blueprint.body none
      { sink := ({} : TextBuffer) }).pauses,
        call = .templateAsync "page" ∧ task.cancelled = false := by
    decide +kernel
  have alone : (((waitingSite "page").blueprint.renderTo (.ofTemplates waitingSite) 2 none
      ({} : TextBuffer)).drive 1).state.text = "<" := by
    decide +kernel
  have ended : (((waitingSite "page").blueprint.renderTo (.ofTemplates waitingSite) 2 none
      ({} : TextBuffer)).drive 1).outcome? = some (.failed (.sectionNotDefined "none")) := by
    decide +kernel
  obtain ⟨captured, -, isolated⟩ := nested_isolated waitingSite 2 "page" menuFrame call 1 embeds
  obtain ⟨state, outcome⟩ := isolated put memory awaited
  exact ⟨embeds, memory, awaited, (captured _ _ rfl).1, state.trans (congrArg put alone),
    outcome.trans (congrArg (Option.map (Outcome.map fun _ => Reply.unit)) ended)⟩

end Call

end Templating
