import Templating.Proofs.BodyHistory
import Templating.Proofs.Composition
import Templating.Proofs.Renders

/-!
# The text of a composition

`Action.Issues` says what an action has issued to its sink whenever it ends with a value; it holds
of a sequence if it holds of its parts. A nested composition issues its own text to any sink
(`Composition.execute_issues`), the frame of the composition around it included, so no text is
encoded on its way up. A render that succeeds returns the text of the composition
(`Composition.render_text`).
-/

namespace Templating

variable {σ α β : Type}

namespace Action

/-- Whenever the action ends with a value, the texts that it issued come to this text. -/
def Issues (act : Action (Logged σ) α) (text : String) : Prop :=
  ∀ l a l', (act l).Returns a l' → String.join l'.texts = String.join l.texts ++ text

namespace Issues

variable {act : Action (Logged σ) α} {text later : String}

theorem conclude (o : Outcome α) : Issues (conclude o : Action (Logged σ) α) "" := by
  rintro l a l' ⟨-, rfl⟩
  exact String.append_empty.symm

theorem pure (a : α) : Issues (Pure.pure a : Action (Logged σ) α) "" :=
  conclude (.ok a)

theorem log (entry : LogEntry) : Issues (Action.log entry : Action (Logged σ) Unit) "" := by
  rintro l a l' ⟨-, rfl⟩
  exact String.append_empty.symm

theorem bind {next : α → Action (Logged σ) β} (h : Issues act text)
    (hn : ∀ a, Issues (next a) later) : Issues (act >>= next) (text ++ later) := by
  intro l b l' returned
  obtain ⟨a, m, first, second⟩ := (Run.returns_bind _ _ b l').mp returned
  rw [hn a m b l' second, h l a m first, String.append_assoc]

theorem unit {act : Action (Logged σ) Unit} (h : Issues act text) : Issues act.unit text := by
  have whole := h.bind fun _ => pure Reply.unit
  rw [String.append_empty] at whole
  exact whole

theorem firstPoll (h : Issues act text) : Issues act.firstPoll text :=
  fun l a l' returned => h l a l' returned.of_firstPoll

variable [Destination σ]

theorem write (text : String) : Issues (Action.write text : Action (Logged σ) Unit) text := by
  rintro l a l' ⟨-, rfl⟩
  rw [(Logged.write_visits text l).await]
  simp

theorem writeAsync (text : String) :
    Issues (Action.writeAsync text : Action (Logged σ) Unit) text := by
  rintro l a l' ⟨-, rfl⟩
  rw [(Logged.writeAsync_visits text l).await]
  simp

theorem writeAll (texts : List String) :
    Issues (Action.writeAll texts : Action (Logged σ) Unit) (String.join texts) := by
  induction texts with
  | nil => exact pure ()
  | cons text rest ih =>
    rw [String.join_cons]
    exact (write text).bind fun _ => ih

theorem portions (t : MarkedText) (encoding : Encoding) :
    Issues (Action.writeAll (t.portions encoding) : Action (Logged σ) Unit)
      (t.shown encoding) := by
  rw [← MarkedText.join_portions]
  exact writeAll _

variable {nesting : Nesting} {texts : String → String}

theorem value (nested : ∀ name, Issues (nesting name (Logged σ)) (texts name))
    (encoding : Encoding) (value : Value) :
    Issues (value.output nesting encoding : Action (Logged σ) Unit)
      (value.shown texts encoding) := by
  cases value with
  | plain text? =>
    have shown : (Value.plain text?).shown texts encoding =
        (MarkedText.dynamic text?).shown encoding := by
      cases text? with
      | none => exact encoding.encode_empty.symm
      | some text => rfl
    rw [shown]
    exact portions _ _
  | safe text => exact portions (.raw text) encoding
  | encoded content =>
    cases content with
    | html text =>
      have whole : Issues (Action.writeAll text.portions : Action (Logged σ) Unit) _ :=
        writeAll text.portions
      rw [SafeText.portions, String.join_cons, String.join_nil, String.append_empty] at whole
      exact whole
    | marked text => exact portions text .html
    | template name => exact (nested name).firstPoll
  | template name => exact (nested name).firstPoll

/-- Closing a span issues it whole, or nothing. -/
theorem closing (encoding : Encoding) (w : AttributeWriter) (a : Attribute)
    (pending : w.pending = some a) :
    Issues (w.close.1.write encoding : Action (Logged σ) Bool)
      (if a.isWritten then String.join (a.portions encoding) else "") := by
  have counted : Issues (Closing.reportCount a : Action (Logged σ) Unit) "" := by
    unfold Closing.reportCount
    split
    · exact log _
    · exact pure ()
  have left : Issues ((Closing.leftOut a).write encoding : Action (Logged σ) Bool)
      ("" ++ ("" ++ "")) :=
    counted.bind fun _ => (log _).bind fun _ => pure false
  have wrote : Issues ((Closing.written a).write encoding : Action (Logged σ) Bool)
      ("" ++ ("" ++ (String.join (a.portions encoding) ++ ""))) :=
    counted.bind fun _ => (log _).bind fun _ => (writeAll _).bind fun _ => pure true
  simp only [String.empty_append, String.append_empty] at left wrote
  unfold AttributeWriter.close
  simp only [pending]
  by_cases strict : (w.strict && a.miscounted) = true
  · rw [if_pos strict]
    exact fun _ _ _ returned => nomatch returned.1
  · rw [if_neg strict]
    by_cases written : a.isWritten = true
    · rw [if_pos written, if_pos written]
      exact wrote
    · rw [if_neg written, if_neg written]
      exact left

end Issues

end Action

/-- Memory beside memory with a log: what was there before, and then the texts of the log. -/
def TextBuffer.logged (seed : String) : Coupling TextBuffer (Logged TextBuffer) :=
  Logged.beside fun texts b => b.text = seed ++ String.join texts

theorem TextBuffer.logged_respects (seed : String) : (TextBuffer.logged seed).Respects := by
  have push : ∀ (texts : List String) (b : TextBuffer) (text : String),
      b.text = seed ++ String.join texts →
        (b.push text).text = seed ++ String.join (texts ++ [text]) := by
    intro texts b text same
    simp [TextBuffer.push, same, String.append_assoc]
  exact Logged.beside_respects ⟨push, push, fun _ _ same => same⟩

/-- Rendered to memory, what an action issues is its text; the state is left alone. -/
theorem Action.inMemory_returns {act : Action TextBuffer Unit}
    {ref : Action (Logged TextBuffer) Unit} {text : String}
    (follows : Action.Follows (TextBuffer.logged "") act ref) (issues : ref.Issues text)
    {s s' : σ} {t : String} (returned : (Action.inMemory act s).Returns t s') :
    s' = s ∧ t = text := by
  obtain ⟨state, outcome⟩ := Run.await_recast (act {}) (fun _ => s)
    fun o b => o.map fun _ => b.text
  have value := outcome.symm.trans returned.1
  refine ⟨returned.2.symm.trans state, ?_⟩
  obtain ⟨o, ended, shown⟩ := Option.map_eq_some_iff.mp value
  cases o with
  | ok a =>
    have start : (TextBuffer.logged "").now {} { sink := {} } := ⟨rfl, rfl⟩
    obtain ⟨l, logged, -, same⟩ := (follows.run start).returns ⟨ended, rfl⟩
    cases shown
    rw [same, issues _ _ _ logged]
    simp
  | failed e => cases shown
  | misused m => cases shown
  | tooDeep => cases shown

theorem Value.resolve_returns {nesting : Nesting} (natural : nesting.Natural)
    {texts : String → String}
    (nested : ∀ name, Action.Issues (nesting name (Logged TextBuffer)) (texts name))
    (value : Value) {s s' : σ} {m : MarkedText}
    (returned : (value.resolve nesting s).Returns m s') : s' = s ∧ m = value.marked texts := by
  have respects := TextBuffer.logged_respects ""
  have rendered : ∀ v : Value,
      Run.Returns ((do
        let t ← Action.inMemory (v.output nesting .raw)
        pure (MarkedText.raw t) : Action σ MarkedText) s) m s' →
          s' = s ∧ m = .raw (v.shown texts .raw) := by
    intro v returned
    have follows : Action.Follows (TextBuffer.logged "") (v.output nesting .raw)
        (v.output nesting .raw) := .value respects (natural id respects) .raw v
    have issues : Action.Issues (v.output nesting .raw) (v.shown texts .raw) :=
      .value nested .raw v
    obtain ⟨t, u, inner, ends⟩ := (Run.returns_bind _ _ m s').mp returned
    obtain ⟨rfl, rfl⟩ := Action.inMemory_returns follows issues inner
    obtain ⟨value, rfl⟩ := (Run.returns_done _ _ _ _).mp ends
    cases value
    exact ⟨rfl, rfl⟩
  cases value with
  | plain text? =>
    obtain ⟨value, rfl⟩ := (Run.returns_done _ _ _ _).mp returned
    cases value
    exact ⟨rfl, rfl⟩
  | safe text =>
    obtain ⟨value, rfl⟩ := (Run.returns_done _ _ _ _).mp returned
    cases value
    exact ⟨rfl, rfl⟩
  | encoded content => exact rendered (.encoded content) returned
  | template name => exact rendered (.template name) returned

theorem Pass.takeAll_keeps (p : Pass) (texts : List String) :
    (p.takeAll texts).config = p.config ∧ (p.takeAll texts).layout? = p.layout? ∧
      (p.takeAll texts).writer = p.writer ∧
      (p.takeAll texts).captures.map Capture.kind = p.captures.map Capture.kind := by
  cases captured : p.captures with
  | nil =>
    rw [p.takeAll_direct texts captured]
    simp [captured]
  | cons c rest =>
    rw [p.takeAll_captured texts captured]
    simp

namespace Frame

theorem returns_change {change : Pass → Outcome Pass} {f f' : Frame σ}
    (returned : (Frame.change change f).Returns () f') :
    ∃ pass, change f.pass = .ok pass ∧ f' = { f with pass } := by
  unfold Frame.change at returned
  split at returned
  · next pass changed => exact ⟨pass, changed, returned.2.symm⟩
  · cases returned.1
  · cases returned.1
  · cases returned.1

theorem returns_changeWriter {change : AttributeWriter → Except Misuse AttributeWriter}
    {f f' : Frame σ} (returned : (Frame.changeWriter change f).Returns () f') :
    ∃ writer, change f.pass.writer = .ok writer ∧ f' = { f with pass := { f.pass with writer } } := by
  obtain ⟨pass, changed, rfl⟩ := returns_change returned
  split at changed
  · next writer ok => cases changed; exact ⟨writer, ok, rfl⟩
  · cases changed

/-- A frame of a pass that chooses no layout: its captures, its open span, and the text of its
sink. -/
structure Composing (config : Config) (kinds : List CaptureKind) (pending : Option Attribute)
    (text : String) (f : Frame (Logged σ)) : Prop where
  config : f.pass.config = config
  layout : f.pass.layout? = none
  kinds : f.pass.captures.map Capture.kind = kinds
  pending : f.pass.writer.pending = pending
  text : String.join f.task.sink.texts = text

/-- What of a text comes to the sink. -/
def landed (kinds : List CaptureKind) (text : String) : String :=
  if kinds = [] then text else ""

@[simp] theorem landed_empty (kinds : List CaptureKind) : landed kinds "" = "" := by
  simp [landed]

theorem landed_append (kinds : List CaptureKind) (text later : String) :
    landed kinds (text ++ later) = landed kinds text ++ landed kinds later := by
  unfold landed
  split
  · rfl
  · rfl

namespace Composing

variable {config : Config} {kinds : List CaptureKind} {pending : Option Attribute} {text : String}
  {f f' g : Frame (Logged σ)}

theorem post (composing : g.Composing config kinds pending text) {texts : List String}
    (posted : g.Posted texts f) :
    f.Composing config kinds pending (text ++ landed kinds (String.join texts)) := by
  obtain ⟨hconfig, hlayout, hkinds, hpending, htext⟩ := composing
  obtain ⟨keptConfig, keptLayout, keptWriter, keptKinds⟩ := g.pass.takeAll_keeps texts
  obtain ⟨hpass, -, logged⟩ := posted
  refine ⟨?_, ?_, ?_, ?_, ?_⟩
  · rw [hpass, keptConfig, hconfig]
  · rw [hpass, keptLayout, hlayout]
  · rw [hpass, keptKinds, hkinds]
  · rw [hpass, keptWriter, hpending]
  · have direct : g.pass.captures = [] ↔ kinds = [] := by
      rw [← hkinds, List.map_eq_nil_iff]
    rw [logged, String.join_append, htext, landed]
    by_cases none : kinds = []
    · rw [if_pos none, if_pos (direct.mpr none)]
    · rw [if_neg none, if_neg (mt direct.mp none), String.join_nil]

variable [Destination σ] {nesting : Nesting}

/-- A call that writes and succeeds brings the text that it issues to where texts go. -/
theorem write (natural : nesting.Natural) (composing : f.Composing config kinds pending text)
    (call : Call) (writing : call.writes = true) {shown : String}
    (issues : Action.Issues (call.output nesting f.pass :
      Action (Logged (Frame (Logged σ))) Reply) shown)
    {reply : Reply} (returned : (call.perform nesting f).Returns reply f') :
    f'.Composing config kinds (call.prepare f.pass).writer.pending
      (text ++ landed kinds shown) := by
  obtain ⟨l, logged, posted⟩ := call.returns_posted natural writing returned
  have prepared : Frame.Composing config kinds (call.prepare f.pass).writer.pending text
      { f with pass := call.prepare f.pass } := by
    obtain ⟨hconfig, hlayout, hkinds, hpending, htext⟩ := composing
    cases call <;> exact ⟨hconfig, hlayout, hkinds, rfl, htext⟩
  have texts := issues _ _ _ logged
  rw [String.join_nil, String.empty_append] at texts
  rw [← texts]
  exact prepared.post posted

theorem beginAttribute (composing : f.Composing config kinds none text) (head : AttributeHead)
    {reply : Reply}
    (returned : ((Call.beginAttribute head).perform nesting f).Returns reply f') :
    f'.Composing config kinds (some { head }) text := by
  obtain ⟨writer, started, rfl⟩ := returns_changeWriter (Action.returns_unit returned)
  obtain ⟨hconfig, hlayout, hkinds, hpending, htext⟩ := composing
  simp only [AttributeWriter.start, hpending] at started
  split at started
  · cases started
    exact ⟨hconfig, hlayout, hkinds, rfl, htext⟩
  · cases started

theorem attributeValue (natural : nesting.Natural) {texts : String → String}
    (nested : ∀ name, Action.Issues (nesting name (Logged TextBuffer)) (texts name))
    {a : Attribute} (composing : f.Composing config kinds (some a) text) (p : Composition.Part)
    {reply : Reply}
    (returned : ((Call.attributeValue p.head p.value).perform nesting f).Returns reply f') :
    f'.Composing config kinds (some { a with fragments := a.fragments ++ [p.fragment texts] })
      text := by
  obtain ⟨m, g, resolved, added⟩ :=
    (Run.returns_bind _ _ _ _).mp (Action.returns_unit returned)
  obtain ⟨rfl, rfl⟩ := p.value.resolve_returns natural nested resolved
  obtain ⟨writer, ok, rfl⟩ := returns_changeWriter added
  obtain ⟨hconfig, hlayout, hkinds, hpending, htext⟩ := composing
  unfold AttributeWriter.add at ok
  rw [hpending] at ok
  cases ok
  exact ⟨hconfig, hlayout, hkinds, rfl, htext⟩

theorem beginSection (composing : f.Composing config [] none text) (name : String) {reply : Reply}
    (returned : ((Call.beginSection name).perform nesting f).Returns reply f') :
    f'.Composing config [.section name] none text := by
  obtain ⟨pass, begun, rfl⟩ := returns_change (Action.returns_unit returned)
  obtain ⟨hconfig, hlayout, hkinds, hpending, htext⟩ := composing
  unfold Pass.beginSection at begun
  split at begun
  · cases begun
  · split at begun
    · cases begun
    · cases begun
      exact ⟨hconfig, hlayout, congrArg (CaptureKind.section name :: ·) hkinds, hpending, htext⟩

theorem endSection {name : String} (composing : f.Composing config [.section name] none text)
    {reply : Reply} (returned : (Call.endSection.perform nesting f).Returns reply f') :
    f'.Composing config [] none text := by
  have ended := Action.returns_unit returned
  obtain ⟨hconfig, hlayout, hkinds, hpending, htext⟩ := composing
  unfold Frame.endSection at ended
  obtain ⟨c, captured, kind⟩ := List.map_eq_singleton_iff.mp hkinds
  simp only [Pass.endSection, captured, kind] at ended
  obtain ⟨-, rfl⟩ := ended
  exact ⟨hconfig, hlayout, rfl, hpending, htext⟩

end Composing

/-- Made one after the other, all calls succeed and lead from one frame to the other. -/
inductive Makes [Destination σ] (nesting : Nesting) : List Call → Frame σ → Frame σ → Prop
  | nil (f : Frame σ) : Makes nesting [] f f
  | cons {call : Call} {rest : List Call} {f g f' : Frame σ} {reply : Reply}
      (returned : (call.perform nesting f).Returns reply g) (later : Makes nesting rest g f') :
      Makes nesting (call :: rest) f f'

theorem Makes.append [Destination σ] {nesting : Nesting} {calls later : List Call}
    {f g f' : Frame σ} (first : Makes nesting calls f g) (second : Makes nesting later g f') :
    Makes nesting (calls ++ later) f f' := by
  induction first with
  | nil f => exact second
  | cons returned rest ih => exact .cons returned (ih second)

theorem Makes.split [Destination σ] {nesting : Nesting} {calls later : List Call} {f f' : Frame σ}
    (makes : Makes nesting (calls ++ later) f f') :
    ∃ g, Makes nesting calls f g ∧ Makes nesting later g f' := by
  induction calls generalizing f with
  | nil => exact ⟨f, .nil f, makes⟩
  | cons call rest ih =>
    cases makes with
    | cons returned following =>
      obtain ⟨g, first, second⟩ := ih following
      exact ⟨g, .cons returned first, second⟩

/-- A step that needs no section and tolerates no failure succeeds if its call does. -/
theorem returns_of_step [Destination σ] {nesting : Nesting} {template : String} {position : Nat}
    {call : Call} {f f' : Frame σ}
    (returned : (Step.run nesting template position { call } f).Returns () f') :
    ∃ reply, (call.perform nesting f).Returns reply f' := by
  rw [Step.run_needed nesting template position { call } f rfl] at returned
  obtain ⟨o, g, attempted, ends⟩ := (Run.returns_bind _ _ () f').mp returned
  obtain ⟨state, outcome⟩ := Run.await_recast (call.perform nesting f) id
    fun o _ => (.ok o : Outcome (Outcome Reply))
  have ended : (call.perform nesting f).await.outcome? = some o := by
    simpa using outcome.symm.trans attempted.1
  have left : (call.perform nesting f).await.state = g := state.symm.trans attempted.2
  cases o with
  | ok reply =>
    obtain ⟨-, rfl⟩ := ends
    exact ⟨reply, ended, left⟩
  | failed e => cases ends.1
  | misused m => cases ends.1
  | tooDeep => cases ends.1

/-- A body that is played to its end made the calls of its steps. -/
theorem makes_of_runAll [Destination σ] {nesting : Nesting} (template : String) (position : Nat)
    (calls : List Call) {f f' : Frame σ}
    (returned : (Step.runAll nesting template position (calls.map ({ call := · })) f).Returns () f') :
    Makes nesting calls f f' := by
  induction calls generalizing position f with
  | nil =>
    obtain ⟨-, rfl⟩ := (Run.returns_done _ _ _ _).mp returned
    exact .nil f
  | cons call rest ih =>
    obtain ⟨_, g, first, second⟩ := (Run.returns_bind _ _ () f').mp returned
    obtain ⟨reply, made⟩ := returns_of_step first
    exact .cons made (ih (position + 1) second)

end Frame

/-- To every destination a template issues the text that is given for its name. -/
def Nesting.Shows (nesting : Nesting) (texts : String → String) : Prop :=
  ∀ {τ : Type} [Destination τ] (name : String), Action.Issues (nesting name (Logged τ)) (texts name)

namespace Frame.Composing

open Templating.Composition

variable [Destination σ] {nesting : Nesting} {texts : String → String} {config : Config}
  {kinds : List CaptureKind} {text : String} {f f' : Frame (Logged σ)}

theorem parts (natural : nesting.Natural) (shows : nesting.Shows texts) (parts : List Part)
    {a : Attribute} (composing : f.Composing config kinds (some a) text)
    (makes : Makes nesting (parts.map fun p => .attributeValue p.head p.value) f f') :
    f'.Composing config kinds
      (some { a with fragments := a.fragments ++ parts.map (·.fragment texts) }) text := by
  induction parts generalizing a f with
  | nil =>
    cases makes
    simpa using composing
  | cons p rest ih =>
    cases makes with
    | cons returned later =>
      have added := composing.attributeValue natural shows p returned
      simpa using ih added later

/-- A single call that writes and has nothing to prepare. -/
theorem made (natural : nesting.Natural) (composing : f.Composing config kinds none text)
    (call : Call) (writing : call.writes = true) (unprepared : call.prepare f.pass = f.pass)
    {shown : String}
    (issues : Action.Issues (call.output nesting f.pass :
      Action (Logged (Frame (Logged σ))) Reply) shown)
    (makes : Makes nesting [call] f f') :
    f'.Composing config kinds none (text ++ landed kinds shown) := by
  cases makes with
  | cons returned later =>
    cases later
    have written := composing.write natural call writing issues returned
    rw [unprepared, composing.pending] at written
    exact written

/-- A piece adds its text to the sink, unless a section is open. -/
theorem piece (natural : nesting.Natural) (shows : nesting.Shows texts) (p : Piece)
    (composing : f.Composing config kinds none text) (makes : Makes nesting p.calls f f') :
    f'.Composing config kinds none (text ++ landed kinds (p.shown texts config.encoding)) := by
  cases p with
  | literal t =>
    refine composing.made natural (.literal t) rfl rfl (Action.Issues.unit ?_) makes
    split
    · next empty =>
      rw [Piece.shown, String.isEmpty_iff.mp empty]
      exact .pure ()
    · exact .write t
  | literalAsync t =>
    refine composing.made natural (.literalAsync t) rfl rfl (Action.Issues.unit ?_) makes
    split
    · next empty =>
      rw [Piece.shown, String.isEmpty_iff.mp empty]
      exact .pure ()
    · exact .writeAsync t
  | value v =>
    refine composing.made natural (.write v) rfl rfl (Action.Issues.unit ?_) makes
    rw [composing.config]
    exact .value (fun name => shows name) config.encoding v
  | templateAsync name =>
    exact composing.made natural (.templateAsync name) rfl rfl (Action.Issues.unit (shows name))
      makes
  | span head parts =>
    cases makes with
    | cons begun later =>
      obtain ⟨g, added, closed⟩ := later.split
      have filled := (composing.beginAttribute head begun).parts natural shows parts added
      cases closed with
      | cons ended later =>
        cases later
        have closing := (Action.Issues.closing (σ := Frame (Logged σ)) g.pass.config.encoding
          g.pass.writer _ filled.pending).bind fun _ => .pure ()
        rw [String.append_empty, filled.config, List.nil_append, Part.span_shown] at closing
        have issues : Action.Issues (Call.endAttribute.output nesting g.pass :
            Action (Logged (Frame (Logged σ))) Reply)
            ((Piece.span head parts).shown texts config.encoding) := by
          rw [← filled.config] at closing ⊢
          exact closing.unit
        have written := filled.write natural .endAttribute rfl issues ended
        rw [Call.prepare, AttributeWriter.close_snd] at written
        exact written

theorem pieces (natural : nesting.Natural) (shows : nesting.Shows texts) (pieces : List Piece)
    (composing : f.Composing config kinds none text)
    (makes : Makes nesting (pieces.flatMap Piece.calls) f f') :
    f'.Composing config kinds none
      (text ++ landed kinds (String.join (pieces.map (·.shown texts config.encoding)))) := by
  induction pieces generalizing text f with
  | nil =>
    cases makes
    simpa using composing
  | cons p rest ih =>
    obtain ⟨g, first, later⟩ := Makes.split makes
    have whole := ih (composing.piece natural shows p first) later
    rw [List.map_cons, String.join_cons, landed_append, ← String.append_assoc]
    exact whole

theorem item (natural : nesting.Natural) (shows : nesting.Shows texts) (i : Item)
    (composing : f.Composing config [] none text) (makes : Makes nesting i.calls f f') :
    f'.Composing config [] none (text ++ i.shown texts config.encoding) := by
  cases i with
  | piece p => exact composing.piece natural shows p makes
  | closedSection name pieces =>
    cases makes with
    | cons begun later =>
      obtain ⟨g, written, closed⟩ := later.split
      have inside := (composing.beginSection name begun).pieces natural shows pieces written
      cases closed with
      | cons ended later =>
        cases later
        exact inside.endSection ended

/-- A body of items adds their texts to the sink. -/
theorem items (natural : nesting.Natural) (shows : nesting.Shows texts) (items : List Item)
    (composing : f.Composing config [] none text)
    (makes : Makes nesting (items.flatMap Item.calls) f f') :
    f'.Composing config [] none
      (text ++ String.join (items.map (·.shown texts config.encoding))) := by
  induction items generalizing text f with
  | nil =>
    cases makes
    simpa using composing
  | cons i rest ih =>
    obtain ⟨g, first, later⟩ := Makes.split makes
    have whole := ih (composing.item natural shows i first) later
    rw [List.map_cons, String.join_cons, ← String.append_assoc]
    exact whole

end Frame.Composing

namespace Composition

/-- The catalog in which the compositions refer to each other. -/
def catalog (compositions : String → Composition) : Catalog := fun name =>
  (compositions name).blueprint

/-- To any sink, under any task, a composition issues its text when it succeeds. -/
theorem execute_issues (compositions : String → Composition) (depth : Nat) (c : Composition)
    [Destination σ] {task task' : Task (Logged σ)}
    (returned : (execute (catalog compositions) depth c.config c.blueprint.body none task).Returns ()
      task') :
    String.join task'.sink.texts = String.join task.sink.texts ++ c.text compositions depth := by
  induction depth generalizing σ c with
  | zero => cases returned.1
  | succ depth ih =>
    have natural : ((catalog compositions).nesting depth).Natural :=
      (catalog compositions).nesting_natural depth
    have shows : ((catalog compositions).nesting depth).Shows fun name =>
        (compositions name).text compositions depth := by
      intro τ _ name l _ l' isolated
      have inner : ((execute (catalog compositions) depth (compositions name).config
          (compositions name).blueprint.body none { sink := l } : Run (Task (Logged τ)) Unit).recast
            Task.sink fun o _ => o).Returns () l' := isolated
      obtain ⟨t, nested, rfl⟩ := (Run.returns_recast _ _ _ _).mp inner
      exact ih (compositions name) nested
    rw [execute_succ] at returned
    obtain ⟨next?, t, entered, proceeded⟩ := (Run.returns_bind _ _ () task').mp returned
    obtain ⟨f', passed, rfl⟩ := (Run.returns_recast _ _ _ _).mp entered
    obtain ⟨_, g, played, finished⟩ := (Run.returns_bind _ _ next? f').mp passed
    have start : Frame.Composing c.config [] none (String.join task.sink.texts)
        { pass := .start c.config none, task } := ⟨rfl, rfl, rfl, rfl, rfl⟩
    have composed := start.items natural shows c.items
      (Frame.makes_of_runAll c.name 0 (c.items.flatMap Item.calls) played)
    obtain ⟨more, value, state⟩ := Run.Returns.drive finished
    obtain ⟨stays, next⟩ := g.drive_finish more
    obtain ⟨-, rfl⟩ := next next? value
    obtain rfl : g = f' := stays.symm.trans state
    have last : g.pass.next? = none := by
      rw [Pass.next?, composed.layout]
      rfl
    rw [last] at proceeded
    obtain ⟨-, rfl⟩ := (Run.returns_done _ _ _ _).mp proceeded
    exact composed.text

/-- A render into memory that succeeds has appended the text of the composition. -/
theorem renderCancellable_text (compositions : String → Composition) (depth : Nat)
    (c : Composition) (allowed : Option Nat) {buffer buffer' : TextBuffer}
    (returned : (c.blueprint.renderCancellable (catalog compositions) depth allowed buffer).Returns ()
      buffer') :
    buffer' = buffer.push (c.text compositions depth) := by
  have follows := Blueprint.renderCancellable_follows (c := TextBuffer.logged buffer.text) id
    (TextBuffer.logged_respects buffer.text) (catalog compositions) depth c.blueprint allowed
  have start : (TextBuffer.logged buffer.text).now buffer { sink := buffer } := by
    refine ⟨rfl, ?_⟩
    simp
  obtain ⟨l, logged, same, appended⟩ := (follows.run start).returns returned
  obtain ⟨task, cancellable, rfl⟩ := (Run.returns_recast _ _ _ _).mp logged
  have executed : (execute (catalog compositions) depth c.config c.blueprint.body none
      { sink := { sink := buffer } } : Run (Task (Logged TextBuffer)) Unit).Returns () task := by
    unfold Action.untilCancelled at cancellable
    split at cancellable
    · cases cancellable.1
    · exact cancellable.of_untilCancelled
  have issued := execute_issues compositions depth c executed
  rw [String.join_nil, String.empty_append] at issued
  rw [issued] at appended
  obtain ⟨text⟩ := buffer'
  exact congrArg TextBuffer.mk appended

/-- A render that succeeds returns the text of the composition: literal markup and safe text as
they are, every value of unknown safety encoded once, by the composition that writes it, nested
compositions by their own texts, and nothing of what is inside a section. -/
theorem render_text (compositions : String → Composition) (depth : Nat) (c : Composition)
    (allowed : Option Nat) (buffer : TextBuffer) (text : String)
    (returned : ((Template.render (catalog compositions) depth allowed).await
      { blueprint := c.blueprint, output := buffer }).outcome? = some (.ok text)) :
    text = c.text compositions depth := by
  have rendered : (c.blueprint.renderToBuffer (catalog compositions) depth allowed
      buffer).await.outcome? = some (.ok text) := by
    obtain ⟨-, outcome⟩ := Run.await_recast
      (c.blueprint.renderToBuffer (catalog compositions) depth allowed buffer)
      (fun output => ({ blueprint := c.blueprint, output } : Template)) fun o _ => o
    simpa using outcome.symm.trans returned
  obtain ⟨_, buffer', executed, ends⟩ := (Run.returns_bind
    (c.blueprint.renderCancellable (catalog compositions) depth allowed buffer) _ text _).mp
      ⟨rendered, rfl⟩
  obtain rfl := renderCancellable_text compositions depth c allowed executed
  rw [Action.read_bind, TextBuffer.since?_push] at ends
  have value : some (Outcome.ok (c.text compositions depth)) = some (.ok text) := ends.1
  cases value
  rfl

/-- A raw composition, with one in HTML inside. -/
def quotation : String → Composition
  | "outer" =>
    { items := [.piece (.value (.plain (some "<"))), .piece (.value (.template "inner"))]
      config := { encoding := .raw } }
  | _ => { items := [.piece (.value (.plain (some "&")))] }

/-- A page in HTML, with a span whose only fragment is absent, and a section. -/
def quotingPage : Composition where
  items := [.piece (.literal "<p>"), .piece (.value (.plain (some "<"))),
    .piece (.span { name := "id", opening := " id=" } [{ head := {}, value := .plain none }]),
    .closedSection "side" [.literal "aside"], .piece (.templateAsync "outer")]

theorem render_text_quotingPage :
    ((Template.render (catalog quotation) 3 none).await
      { blueprint := quotingPage.blueprint }).outcome? = some (.ok "<p>&lt;<&amp;") ∧
      quotingPage.text quotation 3 = "<p>&lt;<&amp;" := by
  have returned : ((Template.render (catalog quotation) 3 none).await
      { blueprint := quotingPage.blueprint }).outcome? = some (.ok "<p>&lt;<&amp;") := by
    decide +kernel
  exact ⟨returned, (render_text quotation 3 quotingPage none {} "<p>&lt;<&amp;" returned).symm⟩

end Composition

end Templating
