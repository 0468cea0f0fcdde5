import Templating.Destination.Recorder
import Templating.Proofs.BodyHistory
import Templating.Proofs.SinkCalls

/-!
# Flushes that are heard

A body may flush at any point. Its flush is handed from context to context, and comes to the sink
of the render unless one of them has an open capture; what a template in a fragment of an attribute
flushes is memory. `Catalog.flushes` lists the flush calls that an execution makes, each with the
captures around it, and `FlushCall.isHeard` says by these alone whether it counts. A render flushes
its sink once for each of them that is heard, and once more in the end (`renderTo_flushes`).
-/

namespace Templating

variable {σ τ α β : Type}

/-- A call to flush that a body made. -/
structure FlushCall where
  /-- Whether there was an open capture, in the context of the call and in each around it; the
  innermost comes first. -/
  capturing : List Bool
  /-- The call was made while a template was rendered into a fragment of an attribute. -/
  inFragment : Bool := false
  deriving DecidableEq, Repr, Inhabited

namespace FlushCall

def isHeard (c : FlushCall) : Bool :=
  !c.inFragment && c.capturing.all (!·)

/-- The call as it was made inside of this frame. -/
def within (f : Frame σ) (c : FlushCall) : FlushCall :=
  { c with capturing := c.capturing ++ [!f.pass.captures.isEmpty] }

end FlushCall

/-- The flush calls that a template of a given name makes when it renders into some destination and
is polled that many times again at most. -/
def FlushAccount : Type 1 :=
  String → Nat → (τ : Type) → [Destination τ] → τ → List FlushCall

/-- The template that a value renders. -/
def Value.template? : Value → Option String
  | template name | encoded (.template name) => some name
  | _ => none

/-- The flush calls that a call of a body makes. Only a template in place may wait. -/
def Call.flushes [Destination σ] (nested : FlushAccount) (more : Nat) (f : Frame σ) :
    Call → List FlushCall
  | flush => [FlushCall.within f { capturing := [] }]
  | templateAsync name => (nested name more (Frame σ) f).map (FlushCall.within f)
  | write value =>
    match value.template? with
    | some name => (nested name 0 (Frame σ) f).map (FlushCall.within f)
    | none => []
  | attributeValue _ value =>
    match value.template? with
    | some name =>
      (nested name 0 TextBuffer {}).map fun c => { FlushCall.within f c with inFragment := true }
    | none => []
  | _ => []

/-- The flush calls that the steps of a body make from this frame on. -/
def Step.flushes [Destination σ] (nesting : Nesting) (nested : FlushAccount) :
    List Step → Nat → Frame σ → List FlushCall
  | [], _, _ => []
  | step :: rest, more, f =>
    if step.isSkipped f.pass then flushes nesting nested rest more f
    else
      let made := (step.call.perform nesting f).drive more
      step.call.flushes nested more f ++
        if step.goesOn made.outcome? then
          flushes nesting nested rest (more + 1 - made.polls) made.state
        else []

/-- The flush calls that an execution makes when it is polled that many times again at most. -/
def Catalog.flushes (catalog : Catalog) :
    (depth : Nat) → {σ : Type} → [Destination σ] → Config → Body → Option LayoutInput → Nat →
      Task σ → List FlushCall
  | 0, _, _, _, _, _, _, _ => []
  | depth + 1, _, _, config, body, input?, more, task =>
    let nested : FlushAccount := fun name more _ _ sink =>
      Catalog.flushes catalog depth (catalog name).config (catalog name).body none more { sink }
    let start := { pass := .start config input?, task }
    let pass := (catalog.pass depth body start).drive more
    Step.flushes (catalog.nesting depth) nested body.steps more start ++
      match pass.outcome? with
      | some (.ok (some next)) =>
        Catalog.flushes catalog depth config (catalog next.layout).body (some next.input)
          (more + 1 - pass.polls) pass.state.task
      | _ => []

/-- The flush calls that are made in so many polls of a render. -/
def Blueprint.flushes [Destination σ] (catalog : Catalog) (depth : Nat) (b : Blueprint)
    (polls : Nat) (sink : σ) : List FlushCall :=
  match polls with
  | 0 => []
  | more + 1 => catalog.flushes depth b.config b.body none more { sink }

/-- A destination that counts flushes. -/
structure FlushMeter (σ : Type) where
  count : σ → Nat
  /-- Whether there is an open capture, in the destination and in each around it. -/
  capturing : σ → List Bool

namespace FlushMeter

def frame (m : FlushMeter σ) : FlushMeter (Frame σ) where
  count f := m.count f.task.sink
  capturing f := (!f.pass.captures.isEmpty) :: m.capturing f.task.sink

/-- Between the two states so many of the calls were counted as are heard in their context. -/
structure Reads (m : FlushMeter σ) (calls : List FlushCall) (s s' : σ) : Prop where
  count : m.count s' =
    m.count s + calls.countP fun c => c.isHeard && (m.capturing s).all (!·)
  capturing : m.capturing s' = m.capturing s

namespace Reads

variable {m : FlushMeter σ} {calls later : List FlushCall} {s s' s'' : σ}

theorem refl (m : FlushMeter σ) (s : σ) : m.Reads [] s s :=
  ⟨rfl, rfl⟩

theorem trans (first : m.Reads calls s s') (next : m.Reads later s' s'') :
    m.Reads (calls ++ later) s s'' := by
  refine ⟨?_, next.capturing.trans first.capturing⟩
  rw [next.count, first.count, first.capturing, List.countP_append, Nat.add_assoc]

/-- Calls that are not heard in any context are not counted. -/
theorem of_unheard (same : m.Reads [] s s') (unheard : ∀ c ∈ calls, c.isHeard = false) :
    m.Reads calls s s' := by
  refine ⟨?_, same.capturing⟩
  have none : calls.countP (fun c => c.isHeard && (m.capturing s).all (!·)) = 0 := by
    rw [List.countP_eq_zero]
    intro c member
    simp [unheard c member]
  rw [same.count, none, List.countP_nil]

/-- What was counted through a frame was counted by its sink. -/
theorem of_frame {f f' : Frame σ} (reads : m.frame.Reads calls f f') :
    m.Reads (calls.map (FlushCall.within f)) f.task.sink f'.task.sink := by
  refine ⟨?_, (List.cons.inj reads.capturing).2⟩
  have counted : m.count f'.task.sink = m.count f.task.sink + _ := reads.count
  rw [counted, List.countP_map]
  refine congrArg (m.count f.task.sink + ·) (congrArg (List.countP · calls) ?_)
  funext c
  simp [FlushMeter.frame, FlushCall.isHeard, FlushCall.within, Bool.and_assoc,
    Bool.and_comm]

end Reads

/-- What its sink counted a frame counted that captures nothing. -/
theorem Reads.through {m : FlushMeter σ} {calls : List FlushCall} {f f' : Frame σ}
    (reads : m.Reads calls f.task.sink f'.task.sink) (direct : f.pass.captures = [])
    (still : f'.pass.captures = []) : m.frame.Reads calls f f' where
  count := by
    simp only [frame, direct]
    exact reads.count
  capturing := by
    simp only [frame, direct, still, reads.capturing]

/-- Writing is not counted, and a flush is if nothing captures. -/
structure Counts [Destination σ] (m : FlushMeter σ) : Prop where
  write : ∀ text s, (Action.write text s).Visits (m.Reads [] s)
  writeAsync : ∀ text s, (Action.writeAsync text s).Visits (m.Reads [] s)
  flush : ∀ s, (Action.flush s : Run σ Unit).Visits (m.Reads [{ capturing := [] }] s)

/-- A frame counts for its sink. -/
theorem Counts.frame [Destination σ] {m : FlushMeter σ} (counts : m.Counts) :
    m.frame.Counts := by
  have captured : ∀ (f : Frame σ) (text : String),
      m.frame.Reads [] f (f.took text f.task.sink) := by
    intro f text
    have still : (f.pass.take text).captures.isEmpty = f.pass.captures.isEmpty := by
      rw [Bool.eq_iff_iff, List.isEmpty_iff, List.isEmpty_iff]
      exact f.pass.take_captures_eq_nil text
    exact ⟨rfl, by simp only [FlushMeter.frame, Frame.took, still]⟩
  have direct : ∀ (f : Frame σ) (text : String) (s : σ), f.pass.captures = [] →
      m.Reads [] f.task.sink s → m.frame.Reads [] f (f.took text s) := fun f text s direct reads =>
    Reads.through reads direct ((f.pass.take_captures_eq_nil text).mpr direct)
  refine ⟨fun text f => ?_, fun text f => ?_, fun f => ?_⟩
  · by_cases empty : f.pass.captures = []
    · rw [Frame.write_direct f text empty]
      exact (counts.write text f.task.sink).recast fun s => direct f text s empty
    · rw [Frame.write_captured f text empty]
      exact captured f text
  · by_cases empty : f.pass.captures = []
    · rw [Frame.writeAsync_direct f text empty]
      exact (counts.writeAsync text f.task.sink).recast fun s => direct f text s empty
    · rw [Frame.writeAsync_captured f text empty]
      exact captured f text
  · by_cases empty : f.pass.captures = []
    · rw [Frame.flush_direct f empty]
      exact (counts.flush f.task.sink).recast fun s reads => Reads.through reads empty empty
    · rw [Frame.flush_captured f empty]
      exact ⟨by simp [FlushMeter.frame, empty], rfl⟩

end FlushMeter

/-- What holds before an action holds in every state that it shows. -/
def Action.Keeps (P : σ → Prop) (act : Action σ α) : Prop :=
  ∀ s, P s → (act s).Visits P

namespace Action.Keeps

variable {P : σ → Prop} {act : Action σ α}

theorem conclude (o : Outcome α) : Keeps P (conclude o) :=
  fun _ here => here

theorem pure (a : α) : Keeps P (pure a) :=
  conclude (.ok a)

theorem log (entry : LogEntry) : Keeps P (log entry) :=
  fun _ here => here

theorem bind {next : α → Action σ β} (h : Keeps P act) (hn : ∀ a, Keeps P (next a)) :
    Keeps P (act >>= next) :=
  fun s here => (h s here).bind hn

theorem unit {act : Action σ Unit} (h : Keeps P act) : Keeps P act.unit :=
  .bind h fun _ => .pure Reply.unit

theorem compositional : Compositional fun _ act (_ : Action σ _) => Keeps P act :=
  ⟨fun o _ => conclude o, log, bind⟩

end Action.Keeps

/-- The account of nested templates agrees with every meter. -/
def FlushAccount.Agrees (nested : FlushAccount) (nesting : Nesting) : Prop :=
  ∀ {τ : Type} [Destination τ] {m : FlushMeter τ}, m.Counts → ∀ name more s,
    m.Reads (nested name more τ s) s ((nesting name τ s).drive more).state

namespace Call

variable [Destination σ] {nesting : Nesting} {nested : FlushAccount} {m : FlushMeter σ}

/-- A template that is written without waiting is polled once. -/
theorem renderNow_reads (agrees : nested.Agrees nesting) (counts : m.Counts) (name : String)
    (more : Nat) (s : σ) :
    m.Reads (nested name 0 σ s) s ((nesting.renderNow name s).drive more).state := by
  have first : ((nesting.renderNow name s).drive more).state = _ :=
    (nesting name σ s).firstPoll_state more
  rw [first]
  exact agrees counts name 0 s

/-- What a value writes without rendering a template. -/
theorem value_keeps {P : σ → Prop} (write : ∀ text, Action.Keeps P (Action.write text))
    (encoding : Encoding) {value : Value} (plain : value.template? = none) :
    Action.Keeps P (value.output nesting encoding) := by
  have texts := Action.Keeps.compositional.writeAll write
  cases value with
  | plain text? => exact texts _
  | safe text => exact texts _
  | encoded content =>
    cases content with
    | html text => exact texts _
    | marked text => exact texts _
    | template name => cases plain
  | template name => cases plain

theorem value_renders {name : String} {value : Value} (renders : value.template? = some name)
    (encoding : Encoding) :
    (value.output nesting encoding : Action σ Unit) = nesting.renderNow name := by
  cases value with
  | encoded content =>
    cases content with
    | template name' =>
      cases renders
      rfl
    | _ => cases renders
  | template name' =>
    cases renders
    rfl
  | _ => cases renders

/-- What a call writes to a frame is counted as its account says. -/
theorem output_reads (agrees : nested.Agrees nesting) (counts : m.Counts) (call : Call)
    (more : Nat) (f : Frame σ) (writing : call.writes = true) :
    m.Reads (call.flushes nested more f) f.task.sink
      ((call.perform nesting f).drive more).state.task.sink := by
  let g : Frame σ := { f with pass := call.prepare f.pass }
  have framed : m.frame.Counts := counts.frame
  have write : ∀ text, Action.Keeps (m.frame.Reads [] g) (Action.write text) :=
    fun text f reads => (framed.write text f).mono fun f' later => reads.trans later
  have writeAsync : ∀ text, Action.Keeps (m.frame.Reads [] g) (Action.writeAsync text) :=
    fun text f reads => (framed.writeAsync text f).mono fun f' later => reads.trans later
  have quiet : Action.Keeps (m.frame.Reads [] g) (call.output nesting f.pass) →
      m.Reads [] f.task.sink ((call.output nesting f.pass g).drive more).state.task.sink :=
    fun keeps => ((keeps g (.refl _ g)).drive more).of_frame
  rw [perform_output nesting call f writing]
  cases call with
  | literalAsync text =>
    refine quiet (.unit ?_)
    split
    · exact .pure ()
    · exact writeAsync text
  | write value =>
    cases template : value.template? with
    | none =>
      simp only [flushes, template]
      exact quiet (.unit (value_keeps write _ template))
    | some name =>
      have rendered := renderNow_reads agrees framed name more f
      simp only [flushes, template, output, value_renders template, Action.drive_unit]
      exact rendered.of_frame
  | templateAsync name =>
    simp only [flushes, output, Action.drive_unit]
    exact (agrees framed name more f).of_frame
  | flush =>
    simp only [flushes, output, Action.drive_unit]
    exact ((framed.flush f).drive more).of_frame
  | literal _ | endAttribute | renderBody | renderSection _ | renderSectionOptional _ =>
    exact quiet
      (Action.Keeps.compositional.output_of_writesTexts write nesting nesting f.pass rfl)
  | _ => cases writing

theorem perform_reads (agrees : nested.Agrees nesting) (counts : m.Counts) (call : Call)
    (more : Nat) (f : Frame σ) :
    m.Reads (call.flushes nested more f) f.task.sink
      ((call.perform nesting f).drive more).state.task.sink := by
  cases writing : call.writes with
  | true => exact output_reads agrees counts call more f writing
  | false =>
    have same : ((call.perform nesting f).drive more).state.task.sink = f.task.sink :=
      (call.perform_sink nesting f writing).drive more
    rw [same]
    refine .of_unheard (.refl m _) ?_
    cases call with
    | attributeValue head value =>
      simp only [flushes]
      cases value.template? with
      | none => exact nofun
      | some name =>
        intro c member
        obtain ⟨c', -, rfl⟩ := List.mem_map.mp member
        rfl
    | literal _ | literalAsync _ | write _ | templateAsync _ | flush | endAttribute | renderBody
    | renderSection _ | renderSectionOptional _ => cases writing
    | _ => exact nofun

end Call

namespace Step

variable [Destination σ] {nesting : Nesting} {nested : FlushAccount} {m : FlushMeter σ}

/-- The steps of a body, as far as it comes. -/
theorem runAll_reads (agrees : nested.Agrees nesting) (counts : m.Counts) (template : String)
    (position : Nat) (steps : List Step) (more : Nat) (f : Frame σ) :
    m.Reads (flushes nesting nested steps more f) f.task.sink
      ((runAll nesting template position steps f).drive more).state.task.sink := by
  induction steps generalizing position more f with
  | nil => exact .refl m _
  | cons step rest ih =>
    have whole : ((runAll nesting template position (step :: rest) f).drive more).state = _ :=
      Run.drive_bind_state (step.run nesting template position f)
        (fun _ f => runAll nesting template (position + 1) rest f) more
    rw [whole, flushes]
    cases skipped : step.isSkipped f.pass with
    | true =>
      rw [step.run_skipped template position f skipped]
      exact ih (position + 1) more f
    | false =>
      obtain ⟨state, polls, -, goes⟩ := step.drive_run nesting template position f more skipped
      have made := step.call.perform_reads agrees counts more f
      simp only [Bool.false_eq_true, if_false]
      by_cases goesOn : step.goesOn ((step.call.perform nesting f).drive more).outcome? = true
      · rw [if_pos goesOn, goes.mpr goesOn, state, polls]
        exact made.trans (ih (position + 1) _ _)
      · have halted := mt goes.mp goesOn
        rw [if_neg goesOn, List.append_nil]
        split
        · next ended => exact absurd ended halted
        · rw [state]
          exact made

end Step

/-- Finishing a pass leaves it where its body left it. -/
theorem Catalog.pass_state [Destination σ] (catalog : Catalog) (depth : Nat) (body : Body)
    (f : Frame σ) (more : Nat) :
    ((catalog.pass depth body f).drive more).state =
      ((body.run (catalog.nesting depth) f).drive more).state := by
  have whole : ((catalog.pass depth body f).drive more).state = _ :=
    Run.drive_bind_state (body.run (catalog.nesting depth) f) (fun _ f => Frame.finish f) more
  rw [whole]
  split
  · exact (Frame.drive_finish _ _).1
  · rfl

/-- An execution flushes its sink as often as its account says. -/
theorem execute_reads (catalog : Catalog) (depth : Nat) {σ : Type} [Destination σ]
    {m : FlushMeter σ} (counts : m.Counts) (config : Config) (body : Body)
    (input? : Option LayoutInput) (more : Nat) (task : Task σ) :
    m.Reads (catalog.flushes depth config body input? more task) task.sink
      ((execute catalog depth config body input? task).drive more).state.sink := by
  induction depth generalizing σ config body input? more with
  | zero => exact .refl m _
  | succ depth ih =>
    let nested : FlushAccount := fun name more _ _ sink =>
      catalog.flushes depth (catalog name).config (catalog name).body none more { sink }
    let start : Frame σ := { pass := .start config input?, task }
    have agrees : nested.Agrees (catalog.nesting depth) := by
      intro τ _ m counts name more s
      have isolated : ((catalog.nesting depth name τ s).drive more).state = _ :=
        congrArg Driven.state (Task.drive_isolate (execute catalog depth (catalog name).config
          (catalog name).body none) (more + 1) s)
      rw [isolated]
      exact ih counts _ _ none more { sink := s }
    have played :
        m.Reads _ task.sink ((catalog.pass depth body start).drive more).state.task.sink :=
      catalog.pass_state depth body start more ▸
        Step.runAll_reads agrees counts body.name 0 body.steps more start
    have entered :
        (Task.enter (.start config input?) (catalog.pass depth body) task).drive more = _ :=
      Run.drive_recast (catalog.pass depth body start) Frame.task (fun o _ => o) more
    have whole : ((execute catalog (depth + 1) config body input? task).drive more).state = _ :=
      Run.drive_bind_state (Task.enter (.start config input?) (catalog.pass depth body) task)
        (fun next? task => catalog.proceed depth config next? task) more
    have stopped : m.Reads (Step.flushes (catalog.nesting depth) nested body.steps more start ++ [])
        task.sink ((catalog.pass depth body start).drive more).state.task.sink := by
      rw [List.append_nil]
      exact played
    rw [whole, entered, Catalog.flushes]
    cases ended : ((catalog.pass depth body start).drive more).outcome? with
    | none => exact stopped
    | some o =>
      cases o with
      | ok next? =>
        cases next? with
        | none => exact stopped
        | some next =>
          exact played.trans (ih counts config (catalog next.layout).body (some next.input) _ _)
      | _ => exact stopped

def Sent.isFlush (sent : Sent) : Bool :=
  sent.call == .flush

namespace Audited

/-- Counts the flushes on the record. -/
def meter : FlushMeter (Audited σ) where
  count a := a.calls.countP Sent.isFlush
  capturing _ := []

theorem meter_counts [Destination σ] : (meter : FlushMeter (Audited σ)).Counts := by
  have reads : ∀ {call : SinkCall} {calls : List FlushCall} {act : Action σ Unit} (a : Audited σ),
      (∀ outcome?, [({ call, outcome? } : Sent)].countP Sent.isFlush =
        calls.countP fun c => c.isHeard && [].all (!·)) →
      (record call act a).Visits (meter.Reads calls a) := by
    intro call calls act a counted
    refine (record_visits call act a).mono ?_
    rintro a' ⟨outcome?, made⟩
    refine ⟨?_, rfl⟩
    change a'.calls.countP Sent.isFlush = a.calls.countP Sent.isFlush + _
    rw [made, List.countP_append, counted outcome?]
    rfl
  refine ⟨fun text a => ?_, fun text a => reads a fun _ => rfl, fun a => reads a fun _ => rfl⟩
  rw [write_eq]
  exact reads a fun _ => rfl

end Audited

namespace Blueprint

variable [Destination σ]

theorem flushes_reads {m : FlushMeter σ} (counts : m.Counts) (catalog : Catalog) (depth : Nat)
    (b : Blueprint) (polls : Nat) (sink : σ) :
    m.Reads (b.flushes catalog depth polls sink) sink
      ((execute catalog depth b.config b.body none).drive polls { sink }).state.sink := by
  cases polls with
  | zero => exact .refl m sink
  | succ more => exact execute_reads catalog depth counts b.config b.body none more { sink }

/-- A render into a sink whose flush never waits, if it returns at all, has flushed the sink once
for each flush call that is heard, in the polls that its execution ran, and once more after all
else. It returns the error of the execution if there is one, a cancellation included, and what the
last flush comes to otherwise. -/
theorem renderTo_flushes (atOnce : ∀ s : σ, (Action.flush s : Run σ Unit).pauses = [])
    (catalog : Catalog) (depth : Nat) (b : Blueprint) (allowed : Option Nat) (polls : Nat)
    (sink : σ) {result : Outcome Unit}
    (returned : ((b.renderTo catalog depth allowed).drive polls sink).outcome? = some result)
    (returns : result.returns = true) :
    let whole := (b.renderTo catalog depth allowed).drive polls sink
    let audited := (b.renderTo catalog depth allowed).drive polls ({ sink } : Audited σ)
    audited.state.sink = whole.state ∧ audited.outcome? = whole.outcome? ∧
    ∃ ran ended flushed,
      let execution := (execute catalog depth b.config b.body none).drive ran
        ({ sink := { sink } } : Task (Audited σ))
      (execution.outcome? = some ended ∧ audited.polls = execution.polls ∨
        execution.outcome? = none ∧ audited.polls = execution.polls + 1 ∧
          ended = .failed .cancelled) ∧
      audited.state.calls =
        execution.state.sink.calls ++ [{ call := .flush, outcome? := some flushed }] ∧
      audited.state.calls.countP Sent.isFlush =
        1 + (b.flushes catalog depth ran ({ sink } : Audited σ)).countP FlushCall.isHeard ∧
      result = ended.bind fun _ => flushed := by
  intro whole audited
  obtain ⟨same, state⟩ := drive_renderTo_unrecorded catalog depth b allowed polls sink []
  let start : Audited σ := { sink }
  have auditedAtOnce : ∀ a : Audited σ, (Action.flush a : Run (Audited σ) Unit).pauses = [] :=
    fun a => Audited.onRecord_pauses _ _ (atOnce a.sink)
  have auditedReturned : audited.outcome? = some result := same.symm.trans returned
  have settled : Settled _ _ audited.outcome? audited.state.calls :=
    drive_renderTo_settled atOnce catalog depth b allowed polls start
  rw [auditedReturned] at settled
  obtain ⟨ended, flushed, stopped, rfl, calls⟩ := settled.of_returns returns
  obtain ⟨ran, -, -, left, shown⟩ :=
    b.drive_renderCancellable_ran catalog depth allowed polls start
  have polled : audited.polls = _ :=
    drive_renderTo_polls auditedAtOnce catalog depth b allowed polls start
  have reads := flushes_reads Audited.meter_counts catalog depth b ran start
  rw [left] at calls
  refine ⟨state, same.symm, ran, ended, flushed, ?_, calls, ?_, rfl⟩
  · rw [polled]
    rcases shown with ⟨polls, outcome⟩ | ⟨polls, unfinished, cancelled⟩
    · exact .inl ⟨outcome ▸ stopped, polls⟩
    · exact .inr ⟨unfinished, polls, Option.some.inj (stopped.symm.trans cancelled)⟩
  · have counted : List.countP Sent.isFlush _ = _ := reads.count
    rw [calls, List.countP_append, counted, Nat.add_comm]
    simp [Audited.meter, start, Sent.isFlush]

/-- A page that flushes, and renders a template that flushes: in a section, in an attribute and in
place. -/
def flushingPage : Blueprint :=
  { body := { name := "page", steps := [{ call := .flush }, { call := .beginSection "menu" },
      { call := .templateAsync "item" }, { call := .endSection },
      { call := .beginAttribute { name := "title" } },
      { call := .attributeValue {} (.template "item") }, { call := .endAttribute },
      { call := .templateAsync "item" }] } }

def flushingItem : Blueprint :=
  { body := { name := "item", steps := [{ call := .literal "x" }, { call := .flush }] } }

/-- Two of the four flush calls are heard, and the sink is flushed three times. -/
theorem renderTo_flushes_flushingPage :
    let catalog : Catalog := fun _ => flushingItem
    let sink : Recorder := {}
    let whole := (flushingPage.renderTo catalog 2 none).drive 1 sink
    let heard ran :=
      (flushingPage.flushes catalog 2 ran ({ sink } : Audited Recorder)).map FlushCall.isHeard
    whole.outcome? = some (.ok ()) ∧ whole.state.flushes = 3 ∧
      heard 1 = [true, false, false, true] ∧
      ∃ ran, ((flushingPage.renderTo catalog 2 none).drive 1
          ({ sink } : Audited Recorder)).state.calls.countP Sent.isFlush =
        1 + (heard ran).countP id := by
  intro catalog sink whole heard
  have ended : whole.outcome? = some (.ok ()) := by
    decide +kernel
  have atOnce : ∀ r : Recorder, (Action.flush r).pauses = [] := by
    intro r
    rw [Recorder.flush_eq]
    rfl
  obtain ⟨-, -, ran, -, -, -, -, counted, -⟩ :=
    renderTo_flushes atOnce catalog 2 flushingPage none 1 sink ended rfl
  refine ⟨ended, by decide +kernel, by decide +kernel, ran, ?_⟩
  rw [counted, List.countP_map]
  rfl

end Blueprint

end Templating
