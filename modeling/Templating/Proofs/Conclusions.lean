import Templating.Destination.BlockingSink
import Templating.Destination.Recorder
import Templating.Destination.StagedSink
import Templating.Proofs.References

/-!
# Runs that conclude

A run concludes if it ends when it is polled on, and not because a depth was exceeded, and keeps to
states of some kind. A sink is prompt in some of its states if whatever is asked of it there
concludes, after waiting or at once, and leaves it in such a state. Over a prompt sink a pass
concludes if its body does not stall, and every template that it nests concludes
(`Body.pass_concludes`).
-/

namespace Templating

variable {σ τ α β : Type} {live : σ → Prop} {live' : τ → Prop}

/-- Polled on, the run ends with a value, an error or a misuse, and not because a depth was
exceeded. -/
def Run.Ends (r : Run σ α) : Prop :=
  ∃ o, r.await.outcome? = some o ∧ o ≠ .tooDeep

/-- The run ends, and wherever it waits, and in the end, its state is `live`. -/
def Run.Concludes (live : σ → Prop) : Run σ α → Prop
  | done o s => o ≠ .tooDeep ∧ live s
  | note _ rest => rest.Concludes live
  | pause s rest => live s ∧ (rest ()).Concludes live
  | stalled _ => False

namespace Run.Concludes

variable {r : Run σ α}

theorem ends (h : r.Concludes live) : r.Ends := by
  induction r with
  | done o s => exact ⟨o, rfl, h.1⟩
  | note e rest ih => exact ih h
  | pause s rest ih => exact ih () h.2
  | stalled s => exact h.elim

theorem bind {k : α → σ → Run σ β} (h : r.Concludes live)
    (later : ∀ a s, r.Returns a s → live s → (k a s).Concludes live) :
    (r.bind k).Concludes live := by
  induction r with
  | done o s =>
    cases o with
    | ok a => exact later a s ⟨rfl, rfl⟩ h.2
    | failed e => exact ⟨nofun, h.2⟩
    | misused m => exact ⟨nofun, h.2⟩
    | tooDeep => exact absurd rfl h.1
  | note e rest ih => exact ih h later
  | pause s rest ih => exact ⟨h.1, ih () h.2 later⟩
  | stalled s => exact h.elim

theorem recast {project : σ → τ} {conclude : Outcome α → σ → Outcome β} (h : r.Concludes live)
    (keeps : ∀ s, live s → live' (project s))
    (allowed : ∀ o s, o ≠ .tooDeep → conclude o s ≠ .tooDeep) :
    (r.recast project conclude).Concludes live' := by
  induction r with
  | done o s => exact ⟨allowed o s h.1, keeps s h.2⟩
  | note e rest ih => exact ih h
  | pause s rest ih => exact ⟨keeps s h.1, ih () h.2⟩
  | stalled s => exact h.elim

/-- What follows on every end of a run that concludes. -/
theorem attempt_bind {k : Outcome α → σ → Run σ β} (h : r.Concludes live)
    (later : ∀ o s, o ≠ .tooDeep → live s → (k o s).Concludes live) :
    ((r.recast id fun o _ => .ok o).bind k).Concludes live := by
  induction r with
  | done o s => exact later o s h.1 h.2
  | note e rest ih => exact ih h
  | pause s rest ih => exact ⟨h.1, ih () h.2⟩
  | stalled s => exact h.elim

theorem firstPoll (h : r.Concludes live) : r.firstPoll.Concludes live := by
  induction r with
  | done o s => exact h
  | note e rest ih => exact ih h
  | pause s rest ih => exact ⟨nofun, h.1⟩
  | stalled s => exact h.elim

theorem untilCancelled {cancelled : σ → Bool} {allowed : Option Nat} (h : r.Concludes live) :
    (r.untilCancelled cancelled allowed).Concludes live := by
  induction r generalizing allowed with
  | done o s => exact h
  | note e rest ih => exact ih h
  | pause s rest ih =>
    refine ⟨h.1, ?_⟩
    dsimp only
    split
    · exact ⟨nofun, h.1⟩
    · exact ih () h.2
  | stalled s => exact h.elim

end Run.Concludes

def Action.Concludes (live : σ → Prop) (act : Action σ α) : Prop :=
  ∀ s, live s → (act s).Concludes live

/-- Whatever is asked of the sink in these states ends, after waiting or at once, and leaves the
sink in one of them. -/
structure Destination.Prompt [Destination σ] (live : σ → Prop) : Prop where
  write : ∀ text, (Action.write text : Action σ Unit).Concludes live
  writeAsync : ∀ text, (Action.writeAsync text : Action σ Unit).Concludes live
  flush : (Action.flush : Action σ Unit).Concludes live

namespace Action.Concludes

variable {act : Action σ α}

theorem conclude {o : Outcome α} (allowed : o ≠ .tooDeep) :
    (Action.conclude o : Action σ α).Concludes live :=
  fun _ here => ⟨allowed, here⟩

theorem pure (a : α) : (pure a : Action σ α).Concludes live :=
  conclude nofun

theorem report (event : Event) : (Action.report event : Action σ Unit).Concludes live :=
  fun _ here => ⟨nofun, here⟩

theorem log (entry : LogEntry) : (Action.log entry : Action σ Unit).Concludes live :=
  report _

theorem read (f : σ → α) : (Action.read f).Concludes live :=
  fun _ here => ⟨nofun, here⟩

theorem update {f : σ → σ} (keeps : ∀ s, live s → live (f s)) : (Action.update f).Concludes live :=
  fun s here => ⟨nofun, keeps s here⟩

theorem ofStep {step : σ → Except RenderError α × σ} (keeps : ∀ s, live s → live (step s).2) :
    (Action.ofStep step).Concludes live := by
  intro s here
  have kept := keeps s here
  unfold Action.ofStep
  split
  · next stepped => exact ⟨nofun, by simpa only [stepped] using kept⟩
  · next stepped => exact ⟨nofun, by simpa only [stepped] using kept⟩

theorem bind {next : α → Action σ β} (h : act.Concludes live)
    (later : ∀ a, (next a).Concludes live) : (act >>= next).Concludes live :=
  fun s here => (h s here).bind fun a s _ => later a s

theorem unit {act : Action σ Unit} (h : act.Concludes live) : act.unit.Concludes live :=
  .bind h fun _ => .pure Reply.unit

theorem wait (polls : Nat) : (Action.wait polls : Action σ Unit).Concludes live := by
  induction polls with
  | zero => exact .pure ()
  | succ polls ih => exact fun s here => ⟨here, ih s here⟩

theorem firstPoll (h : act.Concludes live) : act.firstPoll.Concludes live :=
  fun s here => (h s here).firstPoll

theorem attempt_bind {k : Outcome α → Action σ β} (h : act.Concludes live)
    (later : ∀ o, o ≠ .tooDeep → (k o).Concludes live) : (act.attempt >>= k).Concludes live :=
  fun s here => (h s here).attempt_bind fun o s allowed => later o allowed s

theorem untilCancelled {cancelled : σ → Bool} (h : act.Concludes live) (allowed : Option Nat) :
    (act.untilCancelled cancelled allowed).Concludes live := by
  intro s here
  unfold Action.untilCancelled
  split
  · exact ⟨nofun, here⟩
  · exact (h s here).untilCancelled

theorem compositional :
    Compositional fun (α : Type) (act : Action σ α) (_ : Action σ α) => act.Concludes live :=
  ⟨fun _ allowed => conclude allowed, log, bind⟩

/-- What is rendered to memory leaves the state around it alone. -/
theorem inMemory {act : Action TextBuffer Unit} (h : act.Concludes fun _ => True) :
    (Action.inMemory act : Action σ String).Concludes live :=
  fun _ here => (h {} trivial).recast (fun _ _ => here) fun o _ allowed => by
    cases o with
    | tooDeep => exact absurd rfl allowed
    | _ => simp [Outcome.map, Outcome.bind]

theorem isolate {act : Action (Task σ) α} (h : act.Concludes fun task => live task.sink) :
    (Task.isolate act).Concludes live :=
  fun sink here => (h { sink } here).recast (fun _ kept => kept) fun _ _ allowed => allowed

theorem enter {act : Action (Frame σ) α} (h : act.Concludes fun f => live f.task.sink)
    (pass : Pass) : (Task.enter pass act).Concludes fun task => live task.sink :=
  fun task here => (h { pass, task } here).recast (fun _ kept => kept) fun _ _ allowed => allowed

end Action.Concludes

namespace ScriptedWriter

theorem sendAsync_concludes (w : ScriptedWriter) (script : List WriteAnswer) (bytes : List UInt8) :
    (w.sendAsync script bytes).Concludes fun _ => True := by
  induction w, script, bytes using sendAsync.induct with
  | case1 w script =>
    unfold sendAsync
    exact ⟨by simp, trivial⟩
  | case2 w bytes present =>
    cases bytes with
    | nil => exact absurd rfl present
    | cons b bytes => exact ⟨by simp, trivial⟩
  | case3 w script b bytes => exact ⟨by simp, trivial⟩
  | case4 w n script b bytes ih => exact ih
  | case5 w script b bytes ih => exact ⟨trivial, ih⟩
  | case6 w script b bytes ih => exact ih
  | case7 w cause script b bytes => exact ⟨by simp, trivial⟩

theorem flushAsync_concludes (w : ScriptedWriter) (script : List FlushAnswer) :
    (w.flushAsync script).Concludes fun _ => True := by
  induction script with
  | nil => exact ⟨nofun, trivial⟩
  | cons answer script ih =>
    cases answer with
    | ok => exact ⟨nofun, trivial⟩
    | notReady => exact ⟨trivial, ih⟩
    | error cause => exact ⟨nofun, trivial⟩

end ScriptedWriter

namespace Destination.Prompt

theorem textBuffer : Prompt fun _ : TextBuffer => True where
  write _ := .ofStep fun _ _ => trivial
  writeAsync _ := .update fun _ _ => trivial
  flush := .pure ()

theorem recorder : Prompt fun _ : Recorder => True where
  write _ := .ofStep fun _ _ => trivial
  writeAsync text := by
    have taken : (Action.ofStep (Recorder.take .async text)).Concludes fun _ => True :=
      .ofStep fun _ _ => trivial
    intro r here
    rw [Recorder.writeAsync_eq]
    split
    · exact ⟨here, taken r here⟩
    · exact taken r here
  flush := .ofStep fun _ _ => trivial

theorem blockingSink : Prompt fun _ : BlockingSink => True where
  write _ := .ofStep fun _ _ => trivial
  writeAsync _ := .ofStep fun _ _ => trivial
  flush := .ofStep fun _ _ => trivial

/-- A script of answers has an end, so what it lets wait does not wait for ever. -/
theorem stagedSink : Prompt fun _ : StagedSink => True :=
  have send : ∀ text, (StagedSink.send text).Concludes fun _ => True := fun _ s here =>
    (s.writer.sendAsync_concludes _ _).recast (fun _ _ => here) fun _ _ allowed => allowed
  have drain : StagedSink.drain.Concludes fun _ => True :=
    .bind (.read _) fun staged => .bind (send staged) fun _ => .update fun _ _ => trivial
  { write := fun _ => .ofStep fun _ _ => trivial
    writeAsync := fun text => .bind drain fun _ => send text
    flush := .bind drain fun _ s here =>
      (s.writer.flushAsync_concludes _).recast (fun _ _ => here) fun _ _ allowed => allowed }

/-- What a frame issues to its sink unless it captures. -/
theorem issued {act : Action σ Unit} (h : act.Concludes live) {whole : Action (Frame σ) Unit}
    {put : Frame σ → σ → Frame σ} (sink : ∀ f s, (put f s).task.sink = s)
    (direct : ∀ f, f.pass.captures = [] →
      whole f = (act f.task.sink).recast (put f) fun o _ => o)
    (captured : ∀ f, f.pass.captures ≠ [] → whole f = .done (.ok ()) (put f f.task.sink)) :
    whole.Concludes fun f => live f.task.sink := by
  intro f here
  by_cases empty : f.pass.captures = []
  · rw [direct f empty]
    refine (h f.task.sink here).recast (fun s kept => ?_) fun _ _ allowed => allowed
    rwa [sink]
  · rw [captured f empty]
    have kept : live (put f f.task.sink).task.sink := by rwa [sink]
    exact ⟨nofun, kept⟩

/-- Captured text is taken at once, all other goes to the sink. -/
theorem frame [Destination σ] (prompt : Prompt live) :
    Prompt fun f : Frame σ => live f.task.sink where
  write text := issued (prompt.write text) (fun _ _ => rfl) (Frame.write_direct · text)
    (Frame.write_captured · text)
  writeAsync text := issued (prompt.writeAsync text) (fun _ _ => rfl)
    (Frame.writeAsync_direct · text) (Frame.writeAsync_captured · text)
  flush := issued prompt.flush (fun _ _ => rfl) Frame.flush_direct Frame.flush_captured

end Destination.Prompt

namespace Pass

theorem beginSection_ne_tooDeep (p : Pass) (name : String) : p.beginSection name ≠ .tooDeep := by
  unfold beginSection
  split
  · nofun
  · split <;> nofun

theorem endSection_ne_tooDeep (p : Pass) : p.endSection.1 ≠ .tooDeep := by
  unfold endSection
  split
  · nofun
  · split <;> nofun

theorem unfinished?_ne_tooDeep (p : Pass) : p.unfinished? ≠ some .tooDeep := by
  unfold unfinished?
  split
  · nofun
  · nofun
  · split
    · split <;> nofun
    · nofun

end Pass

/-- Over prompt sinks the templates conclude. -/
def Nesting.Conclude (nesting : Nesting) : Prop :=
  ∀ (name : String) {τ : Type} [Destination τ] {live : τ → Prop}, Destination.Prompt live →
    (nesting name τ).Concludes live

namespace Action.Concludes

variable [Destination σ] {nesting : Nesting}

omit [Destination σ] in
theorem change {f : Pass → Outcome Pass} (allowed : ∀ p, f p ≠ .tooDeep) :
    (Frame.change f : Action (Frame σ) Unit).Concludes fun f => live f.task.sink := by
  intro frame here
  unfold Frame.change
  split
  · exact ⟨nofun, here⟩
  · exact ⟨nofun, here⟩
  · exact ⟨nofun, here⟩
  · next deep => exact absurd deep (allowed frame.pass)

omit [Destination σ] in
theorem changeWriter (f : AttributeWriter → Except Misuse AttributeWriter) :
    (Frame.changeWriter f : Action (Frame σ) Unit).Concludes fun f => live f.task.sink := by
  refine change fun p => ?_
  split <;> nofun

omit [Destination σ] in
theorem resolve (nested : nesting.Conclude) (value : Value) :
    (value.resolve nesting : Action σ MarkedText).Concludes live := by
  have rendered : ∀ name,
      (nesting.renderNow name : Action TextBuffer Unit).Concludes fun _ => True :=
    fun name => (nested name .textBuffer).firstPoll
  cases value with
  | plain text? => exact .pure (MarkedText.dynamic text?)
  | safe text => exact .pure (MarkedText.raw text)
  | encoded content =>
    have written := compositional.content Destination.Prompt.textBuffer.write nesting nesting
      rendered content
    exact .bind (.inMemory written) fun text => .pure (MarkedText.raw text)
  | template name =>
    exact .bind (.inMemory (rendered name)) fun text => .pure (MarkedText.raw text)

/-- A call into a prompt sink concludes, unless it stalls. -/
theorem perform (prompt : Destination.Prompt live) (nested : nesting.Conclude) {call : Call}
    (calm : call ≠ .stall) :
    (call.perform nesting : Action (Frame σ) Reply).Concludes fun f => live f.task.sink := by
  by_cases writing : call.writes = true
  · intro f here
    rw [call.perform_output nesting f writing]
    exact compositional.output prompt.frame.write nesting nesting prompt.frame.writeAsync
      prompt.frame.flush (fun name => nested name prompt.frame)
      (fun name => (nested name prompt.frame).firstPoll) f.pass call _ here
  · cases call with
    | beginAttribute head => exact .unit (.changeWriter _)
    | attributeValue head value =>
      exact .unit (.bind (.resolve nested value) fun value => .changeWriter _)
    | setLayout name => exact .unit (.change fun p => by split <;> nofun)
    | beginSection name => exact .unit (.change (·.beginSection_ne_tooDeep name))
    | endSection => exact .unit fun f here => ⟨f.pass.endSection_ne_tooDeep, here⟩
    | isSectionDefined _ | encoding | config | isCancelled => exact .read _
    | cancel => exact .unit (.update fun _ here => here)
    | ensureNotCancelled =>
      refine .unit (.bind (.read _) fun cancelled => ?_)
      split
      · exact .conclude nofun
      · exact .pure ()
    | fail error => exact .conclude nofun
    | wait polls => exact .unit (.wait polls)
    | stall => exact absurd rfl calm
    | _ => exact absurd rfl writing

theorem step (prompt : Destination.Prompt live) (nested : nesting.Conclude) (template : String)
    (position : Nat) {step : Step} (calm : step.call ≠ .stall) :
    (step.run nesting template position : Action (Frame σ) Unit).Concludes
      fun f => live f.task.sink := by
  refine .bind (.read _) fun skipped => ?_
  split
  · exact .report _
  · refine (perform prompt nested calm).attempt_bind fun o allowed => .bind (.report _) fun _ => ?_
    cases o with
    | ok reply => exact .pure ()
    | failed e =>
      dsimp only
      split
      · exact .pure ()
      · exact .conclude nofun
    | misused m =>
      dsimp only
      split
      · exact .pure ()
      · exact .conclude nofun
    | tooDeep => exact absurd rfl allowed

theorem runAll (prompt : Destination.Prompt live) (nested : nesting.Conclude) (template : String)
    (position : Nat) {steps : List Step} (calm : ∀ step ∈ steps, step.call ≠ .stall) :
    (Step.runAll nesting template position steps : Action (Frame σ) Unit).Concludes
      fun f => live f.task.sink := by
  induction steps generalizing position with
  | nil => exact .pure ()
  | cons step rest ih =>
    refine .bind (.step prompt nested template position (calm step List.mem_cons_self)) fun _ => ?_
    exact ih (position + 1) fun step member => calm step (List.mem_cons_of_mem _ member)

omit [Destination σ] in
theorem finish : (Frame.finish : Action (Frame σ) (Option LayoutCall)).Concludes
    fun f => live f.task.sink := by
  refine .bind (.read _) fun pass => ?_
  split
  · next reason unfinished =>
    cases reason with
    | ok _ => exact .conclude nofun
    | failed e => exact .conclude nofun
    | misused m => exact .conclude nofun
    | tooDeep => exact absurd unfinished pass.unfinished?_ne_tooDeep
  · split
    · exact .bind (.log _) fun _ => .pure pass.next?
    · exact .pure pass.next?

end Action.Concludes

/-- Only the templates that the body nests matter. -/
theorem Body.pass_concludes [Destination σ] (prompt : Destination.Prompt live) {nesting : Nesting}
    {body : Body} (calm : ∀ step ∈ body.steps, step.call ≠ .stall)
    (nested : ∀ name ∈ body.templates, ∀ {τ : Type} [Destination τ] {live : τ → Prop},
      Destination.Prompt live → (nesting name τ).Concludes live) :
    (body.pass nesting : Action (Frame σ) (Option LayoutCall)).Concludes
      fun f => live f.task.sink := by
  let only : Nesting := fun name τ _ => if name ∈ body.templates then nesting name τ else pure ()
  have same : ∀ name ∈ body.templates, nesting name = only name := fun name nests => by
    simp only [only, if_pos nests]
  have conclude : only.Conclude := by
    intro name τ _ live prompt
    unfold only
    split
    · next nests => exact nested name nests prompt
    · exact .pure ()
  rw [body.pass_congr same]
  exact .bind (.runAll prompt conclude body.name 0 calm) fun _ => .finish

end Templating
