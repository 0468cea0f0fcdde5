import Templating.Proofs.BodyHistory
import Templating.Proofs.Parametricity
import Templating.Proofs.SinkCalls

/-!
# The first failure of a sink

An `Alarm` singles out the states of a sink in which no call has failed, and those which the first
failing call leaves. `Action.StopsAt w act` says that `act`, started before any failure, waits only
before any failure, and ends either so or with the error of the first failing call, in the very
state that this call left. Where bodies pass on every error, whole executions stop so
(`execute_stopsAt`); the alarm of a sink that records its calls is `Audited.alarm`.
-/

namespace Templating

variable {σ α β : Type}

structure Alarm (σ : Type) where
  /-- No call to the sink has failed. -/
  quiet : σ → Prop
  /-- The last call to the sink has failed with this error, and none before it. -/
  raised : RenderError → σ → Prop

namespace Alarm

def task (w : Alarm σ) : Alarm (Task σ) where
  quiet t := w.quiet t.sink
  raised e t := w.raised e t.sink

def frame (w : Alarm σ) : Alarm (Frame σ) where
  quiet f := w.quiet f.task.sink
  raised e f := w.raised e f.task.sink

/-- The error of the first failing call is the outcome, if there was such a call. -/
def Ends (w : Alarm σ) (o : Outcome α) (s : σ) : Prop :=
  w.quiet s ∨ ∃ e, o = .failed e ∧ w.raised e s

theorem Ends.quiet {w : Alarm σ} {a : α} {s : σ} (ends : w.Ends (.ok a) s) : w.quiet s := by
  rcases ends with quiet | ⟨e, failed, -⟩
  · exact quiet
  · cases failed

theorem Ends.passOn {w : Alarm σ} {o : Outcome α} {s : σ} (ends : w.Ends o s) {o' : Outcome β}
    (passed : o.passOn? = some o') : w.Ends o' s := by
  rcases ends with quiet | ⟨e, rfl, raised⟩
  · exact .inl quiet
  · cases passed
    exact .inr ⟨e, rfl, raised⟩

end Alarm

def Action.StopsAt (w : Alarm σ) (act : Action σ α) : Prop :=
  ∀ s, w.quiet s → (act s).Ensures w.quiet w.Ends

/-- Every call to the sink itself ends so. -/
structure Alarm.Heeded [Destination σ] (w : Alarm σ) : Prop where
  write : ∀ text, Action.StopsAt w (Action.write text)
  writeAsync : ∀ text, Action.StopsAt w (Action.writeAsync text)
  flush : Action.StopsAt w Action.flush

namespace Action.StopsAt

variable {w : Alarm σ} {act : Action σ α}

theorem conclude (o : Outcome α) : StopsAt w (conclude o) :=
  fun _ quiet => .inl quiet

theorem pure (a : α) : StopsAt w (pure a) :=
  conclude (.ok a)

theorem log (entry : LogEntry) : StopsAt w (log entry) :=
  fun _ quiet => .inl quiet

theorem bind {next : α → Action σ β} (h : StopsAt w act) (hn : ∀ a, StopsAt w (next a)) :
    StopsAt w (act >>= next) := fun s quiet =>
  (h s quiet).bind (fun a s ends => hn a s ends.quiet) fun _ _ ends _ passed => ends.passOn passed

theorem compositional : Compositional fun _ act (_ : Action σ _) => StopsAt w act :=
  ⟨fun o _ => conclude o, log, bind⟩

theorem firstPoll (h : StopsAt w act) : StopsAt w act.firstPoll := fun s quiet =>
  (h s quiet).firstPoll fun _ here => .inl here

theorem untilCancelled {cancelled : σ → Bool} (h : StopsAt w act) (allowed : Option Nat) :
    StopsAt w (act.untilCancelled cancelled allowed) := by
  intro s quiet
  unfold Action.untilCancelled
  split
  · exact .inl quiet
  · exact (h s quiet).untilCancelled fun _ here => .inl here

theorem isolate {act : Action (Task σ) α} (h : StopsAt w.task act) :
    StopsAt w (Task.isolate act) := fun s quiet =>
  (h { sink := s } quiet).recast (fun _ here => here) fun _ _ ends => ends

theorem enter {act : Action (Frame σ) α} (pass : Pass) (h : StopsAt w.frame act) :
    StopsAt w.task (Task.enter pass act) := fun task quiet =>
  (h { pass, task } quiet).recast (fun _ here => here) fun _ _ ends => ends

/-- What a frame hands on to its sink unless it captures. -/
private theorem handedOnOrCaptured {act : Action σ Unit} {whole : Action (Frame σ) Unit}
    {put : Frame σ → σ → Frame σ} (h : StopsAt w act)
    (direct : ∀ f, f.pass.captures = [] →
      whole f = (act f.task.sink).recast (put f) fun o _ => o)
    (captured : ∀ f, f.pass.captures ≠ [] → whole f = .done (.ok ()) (put f f.task.sink))
    (sink : ∀ f s, (put f s).task.sink = s) : StopsAt w.frame whole := by
  intro f quiet
  have puts : ∀ s, w.quiet s → w.frame.quiet (put f s) := fun s here =>
    (congrArg w.quiet (sink f s)).mpr here
  by_cases empty : f.pass.captures = []
  · rw [direct f empty]
    refine (h f.task.sink quiet).recast puts fun o s ends => ?_
    rcases ends with here | ⟨e, failed, raised⟩
    · exact .inl (puts s here)
    · exact .inr ⟨e, failed, (congrArg (w.raised e) (sink f s)).mpr raised⟩
  · rw [captured f empty]
    exact .inl (puts f.task.sink quiet)

end Action.StopsAt

theorem Alarm.Heeded.frame [Destination σ] {w : Alarm σ} (heeded : w.Heeded) :
    w.frame.Heeded where
  write text := .handedOnOrCaptured (heeded.write text) (Frame.write_direct · text)
    (Frame.write_captured · text) fun _ _ => rfl
  writeAsync text := .handedOnOrCaptured (heeded.writeAsync text) (Frame.writeAsync_direct · text)
    (Frame.writeAsync_captured · text) fun _ _ => rfl
  flush := .handedOnOrCaptured heeded.flush Frame.flush_direct Frame.flush_captured fun _ _ => rfl

namespace Action.StopsAt

variable [Destination σ] {w : Alarm σ} {nesting : Nesting}

theorem output (heeded : w.Heeded) (nested : ∀ name, StopsAt w (nesting name σ)) (p : Pass)
    (call : Call) : StopsAt w (call.output nesting p) :=
  compositional.output heeded.write nesting nesting heeded.writeAsync heeded.flush nested
    (fun name => (nested name).firstPoll) p call

/-- A call that does not write makes no call to the sink. -/
theorem perform (heeded : w.Heeded) (nested : ∀ name, StopsAt w.frame (nesting name (Frame σ)))
    (call : Call) : StopsAt w.frame (call.perform nesting) := by
  intro f quiet
  cases writing : call.writes with
  | true =>
    rw [Call.perform_output nesting call f writing]
    exact output heeded.frame nested f.pass call _ quiet
  | false =>
    have stays := (call.perform_sink nesting f writing).mono (Q := w.frame.quiet) fun f' same =>
      (congrArg w.quiet same).mpr quiet
    exact .of_visits stays (fun _ here => here) fun _ _ here => .inl here

/-- A step that is not tolerant passes on the error of its call. -/
theorem step (heeded : w.Heeded) (nested : ∀ name, StopsAt w.frame (nesting name (Frame σ)))
    (template : String) (position : Nat) (step : Step) (propagates : step.tolerant = false) :
    StopsAt w.frame (step.run nesting template position) := by
  intro f quiet
  cases skipped : step.isSkipped f.pass with
  | true =>
    rw [step.run_skipped template position f skipped]
    exact .inl quiet
  | false =>
    rw [step.run_needed nesting template position f skipped]
    refine (perform heeded nested step.call f quiet).attempt_bind fun o f' ends => ?_
    cases o with
    | ok reply => exact .inl ends.quiet
    | failed e =>
      simp only [Step.after, propagates]
      exact ends.passOn rfl
    | misused m =>
      simp only [Step.after, propagates]
      exact ends.passOn rfl
    | tooDeep => exact ends.passOn rfl

theorem runAll (heeded : w.Heeded) (nested : ∀ name, StopsAt w.frame (nesting name (Frame σ)))
    (template : String) (position : Nat) (steps : List Step)
    (propagates : ∀ step ∈ steps, step.tolerant = false) :
    StopsAt w.frame (Step.runAll nesting template position steps) := by
  induction steps generalizing position with
  | nil => exact .pure ()
  | cons step rest ih =>
    refine .bind (.step heeded nested template position step ?_) fun _ => ?_
    · exact propagates step (List.mem_cons_self ..)
    · exact ih (position + 1) fun later member =>
        propagates later (List.mem_cons_of_mem step member)

omit [Destination σ] in
theorem finish : StopsAt w.frame Frame.finish := by
  intro f quiet
  unfold Frame.finish
  rw [Action.read_bind]
  cases f.pass.unfinished? with
  | some reason => exact Or.inl quiet
  | none =>
    dsimp only
    split
    · exact Or.inl quiet
    · exact Or.inl quiet

end Action.StopsAt

/-- An execution stops at the first call to its sink that fails, however deep it is nested. -/
theorem execute_stopsAt (catalog : Catalog) (depth : Nat) {σ : Type} [Destination σ]
    {w : Alarm σ} (heeded : w.Heeded) (config : Config) (body : Body)
    (input? : Option LayoutInput) (bodyPropagates : body.Propagates)
    (catalogPropagates : catalog.Propagates) :
    Action.StopsAt w.task (execute catalog depth config body input?) := by
  induction depth generalizing σ config body input? with
  | zero => exact .conclude .tooDeep
  | succ depth ih =>
    rw [execute_succ]
    have nested : ∀ name, Action.StopsAt w.frame (catalog.nesting depth name (Frame σ)) :=
      fun name => .isolate (ih heeded.frame _ _ none (catalogPropagates name))
    refine .bind (.enter _ (.bind ?_ fun _ => .finish)) fun next? => ?_
    · exact .runAll heeded nested body.name 0 body.steps bodyPropagates
    · cases next? with
      | none => exact .pure ()
      | some next =>
        exact .bind (.log _) fun _ => ih heeded config _ _ (catalogPropagates next.layout)

theorem Blueprint.renderCancellable_stopsAt [Destination σ] {w : Alarm σ} (heeded : w.Heeded)
    (catalog : Catalog) (depth : Nat) (b : Blueprint) (allowed : Option Nat)
    (bodyPropagates : b.body.Propagates) (catalogPropagates : catalog.Propagates) :
    Action.StopsAt w (b.renderCancellable catalog depth allowed) :=
  ((execute_stopsAt catalog depth heeded b.config b.body none bodyPropagates
    catalogPropagates).untilCancelled allowed).isolate

def Sent.hasFailed (sent : Sent) : Bool :=
  match sent.outcome? with
  | some (.failed _) => true
  | _ => false

namespace Audited

def alarm : Alarm (Audited σ) where
  quiet a := ∀ sent ∈ a.calls, sent.hasFailed = false
  raised e a := ∃ before call, (∀ sent ∈ before, sent.hasFailed = false) ∧
    a.calls = before ++ [{ call, outcome? := some (.failed e) }]

theorem alarm_quiet_append {sink sink' : σ} {calls : List Sent} {sent : Sent}
    (quiet : alarm.quiet { sink, calls }) (calm : sent.hasFailed = false) :
    alarm.quiet { sink := sink', calls := calls ++ [sent] } := by
  intro made member
  rcases List.mem_append.mp member with earlier | last
  · exact quiet made earlier
  · rw [List.mem_singleton.mp last]
    exact calm

theorem record_stopsAt (call : SinkCall) (act : Action σ Unit) :
    Action.StopsAt alarm (record call act) := by
  intro a quiet
  have ensured : (act a.sink).Ensures (fun _ => True) fun _ _ => True :=
    .of_visits (.trivially _) (fun _ here => here) fun _ _ here => here
  refine onRecord_ensures ensured (fun s _ => alarm_quiet_append quiet rfl) fun o s _ => ?_
  cases o with
  | failed e => exact .inr ⟨e, rfl, a.calls, call, quiet, rfl⟩
  | ok _ => exact .inl (alarm_quiet_append quiet rfl)
  | misused m => exact .inl (alarm_quiet_append quiet rfl)
  | tooDeep => exact .inl (alarm_quiet_append quiet rfl)

theorem alarm_heeded [Destination σ] : (alarm : Alarm (Audited σ)).Heeded where
  write text := by
    rw [write_eq]
    exact record_stopsAt _ _
  writeAsync text := record_stopsAt _ _
  flush := record_stopsAt _ _

end Audited

end Templating
