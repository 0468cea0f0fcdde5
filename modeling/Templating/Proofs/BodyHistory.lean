import Templating.Proofs.PassHistory
import Templating.Proofs.Polls

/-!
# What a body did

A body makes the calls of its steps, one after the other, as far as it comes. `Step.Played` says
which calls were made; unless one of them was a misuse they reach the frame that the body is left
in (`Step.Played.reached`). A pass is a body that was played as a whole and then finished.
-/

namespace Templating

variable {σ : Type}

/-- The report of a step that was a misuse. -/
def Event.panicked : Event → Bool
  | .step _ _ (.misused _) => true
  | _ => false

namespace Step

/-- The body goes on after a call that ended so. -/
def goesOn (step : Step) : Option (Outcome Reply) → Bool
  | some (.ok _) => true
  | some (.failed _) | some (.misused _) => step.tolerant
  | some .tooDeep | none => false

/-- Played in order from the frame `f`, the steps made the calls of the history and came to `f'`;
the flag says whether they were played to their end. -/
inductive Played [Destination σ] (nesting : Nesting) :
    List Step → Frame σ → List Entry → Frame σ → Bool → Prop
  | all (f : Frame σ) : Played nesting [] f [] f true
  | stop (steps : List Step) (f : Frame σ) : Played nesting steps f [] f false
  | skip {step : Step} {rest : List Step} {f f' : Frame σ} {history : List Entry} {whole : Bool}
      (skipped : step.isSkipped f.pass = true) (later : Played nesting rest f history f' whole) :
      Played nesting (step :: rest) f history f' whole
  | call {step : Step} {rest : List Step} {f f' : Frame σ} {history : List Entry} {whole : Bool}
      (more : Nat) (needed : step.isSkipped f.pass = false)
      (goesOn : step.goesOn (step.call.entry nesting more f).outcome? = true)
      (later : Played nesting rest ((step.call.perform nesting f).drive more).state history f'
        whole) :
      Played nesting (step :: rest) f (step.call.entry nesting more f :: history) f' whole
  | last {step : Step} {rest : List Step} {f : Frame σ} (more : Nat)
      (needed : step.isSkipped f.pass = false) :
      Played nesting (step :: rest) f [step.call.entry nesting more f]
        ((step.call.perform nesting f).drive more).state false

variable [Destination σ] {nesting : Nesting}

theorem Played.reached {start f f' : Frame σ} {steps : List Step} {before history : List Entry}
    {whole : Bool} (played : Played nesting steps f history f' whole)
    (from_start : Frame.Reached nesting start before f)
    (calm : ∀ e ∈ history, e.panicked = false) :
    Frame.Reached nesting start (before ++ history) f' := by
  induction played generalizing before with
  | all f => simpa using from_start
  | stop steps f => simpa using from_start
  | skip skipped later ih => exact ih from_start calm
  | @call step rest f f' history whole more needed goesOn later ih =>
    have next := from_start.call step.call more (calm _ (List.mem_cons_self ..))
    have reached := ih next fun e member => calm e (List.mem_cons_of_mem _ member)
    simpa using reached
  | @last step rest f more needed =>
    exact from_start.call step.call more (calm _ (List.mem_cons_self ..))

theorem run_skipped (template : String) (position : Nat) (step : Step) (f : Frame σ)
    (skipped : step.isSkipped f.pass = true) :
    step.run nesting template position f =
      .note (.step template position (.ok .skipped)) (.done (.ok ()) f) := by
  unfold Step.run
  rw [Action.read_bind, if_pos skipped]
  rfl

/-- What a body makes of the end of a call. -/
def after (template : String) (position : Nat) (step : Step) (outcome : Outcome Reply) :
    Action (Frame σ) Unit := do
  .report (.step template position outcome)
  match outcome with
  | .ok _ => pure ()
  | .failed e => if step.tolerant then pure () else .fail e
  | .misused m => if step.tolerant then pure () else .misuse m
  | .tooDeep => .conclude .tooDeep

theorem run_needed (nesting : Nesting) (template : String) (position : Nat) (step : Step)
    (f : Frame σ) (needed : step.isSkipped f.pass = false) :
    step.run nesting template position f =
      ((step.call.perform nesting f).recast id fun o _ => .ok o).bind
        fun outcome f => step.after template position outcome f := by
  unfold Step.run
  rw [Action.read_bind, if_neg (by simp [needed])]
  rfl

omit [Destination σ] in
theorem after_pauses (template : String) (position : Nat) (step : Step) (o : Outcome Reply)
    (f : Frame σ) : (step.after template position o f).pauses = [] := by
  cases o with
  | ok reply => rfl
  | tooDeep => rfl
  | failed e | misused m =>
    cases tolerant : step.tolerant <;> simp only [after, tolerant] <;> rfl

omit [Destination σ] in
theorem await_after (template : String) (position : Nat) (step : Step) (o : Outcome Reply)
    (f : Frame σ) :
    (step.after template position o f).await.events = [.step template position o] ∧
      (step.after template position o f).await.state = f ∧
      ((step.after template position o f).await.outcome? = some (.ok ()) ↔
        step.goesOn (some o) = true) := by
  cases o with
  | ok reply => exact ⟨rfl, rfl, iff_of_true rfl rfl⟩
  | tooDeep => exact ⟨rfl, rfl, iff_of_false nofun nofun⟩
  | failed e | misused m =>
    cases tolerant : step.tolerant with
    | true =>
      simp only [after, tolerant]
      exact ⟨rfl, rfl, iff_of_true rfl tolerant⟩
    | false =>
      simp only [after, tolerant]
      exact ⟨rfl, rfl, iff_of_false nofun fun goes => nomatch tolerant.symm.trans goes⟩

/-- A step is left where its call was left, in the same poll, and reports how the call ended. -/
theorem drive_run (nesting : Nesting) (template : String) (position : Nat) (step : Step)
    (f : Frame σ) (more : Nat) (needed : step.isSkipped f.pass = false) :
    let made := (step.call.perform nesting f).drive more
    let whole := (step.run nesting template position f).drive more
    whole.state = made.state ∧ whole.polls = made.polls ∧
      (∀ o, made.outcome? = some o → .step template position o ∈ whole.events) ∧
      (whole.outcome? = some (.ok ()) ↔ step.goesOn made.outcome? = true) := by
  intro made whole
  have shown : whole = made.closed fun o f => (step.after template position o f).await := by
    unfold whole
    rw [run_needed nesting template position step f needed]
    exact Run.drive_attempt_bind _ (step.after_pauses template position) more
  rw [shown]
  unfold Driven.closed
  cases made.outcome? with
  | none => exact ⟨rfl, rfl, nofun, iff_of_false nofun nofun⟩
  | some o =>
    obtain ⟨reported, stays, goes⟩ := step.await_after template position o made.state
    refine ⟨stays, rfl, ?_, goes⟩
    rintro _ ⟨⟩
    refine List.mem_append_right _ ?_
    rw [reported]
    exact List.mem_singleton.mpr rfl

theorem panicked_reported {o? : Option (Outcome Reply)} {call : Call} {texts : List String}
    {template : String} {position : Nat} {events : List Event}
    (reported : ∀ o, o? = some o → .step template position o ∈ events)
    (panicked : (Entry.mk call texts o?).panicked = true) :
    ∃ event ∈ events, event.panicked = true := by
  unfold Entry.panicked at panicked
  split at panicked
  · next m misused => exact ⟨_, reported _ misused, rfl⟩
  · cases panicked

/-- The steps of a body were played, as far as it came. -/
theorem runAll_played (template : String) (position : Nat) (steps : List Step) (f : Frame σ)
    (more : Nat) :
    let d := (Step.runAll nesting template position steps f).drive more
    ∃ history whole, Played nesting steps f history d.state whole ∧
      (d.outcome? = some (.ok ()) → whole = true) ∧
      ∀ e ∈ history, e.panicked = true → ∃ event ∈ d.events, event.panicked = true := by
  induction steps generalizing position f more with
  | nil => exact ⟨[], true, .all f, fun _ => rfl, fun _ member => nomatch member⟩
  | cons step rest ih =>
    intro d
    rcases Run.drive_bind_cases (step.run nesting template position f)
      (fun _ f => Step.runAll nesting template (position + 1) rest f) more with
      ⟨_, later, value, events, state, outcome⟩ | ⟨-, halted, events, state⟩
    · have left : d.state = _ := state
      have ended : d.outcome? = _ := outcome
      have shown : d.events = _ := events
      rw [left, ended, shown]
      cases skipped : step.isSkipped f.pass with
      | true =>
        rw [step.run_skipped template position f skipped]
        obtain ⟨history, whole, played, ends, reports⟩ := ih (position + 1) f later
        refine ⟨history, whole, .skip skipped played, ends, fun e member panicked => ?_⟩
        obtain ⟨event, seen, bad⟩ := reports e member panicked
        exact ⟨event, List.mem_append_right _ seen, bad⟩
      | false =>
        obtain ⟨stays, -, seen, goes⟩ := step.drive_run nesting template position f more skipped
        rw [stays]
        obtain ⟨history, whole, played, ends, reports⟩ := ih (position + 1)
          ((step.call.perform nesting f).drive more).state later
        refine ⟨step.call.entry nesting more f :: history, whole,
          .call more skipped (goes.mp value) played, ends, fun e member panicked => ?_⟩
        have either : ∃ event, (event ∈ ((step.run nesting template position f).drive more).events ∨
            event ∈ ((Step.runAll nesting template (position + 1) rest
              ((step.call.perform nesting f).drive more).state).drive later).events) ∧
            event.panicked = true := by
          rcases List.mem_cons.mp member with rfl | member
          · obtain ⟨event, here, bad⟩ := panicked_reported seen panicked
            exact ⟨event, .inl here, bad⟩
          · obtain ⟨event, here, bad⟩ := reports e member panicked
            exact ⟨event, .inr here, bad⟩
        obtain ⟨event, here, bad⟩ := either
        exact ⟨event, List.mem_append.mpr here, bad⟩
    · have left : d.state = _ := state
      have shown : d.events = _ := events
      have unfinished : d.outcome? ≠ some (.ok ()) := halted ()
      rw [left, shown]
      cases skipped : step.isSkipped f.pass with
      | true =>
        rw [step.run_skipped template position f skipped]
        exact ⟨[], false, .stop _ f, fun ok => absurd ok unfinished,
          fun _ member => nomatch member⟩
      | false =>
        obtain ⟨stays, -, seen, -⟩ := step.drive_run nesting template position f more skipped
        rw [stays]
        refine ⟨[step.call.entry nesting more f], false, .last more skipped,
          fun ok => absurd ok unfinished, fun e member panicked => ?_⟩
        obtain rfl := List.mem_singleton.mp member
        exact panicked_reported seen panicked

end Step

theorem Pass.unfinished?_isOk {p : Pass} {reason : Outcome Unit}
    (unfinished : p.unfinished? = some reason) : reason.isOk = false := by
  unfold Pass.unfinished? at unfinished
  split at unfinished
  · cases unfinished
    rfl
  · cases unfinished
    rfl
  · split at unfinished
    · split at unfinished
      · cases unfinished
        rfl
      · cases unfinished
    · cases unfinished

/-- The pass is left as it is when it is finished. -/
theorem Frame.drive_finish (f : Frame σ) (more : Nat) :
    let d := (Frame.finish f).drive more
    d.state = f ∧ ∀ next?, d.outcome? = some (.ok next?) →
      f.pass.unfinished? = none ∧ next? = f.pass.next? := by
  intro d
  unfold d Frame.finish
  rw [Action.read_bind]
  cases unfinished : f.pass.unfinished? with
  | some reason =>
    have halted := Pass.unfinished?_isOk unfinished
    refine ⟨rfl, fun next? value => ?_⟩
    cases reason with
    | ok _ => cases halted
    | failed e => cases value
    | misused m => cases value
    | tooDeep => cases value
  | none =>
    dsimp only
    split
    · exact ⟨rfl, fun next? value => by cases value; exact ⟨rfl, rfl⟩⟩
    · exact ⟨rfl, fun next? value => by cases value; exact ⟨rfl, rfl⟩⟩

/-- A pass plays its body; if it ends with a value it played all of it, and could be finished. -/
theorem Catalog.pass_played [Destination σ] (catalog : Catalog) (depth : Nat) (body : Body)
    (f : Frame σ) (more : Nat) :
    let d := (catalog.pass depth body f).drive more
    ∃ history whole,
      Step.Played (catalog.nesting depth) body.steps f history d.state whole ∧
      (∀ next?, d.outcome? = some (.ok next?) →
        whole = true ∧ d.state.pass.unfinished? = none ∧ next? = d.state.pass.next?) ∧
      ∀ e ∈ history, e.panicked = true → ∃ event ∈ d.events, event.panicked = true := by
  intro d
  obtain ⟨history, whole, played, ends, reports⟩ :=
    Step.runAll_played body.name 0 body.steps f more
  rcases Run.drive_bind_cases (body.run (catalog.nesting depth) f)
    (fun _ f => Frame.finish f) more with
    ⟨_, later, value, events, state, outcome⟩ | ⟨-, halted, events, state⟩
  · obtain ⟨stays, finishes⟩ :=
      Frame.drive_finish ((body.run (catalog.nesting depth) f).drive more).state later
    have left : d.state = _ := state.trans stays
    refine ⟨history, whole, left ▸ played, fun next? ended => ⟨ends value, ?_⟩, ?_⟩
    · rw [left]
      exact finishes next? (outcome ▸ ended)
    · intro e member panicked
      obtain ⟨event, seen, bad⟩ := reports e member panicked
      have shown : d.events = _ := events
      exact ⟨event, shown ▸ List.mem_append_left _ seen, bad⟩
  · have left : d.state = _ := state
    have shown : d.events = _ := events
    refine ⟨history, whole, left ▸ played, fun next? ended => absurd ended (halted next?), ?_⟩
    rw [shown]
    exact reports

end Templating
