import Templating.Proofs.Polls

/-!
# Runs without their reports

`Run.silent` is a run without what it reports. What is left are its states at every place where it
waits and its end, which is all that a render can be told by from outside: runs that are the same
but for their reports show the same at every poll (`Run.drive_of_silent`), and go on alike.
-/

namespace Templating

variable {σ τ α β : Type}

namespace Run

/-- The run without its reports. -/
def silent : Run σ α → Run σ α
  | done o s => done o s
  | note _ rest => silent rest
  | pause s rest => pause s fun _ => silent (rest ())
  | stalled s => stalled s

theorem silent_bind (r : Run σ α) (k : α → σ → Run σ β) :
    (r.bind k).silent = r.silent.bind fun a s => (k a s).silent := by
  induction r with
  | done o s => cases o <;> rfl
  | note e rest ih => exact ih
  | pause s rest ih => exact congrArg (pause s) (funext fun _ => ih ())
  | stalled s => rfl

theorem silent_recast (r : Run σ α) (project : σ → τ) (conclude : Outcome α → σ → Outcome β) :
    (r.recast project conclude).silent = r.silent.recast project conclude := by
  induction r with
  | done o s => rfl
  | note e rest ih => exact ih
  | pause s rest ih => exact congrArg (pause (project s)) (funext fun _ => ih ())
  | stalled s => rfl

theorem silent_idle (s : σ) (polls : Nat) : (idle s polls : Run σ α).silent = idle s polls := by
  induction polls with
  | zero => rfl
  | succ polls ih => exact congrArg (pause s) (funext fun _ => ih)

theorem silent_untilCancelled (cancelled : σ → Bool) (allowed : Option Nat) (r : Run σ α) :
    (r.untilCancelled cancelled allowed).silent = r.silent.untilCancelled cancelled allowed := by
  induction r generalizing allowed with
  | done o s => rfl
  | note e rest ih => exact ih allowed
  | pause s rest ih =>
    refine congrArg (pause s) (funext fun _ => ?_)
    split
    · rfl
    · exact ih () _
  | stalled s =>
    rw [silent, untilCancelled_stalled]
    split
    · exact silent_idle s 0
    · cases allowed with
      | none => rfl
      | some polls => exact silent_idle s polls

/-- At every poll the run shows the same without its reports. -/
theorem drive_silent (r : Run σ α) (more : Nat) :
    r.silent.drive more = { r.drive more with events := [] } := by
  induction r generalizing more with
  | done o s => rfl
  | note e rest ih => exact ih more
  | pause s rest ih =>
    cases more with
    | zero => rfl
    | succ more =>
      exact congrArg (fun d : Driven σ α => { d with polls := d.polls + 1 }) (ih () more)
  | stalled s => rfl

/-- Runs that are the same but for their reports show the same at every poll. -/
theorem drive_of_silent {r q : Run σ α} (same : r.silent = q.silent) (more : Nat) :
    (r.drive more).state = (q.drive more).state ∧
      (r.drive more).outcome? = (q.drive more).outcome? ∧
      (r.drive more).polls = (q.drive more).polls := by
  have shown := drive_silent r more
  rw [same, drive_silent] at shown
  obtain ⟨-, polls, state, outcome⟩ := Driven.mk.inj shown
  exact ⟨state.symm, outcome.symm, polls.symm⟩

theorem await_silent (r : Run σ α) : r.silent.await = { r.await with events := [] } := by
  induction r with
  | done o s => rfl
  | note e rest ih => exact ih
  | pause s rest ih =>
    exact congrArg (fun d : Driven σ α => { d with polls := d.polls + 1 }) (ih ())
  | stalled s => rfl

@[simp] theorem silent_outcome (r : Run σ α) : r.silent.await.outcome? = r.await.outcome? := by
  rw [await_silent]

@[simp] theorem silent_state (r : Run σ α) : r.silent.await.state = r.await.state := by
  rw [await_silent]

/-- A run that never waits is its end, but for its reports. -/
theorem silent_eq_done {r : Run σ α} (unwaiting : r.pauses = []) :
    ∃ o, r.silent = .done o r.await.state := by
  induction r with
  | done o s => exact ⟨o, rfl⟩
  | note e rest ih => exact ih unwaiting
  | pause s rest ih => cases unwaiting
  | stalled s => cases unwaiting

theorem pauses_firstPoll (r : Run σ α) : r.firstPoll.pauses = [] := by
  induction r with
  | done o s => rfl
  | note e rest ih => exact ih
  | pause s rest ih => rfl
  | stalled s => rfl

/-- How a run goes on matters only for the values that it returns. -/
theorem bind_congr_of_returns {r : Run σ α} {k l : α → σ → Run σ β}
    (same : ∀ a s, r.Returns a s → k a s = l a s) : r.bind k = r.bind l := by
  induction r with
  | done o s =>
    cases o with
    | ok a => exact same a s ⟨rfl, rfl⟩
    | failed e => rfl
    | misused m => rfl
    | tooDeep => rfl
  | note e rest ih => exact congrArg (note e) (ih same)
  | pause s rest ih => exact congrArg (pause s) (funext fun _ => ih () same)
  | stalled s => rfl

theorem silent_returns (r : Run σ α) (a : α) (s : σ) : r.silent.Returns a s ↔ r.Returns a s := by
  unfold Returns
  rw [silent_outcome, silent_state]

/-- Runs that are the same but for their reports may be continued by such runs. -/
theorem silent_bind_congr {r q : Run σ α} {k l : α → σ → Run σ β} (same : r.silent = q.silent)
    (later : ∀ a s, r.Returns a s → (k a s).silent = (l a s).silent) :
    (r.bind k).silent = (q.bind l).silent := by
  rw [silent_bind, silent_bind, ← same]
  exact bind_congr_of_returns fun a s returned => later a s ((silent_returns r a s).mp returned)

end Run

end Templating
