import Templating.Proofs.RunStates
import Templating.Render

/-!
# Polls

What a run shows at each of its polls. A run that never waits ends in its first poll, and what is
bound to a run and never waits happens within the poll that brought the value (`drive_bind`). A run
that is cancelled at some poll shows up to then what it shows when nobody cancels it, and nothing
of its own in that poll (`drive_untilCancelled_some`); it cancels itself likewise, at the poll
after the first in which it waits cancelled (`drive_untilCancelled_waiting`).
-/

namespace Templating

variable {σ τ α β : Type}

namespace Driven

/-- At the next poll the run is cancelled. -/
def cancel (d : Driven σ α) : Driven σ α :=
  { d with polls := d.polls + 1, outcome? := some (.failed .cancelled) }

/-- What closes a run when it has ended, within its last poll. -/
def closed (d : Driven σ α) (close : Outcome α → σ → Driven σ β) : Driven σ β :=
  match d.outcome? with
  | some o =>
    let last := close o d.state
    { last with events := d.events ++ last.events, polls := d.polls }
  | none => { d with outcome? := none }

theorem closed_note (d : Driven σ α) (close : Outcome α → σ → Driven σ β) (e : Event) :
    { d with events := e :: d.events }.closed close =
      { d.closed close with events := e :: (d.closed close).events } := by
  unfold closed
  cases d.outcome? <;> rfl

end Driven

namespace Run

theorem firstPoll_eq_self {r : Run σ α} (unwaiting : r.pauses = []) : r.firstPoll = r := by
  induction r with
  | done o s => rfl
  | note e rest ih => exact congrArg (note e) (ih unwaiting)
  | pause s rest ih => cases unwaiting
  | stalled s => cases unwaiting

/-- The first poll leaves what the run shows in its first poll. -/
theorem firstPoll_state (r : Run σ α) (more : Nat) :
    (r.firstPoll.drive more).state = (r.drive 0).state := by
  induction r with
  | done o s => rfl
  | note e rest ih => exact ih
  | pause s rest ih => rfl
  | stalled s => rfl

/-- A run that never waits is through after one poll. -/
theorem drive_eq_await {r : Run σ α} (unwaiting : r.pauses = []) (more : Nat) :
    r.drive more = r.await := by
  induction r with
  | done o s => rfl
  | note e rest ih => simp only [drive, await, ih unwaiting]
  | pause s rest ih => cases unwaiting
  | stalled s => cases unwaiting

/-- A run that has ended was polled to its end. -/
theorem await_of_ended {r : Run σ α} {more : Nat} (ended : (r.drive more).outcome? ≠ none) :
    r.await = r.drive more := by
  induction r generalizing more with
  | done o s => rfl
  | note e rest ih => simp only [drive, await, ih ended]
  | pause s rest ih =>
    cases more with
    | zero => exact absurd rfl ended
    | succ more => simp only [drive, await, ih () ended]
  | stalled s => exact absurd rfl ended

/-- Waiting for the end of a run is polling it often enough. -/
theorem exists_drive_await (r : Run σ α) :
    ∃ more, (r.drive more).state = r.await.state ∧ (r.drive more).outcome? = r.await.outcome? := by
  induction r with
  | done o s => exact ⟨0, rfl, rfl⟩
  | note e rest ih => exact ih
  | pause s rest ih =>
    obtain ⟨more, same⟩ := ih ()
    exact ⟨more + 1, same⟩
  | stalled s => exact ⟨0, rfl, rfl⟩

theorem await_polls {r : Run σ α} (unwaiting : r.pauses = []) : r.await.polls = 1 := by
  induction r with
  | done o s => rfl
  | note e rest ih => exact ih unwaiting
  | pause s rest ih => cases unwaiting
  | stalled s => cases unwaiting

theorem await_ends {r : Run σ α} (unwaiting : r.pauses = []) : r.await.outcome? ≠ none := by
  induction r with
  | done o s => exact Option.some_ne_none o
  | note e rest ih => exact ih unwaiting
  | pause s rest ih => cases unwaiting
  | stalled s => cases unwaiting

theorem pauses_recast (r : Run σ α) (project : σ → τ) (conclude : Outcome α → σ → Outcome β) :
    (r.recast project conclude).pauses = r.pauses.map project := by
  induction r with
  | done o s => rfl
  | note e rest ih => exact ih
  | pause s rest ih => simp only [recast, pauses, ih (), List.map_cons]
  | stalled s => rfl

theorem pauses_bind {r : Run σ α} {k : α → σ → Run σ β} (unwaiting : r.pauses = [])
    (later : ∀ a s, (k a s).pauses = []) : (r.bind k).pauses = [] := by
  induction r with
  | done o s =>
    cases o with
    | ok a => exact later a s
    | _ => rfl
  | note e rest ih => exact ih unwaiting
  | pause s rest ih => cases unwaiting
  | stalled s => cases unwaiting

/-- A run that goes on after a value without waiting goes on within the poll of the value. -/
theorem drive_bind (r : Run σ α) {k : α → σ → Run σ β} (unwaiting : ∀ a s, (k a s).pauses = [])
    (more : Nat) :
    (r.bind k).drive more = (r.drive more).closed fun o s => ((done o s).bind k).await := by
  induction r generalizing more with
  | done o s =>
    have quiet : ((done o s).bind k).pauses = [] := by
      cases o with
      | ok a => exact unwaiting a s
      | _ => rfl
    have once : ((done o s).bind k).await.polls = 1 := await_polls quiet
    rw [drive_eq_await quiet]
    simp [drive, Driven.closed, ← once]
  | note e rest ih =>
    simp only [bind, drive, ih more]
    exact (Driven.closed_note _ _ e).symm
  | pause s rest ih =>
    cases more with
    | zero => rfl
    | succ more =>
      simp only [bind, drive, ih () more]
      unfold Driven.closed
      cases ((rest ()).drive more).outcome? <;> rfl
  | stalled s => rfl

/-- The same of what goes on after any end of the run. -/
theorem drive_attempt_bind (r : Run σ α) {k : Outcome α → σ → Run σ β}
    (unwaiting : ∀ o s, (k o s).pauses = []) (more : Nat) :
    ((r.recast id fun o _ => .ok o).bind k).drive more =
      (r.drive more).closed fun o s => (k o s).await := by
  rw [drive_bind _ unwaiting, drive_recast]
  unfold Driven.closed
  cases (r.drive more).outcome? <;> rfl

/-- A run that has not ended was polled as often as it could be. -/
theorem drive_polls {r : Run σ α} {more : Nat} (unfinished : (r.drive more).outcome? = none) :
    (r.drive more).polls = more + 1 := by
  induction r generalizing more with
  | done o s => cases unfinished
  | note e rest ih => exact ih unfinished
  | pause s rest ih =>
    cases more with
    | zero => rfl
    | succ more => exact congrArg (· + 1) (ih () unfinished)
  | stalled s => rfl

theorem drive_polls_pos (r : Run σ α) (more : Nat) : 0 < (r.drive more).polls := by
  induction r generalizing more with
  | done o s => exact Nat.one_pos
  | note e rest ih => exact ih more
  | pause s rest ih =>
    cases more with
    | zero => exact Nat.one_pos
    | succ more => exact Nat.succ_pos _
  | stalled s => exact Nat.succ_pos _

/-- A run ends at one poll, and is under way at all earlier ones. -/
theorem drive_eq_none_iff {r : Run σ α} {last : Nat} (ended : (r.drive last).outcome? ≠ none)
    (more : Nat) : (r.drive more).outcome? = none ↔ more + 1 < (r.drive last).polls := by
  induction r generalizing last more with
  | done o s => simp [drive]
  | note e rest ih => exact ih ended more
  | pause s rest ih =>
    cases last with
    | zero => exact absurd rfl ended
    | succ last =>
      have later := @ih () last ended
      have positive := (rest ()).drive_polls_pos last
      cases more with
      | zero => simpa [drive] using positive
      | succ more =>
        simp only [drive]
        rw [later more]
        omega
  | stalled s => exact absurd rfl ended

section Cancellation

variable (cancelled : σ → Bool)

/-- A run that never waits cancelled ends as it does when nobody asks whether it is cancelled. -/
theorem untilCancelled_eq_self {r : Run σ α} (calm : ∀ s ∈ r.pauses, cancelled s = false) :
    r.untilCancelled cancelled none = r := by
  induction r with
  | done o s => rfl
  | note e rest ih => exact congrArg (note e) (ih calm)
  | pause s rest ih =>
    have here : cancelled s = false := calm s (List.mem_cons_self ..)
    have later := ih () fun t member => calm t (List.mem_cons_of_mem s member)
    simp [untilCancelled, here, later]
  | stalled s =>
    have here : cancelled s = false := calm s (List.mem_cons_self ..)
    rw [untilCancelled_stalled, here]
    rfl

/-- The poll after the one in which a run waits cancelled. -/
theorem drive_idle (s : σ) (polls more : Nat) :
    ((idle s polls : Run σ α)).drive more =
      if more ≤ polls then ⟨[], more + 1, s, none⟩
      else ⟨[], polls + 2, s, some (.failed .cancelled)⟩ := by
  induction polls generalizing more with
  | zero =>
    cases more with
    | zero => rfl
    | succ more => rfl
  | succ polls ih =>
    cases more with
    | zero => rfl
    | succ more =>
      simp only [idle, drive, ih more, Nat.add_le_add_iff_right]
      split <;> rfl

theorem untilCancelled_pause {s : σ} (calm : cancelled s = false) (allowed : Option Nat)
    (goesOn : allowed ≠ some 0) (rest : Unit → Run σ α) :
    (pause s rest).untilCancelled cancelled allowed =
      pause s fun _ => (rest ()).untilCancelled cancelled (allowed.map (· - 1)) := by
  simp [untilCancelled, calm, goesOn]

/-- A run that waits cancelled ends at the next poll, whatever the caller does later. -/
theorem untilCancelled_pause_fired {s : σ} (fired : cancelled s = true) (allowed : Option Nat)
    (rest : Unit → Run σ α) :
    (pause s rest).untilCancelled cancelled allowed = idle s 0 := by
  simp [untilCancelled, fired, idle]

theorem untilCancelled_stalled_fired {s : σ} (fired : cancelled s = true) (allowed : Option Nat) :
    (stalled s : Run σ α).untilCancelled cancelled allowed = idle s 0 := by
  rw [untilCancelled_stalled, if_pos fired]

/-- However it is cancelled, the run shows what it shows by itself after some number of polls, or is
cancelled at the poll after these. -/
theorem drive_untilCancelled_ran (allowed : Option Nat) (r : Run σ α) (more : Nat) :
    ∃ ran ≤ more, (r.untilCancelled cancelled allowed).drive more = r.drive ran ∨
      (r.drive ran).outcome? = none ∧
        (r.untilCancelled cancelled allowed).drive more = (r.drive ran).cancel := by
  have waits : ∀ (s : σ) (polls more : Nat), ∃ ran ≤ more,
      ((idle s polls : Run σ α)).drive more = (stalled s : Run σ α).drive ran ∨
        ((stalled s : Run σ α).drive ran).outcome? = none ∧
          (idle s polls).drive more = ((stalled s : Run σ α).drive ran).cancel := by
    intro s polls more
    rw [drive_idle]
    split
    · exact ⟨more, Nat.le_refl _, .inl rfl⟩
    · next fewer => exact ⟨polls, Nat.le_of_not_le fewer, .inr ⟨rfl, rfl⟩⟩
  induction r generalizing allowed more with
  | done o s => exact ⟨more, Nat.le_refl _, .inl rfl⟩
  | note e rest ih =>
    obtain ⟨ran, le, shown | ⟨unfinished, shown⟩⟩ := ih allowed more
    · exact ⟨ran, le, .inl (by simp only [untilCancelled, drive, shown])⟩
    · exact ⟨ran, le, .inr ⟨unfinished, by simp only [untilCancelled, drive, shown]; rfl⟩⟩
  | pause s rest ih =>
    cases more with
    | zero => exact ⟨0, Nat.le_refl _, .inl rfl⟩
    | succ more =>
      simp only [untilCancelled, drive]
      split
      · exact ⟨0, Nat.zero_le _, .inr ⟨rfl, rfl⟩⟩
      · obtain ⟨ran, le, shown | ⟨unfinished, shown⟩⟩ := ih () (allowed.map (· - 1)) more
        · exact ⟨ran + 1, Nat.succ_le_succ le, .inl (by rw [shown]; rfl)⟩
        · exact ⟨ran + 1, Nat.succ_le_succ le, .inr ⟨unfinished, by rw [shown]; rfl⟩⟩
  | stalled s =>
    rw [untilCancelled_stalled]
    split
    · exact waits s 0 more
    · cases allowed with
      | none => exact ⟨more, Nat.le_refl _, .inl rfl⟩
      | some polls => exact waits s polls more

/-- The caller cancels once `allowed` more polls have started: up to then, and if the run has ended
by then, it shows what it shows without that; else it is cancelled at the next poll. -/
theorem drive_untilCancelled_some (r : Run σ α) (allowed more : Nat) :
    let free := r.untilCancelled cancelled none
    (r.untilCancelled cancelled (some allowed)).drive more =
      if more ≤ allowed ∨ (free.drive allowed).outcome? ≠ none then free.drive more
      else (free.drive allowed).cancel := by
  -- a run that waits cancelled ends at the next poll, however many polls the caller allows
  have waits : ∀ (s : σ) (allowed more : Nat),
      ((idle s 0 : Run σ α)).drive more =
        if more ≤ allowed ∨ ((idle s 0 : Run σ α).drive allowed).outcome? ≠ none then
          (idle s 0).drive more
        else ((idle s 0).drive allowed).cancel := by
    intro s allowed more
    cases allowed with
    | zero => cases more <;> rfl
    | succ allowed => rw [if_pos (.inr (by simp [drive_idle]))]
  induction r generalizing allowed more with
  | done o s => simp [untilCancelled, drive]
  | note e rest ih =>
    simp only [untilCancelled, drive, ih allowed more]
    split <;> rfl
  | pause s rest ih =>
    cases fired : cancelled s with
    | true =>
      rw [untilCancelled_pause_fired cancelled fired, untilCancelled_pause_fired cancelled fired]
      exact waits s allowed more
    | false =>
      rw [untilCancelled_pause cancelled fired none (by simp)]
      cases allowed with
      | zero =>
        cases more with
        | zero => rfl
        | succ more => simp [untilCancelled, drive, Driven.cancel]
      | succ allowed =>
        rw [untilCancelled_pause cancelled fired (some (allowed + 1)) (by simp)]
        cases more with
        | zero => simp [drive]
        | succ more =>
          simp only [drive, Option.map_some, Option.map_none, Nat.add_sub_cancel,
            ih () allowed more, Nat.add_le_add_iff_right]
          split <;> rfl
  | stalled s =>
    cases fired : cancelled s with
    | true =>
      rw [untilCancelled_stalled_fired cancelled fired,
        untilCancelled_stalled_fired cancelled fired]
      exact waits s allowed more
    | false =>
      rw [untilCancelled_stalled, untilCancelled_stalled, fired]
      simp only [Bool.false_eq_true, if_false, drive_idle]
      simp [drive, Driven.cancel]

/-- As long as a run did not wait cancelled, asking whether it is cancelled makes no difference. -/
theorem drive_untilCancelled_calm {r : Run σ α} {more : Nat}
    (calm : ∀ earlier < more, cancelled (r.drive earlier).state = false) :
    (r.untilCancelled cancelled none).drive more = r.drive more := by
  induction r generalizing more with
  | done o s => rfl
  | note e rest ih => simp only [untilCancelled, drive, ih calm]
  | pause s rest ih =>
    cases more with
    | zero => rfl
    | succ more =>
      have here : cancelled s = false := calm 0 (Nat.succ_pos more)
      rw [untilCancelled_pause cancelled here none (by simp)]
      simp only [drive, Option.map_none]
      rw [ih () fun earlier lt => calm (earlier + 1) (Nat.succ_lt_succ lt)]
  | stalled s =>
    cases fired : cancelled s with
    | true =>
      cases more with
      | zero => rw [untilCancelled_stalled_fired cancelled fired]; rfl
      | succ more => exact absurd (fired.symm.trans (calm 0 (Nat.succ_pos more))) (by simp)
    | false => rw [untilCancelled_stalled, fired]; rfl

/-- A run that waits cancelled for the first time is ended by the next poll. -/
theorem drive_untilCancelled_waiting {r : Run σ α} {last : Nat}
    (calm : ∀ earlier < last, cancelled (r.drive earlier).state = false)
    (waiting : (r.drive last).outcome? = none) (fired : cancelled (r.drive last).state = true)
    {more : Nat} (lt : last < more) :
    (r.untilCancelled cancelled none).drive more = (r.drive last).cancel := by
  induction r generalizing last more with
  | done o s => cases waiting
  | note e rest ih =>
    simp only [untilCancelled, drive, ih calm waiting fired lt]
    rfl
  | pause s rest ih =>
    cases more with
    | zero => exact absurd lt (Nat.not_lt_zero last)
    | succ more =>
      cases last with
      | zero =>
        have here : cancelled s = true := fired
        rw [untilCancelled_pause_fired cancelled here]
        rfl
      | succ last =>
        have here : cancelled s = false := calm 0 (Nat.succ_pos last)
        rw [untilCancelled_pause cancelled here none (by simp)]
        have later := ih () (fun earlier lt => calm (earlier + 1) (Nat.succ_lt_succ lt)) waiting
          fired (Nat.lt_of_succ_lt_succ lt)
        simp only [drive, Option.map_none]
        rw [later]
        rfl
  | stalled s =>
    cases last with
    | zero =>
      have here : cancelled s = true := fired
      rw [untilCancelled_stalled_fired cancelled here, drive_idle, if_neg (by omega)]
      rfl
    | succ last => exact absurd (fired.symm.trans (calm 0 (Nat.succ_pos last))) (by simp)

end Cancellation

end Run

/-- What a task of its own leaves of itself. -/
theorem Task.drive_isolate (act : Action (Task σ) α) (polls : Nat) (s : σ) :
    let d := act.drive polls { sink := s }
    (Task.isolate act).drive polls s = ⟨d.events, d.polls, d.state.sink, d.outcome?⟩ := by
  cases polls with
  | zero => rfl
  | succ more =>
    refine (Run.drive_recast (act { sink := s }) Task.sink (fun o _ => o) more).trans ?_
    simp [Action.drive]

theorem Action.drive_untilCancelled_ran (cancelled : σ → Bool) (allowed : Option Nat)
    (act : Action σ α) (s : σ) (polls : Nat) :
    ∃ ran ≤ polls, (act.untilCancelled cancelled allowed).drive polls s = act.drive ran s ∨
      (act.drive ran s).outcome? = none ∧
        (act.untilCancelled cancelled allowed).drive polls s = (act.drive ran s).cancel := by
  cases polls with
  | zero => exact ⟨0, Nat.le_refl _, .inl rfl⟩
  | succ more =>
    by_cases atOnce : allowed = some 0
    · subst atOnce
      exact ⟨0, Nat.zero_le _, .inr ⟨rfl, rfl⟩⟩
    · obtain ⟨ran, le, shown⟩ :=
        Run.drive_untilCancelled_ran cancelled (allowed.map (· - 1)) (act s) more
      refine ⟨ran + 1, Nat.succ_le_succ le, ?_⟩
      simp only [drive, untilCancelled, if_neg atOnce]
      exact shown

/-- However a render is cancelled, it shows what its execution shows after some number of polls, or
is cancelled at the poll after these. -/
theorem Blueprint.drive_renderCancellable_ran [Destination σ] (catalog : Catalog) (depth : Nat)
    (b : Blueprint) (allowed : Option Nat) (polls : Nat) (sink : σ) :
    ∃ ran ≤ polls,
      let execution := (execute catalog depth b.config b.body none).drive ran { sink }
      let d := (b.renderCancellable catalog depth allowed).drive polls sink
      d.events = execution.events ∧ d.state = execution.state.sink ∧
        (d.polls = execution.polls ∧ d.outcome? = execution.outcome? ∨
          d.polls = execution.polls + 1 ∧ execution.outcome? = none ∧
            d.outcome? = some (.failed .cancelled)) := by
  let execution : Action (Task σ) Unit := execute catalog depth b.config b.body none
  obtain ⟨ran, le, shown⟩ := execution.drive_untilCancelled_ran Task.cancelled allowed
    ({ sink } : Task σ) polls
  have isolated : (b.renderCancellable catalog depth allowed).drive polls sink = _ :=
    Task.drive_isolate (execution.untilCancelled Task.cancelled allowed) polls sink
  refine ⟨ran, le, ?_⟩
  rw [isolated]
  rcases shown with same | ⟨unfinished, cancelled⟩
  · rw [same]
    exact ⟨rfl, rfl, .inl ⟨rfl, rfl⟩⟩
  · rw [cancelled]
    exact ⟨rfl, rfl, .inr ⟨rfl, unfinished, rfl⟩⟩

theorem Action.drive_unit (act : Action σ Unit) (s : σ) (more : Nat) :
    (act.unit s).drive more =
      { (act s).drive more with
        outcome? := ((act s).drive more).outcome?.map (·.map fun _ => Reply.unit) } := by
  have replied : (act.unit s).drive more = _ :=
    Run.drive_bind (act s) (k := fun _ s => .done (.ok Reply.unit) s) (fun _ _ => rfl) more
  rw [replied]
  unfold Driven.closed
  cases ((act s).drive more).outcome? with
  | none => rfl
  | some o => cases o <;> simp [Run.bind, Run.await, Outcome.map, Outcome.bind]

end Templating
