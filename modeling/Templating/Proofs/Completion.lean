import Templating.Proofs.Polls

/-!
# Completed runs

A run that is polled to its end completes, unless it waits for ever. `Run.Completes o s` says that
it does, with the outcome `o` in the state `s`, and that every step of a body succeeded on the way;
how often it waits makes no difference. `Run.Gives o s` says that it comes there without waiting.
Both can be taken apart, and put together, along the combinators of runs.
-/

namespace Templating

variable {σ τ α β : Type}

/-- What is reported is not that a step failed. -/
def Event.succeeded : Event → Bool
  | .step _ _ outcome => outcome.isOk
  | .log _ => true

/-- What a run that would go on after a value passes on if there is none. -/
def Outcome.passOn? : Outcome α → Option (Outcome β)
  | ok _ => none
  | failed e => some (failed e)
  | misused m => some (misused m)
  | tooDeep => some tooDeep

theorem Outcome.not_isOk_of_passOn? {halted : Outcome α} {o : Outcome β}
    (passed : halted.passOn? = some o) : o.isOk = false := by
  cases halted <;> cases passed <;> rfl

namespace Run

/-- Polled to its end, the run comes to this outcome and state, and no step fails on the way. -/
def Completes : Run σ α → Outcome α → σ → Prop
  | done o s, o', s' => o = o' ∧ s = s'
  | note e rest, o', s' => e.succeeded = true ∧ rest.Completes o' s'
  | pause _ rest, o', s' => (rest ()).Completes o' s'
  | stalled _, _, _ => False

/-- The run comes to this outcome and state in its first poll. -/
def Gives : Run σ α → Outcome α → σ → Prop
  | done o s, o', s' => o = o' ∧ s = s'
  | note _ rest, o', s' => rest.Gives o' s'
  | pause _ _, _, _ => False
  | stalled _, _, _ => False

theorem completes_iff {r : Run σ α} {o : Outcome α} {s : σ} :
    r.Completes o s ↔ r.await.outcome? = some o ∧ r.await.state = s ∧
      ∀ e ∈ r.await.events, e.succeeded = true := by
  induction r with
  | done o' s' => simp [Completes, await]
  | note e rest ih =>
    simp only [Completes, await, ih, List.mem_cons, forall_eq_or_imp]
    constructor
    · rintro ⟨here, outcome, state, later⟩
      exact ⟨outcome, state, here, later⟩
    · rintro ⟨outcome, state, here, later⟩
      exact ⟨here, outcome, state, later⟩
  | pause s' rest ih => exact ih ()
  | stalled s' => simp [Completes, await]

theorem gives_iff {r : Run σ α} {o : Outcome α} {s : σ} :
    r.Gives o s ↔ r.pauses = [] ∧ r.await.outcome? = some o ∧ r.await.state = s := by
  induction r with
  | done o' s' => simp [Gives, await, pauses]
  | note e rest ih => exact ih
  | pause s' rest ih => simp [Gives, pauses]
  | stalled s' => simp [Gives, pauses]

namespace Completes

variable {r : Run σ α} {s : σ}

/-- A run that goes on completes after a value, or passes on what came instead. -/
theorem of_bind {k : α → σ → Run σ β} {o : Outcome β} (completes : (r.bind k).Completes o s) :
    (∃ a t, r.Completes (.ok a) t ∧ (k a t).Completes o s) ∨
      ∃ halted : Outcome α, r.Completes halted s ∧ halted.passOn? = some o := by
  induction r with
  | done o' s' =>
    cases o' with
    | ok a => exact .inl ⟨a, s', ⟨rfl, rfl⟩, completes⟩
    | failed e =>
      obtain ⟨rfl, rfl⟩ := completes
      exact .inr ⟨.failed e, ⟨rfl, rfl⟩, rfl⟩
    | misused m =>
      obtain ⟨rfl, rfl⟩ := completes
      exact .inr ⟨.misused m, ⟨rfl, rfl⟩, rfl⟩
    | tooDeep =>
      obtain ⟨rfl, rfl⟩ := completes
      exact .inr ⟨.tooDeep, ⟨rfl, rfl⟩, rfl⟩
  | note e rest ih =>
    rcases ih completes.2 with ⟨a, t, value, later⟩ | ⟨halted, whole, passed⟩
    · exact .inl ⟨a, t, ⟨completes.1, value⟩, later⟩
    · exact .inr ⟨halted, ⟨completes.1, whole⟩, passed⟩
  | pause s' rest ih => exact ih () completes
  | stalled s' => exact completes.elim

theorem of_recast {project : σ → τ} {conclude : Outcome α → σ → Outcome β} {o : Outcome β}
    {t : τ} (completes : (r.recast project conclude).Completes o t) :
    ∃ o' s, r.Completes o' s ∧ conclude o' s = o ∧ project s = t := by
  induction r with
  | done o' s' => exact ⟨o', s', ⟨rfl, rfl⟩, completes⟩
  | note e rest ih =>
    obtain ⟨o', s, value, ended⟩ := ih completes.2
    exact ⟨o', s, ⟨completes.1, value⟩, ended⟩
  | pause s' rest ih => exact ih () completes
  | stalled s' => exact completes.elim

/-- A value that comes in the first poll is the value of the run. -/
theorem of_firstPoll {a : α} (completes : r.firstPoll.Completes (.ok a) s) :
    r.Completes (.ok a) s := by
  induction r with
  | done o' s' => exact completes
  | note e rest ih => exact ⟨completes.1, ih completes.2⟩
  | pause s' rest ih => exact nomatch completes.1
  | stalled s' => exact nomatch completes.1

end Completes

namespace Gives

variable {r : Run σ α} {s : σ}

theorem bind {k : α → σ → Run σ β} {a : α} {o : Outcome β} {t : σ} (gives : r.Gives (.ok a) s)
    (later : (k a s).Gives o t) : (r.bind k).Gives o t := by
  induction r with
  | done o' s' =>
    obtain ⟨rfl, rfl⟩ := gives
    exact later
  | note e rest ih => exact ih gives
  | pause s' rest ih => exact gives.elim
  | stalled s' => exact gives.elim

theorem bind_passOn {k : α → σ → Run σ β} {halted : Outcome α} {o : Outcome β}
    (gives : r.Gives halted s) (passed : halted.passOn? = some o) : (r.bind k).Gives o s := by
  induction r with
  | done o' s' =>
    obtain ⟨rfl, rfl⟩ := gives
    cases o' <;> cases passed <;> exact ⟨rfl, rfl⟩
  | note e rest ih => exact ih gives
  | pause s' rest ih => exact gives.elim
  | stalled s' => exact gives.elim

theorem recast {project : σ → τ} {conclude : Outcome α → σ → Outcome β} {o : Outcome α}
    (gives : r.Gives o s) : (r.recast project conclude).Gives (conclude o s) (project s) := by
  induction r with
  | done o' s' =>
    obtain ⟨rfl, rfl⟩ := gives
    exact ⟨rfl, rfl⟩
  | note e rest ih => exact ih gives
  | pause s' rest ih => exact gives.elim
  | stalled s' => exact gives.elim

theorem firstPoll {o : Outcome α} (gives : r.Gives o s) : r.firstPoll.Gives o s := by
  rwa [firstPoll_eq_self (gives_iff.mp gives).1]

end Gives

end Run

end Templating
