import Templating.Run

/-!
# States of a run

What polling a run can show. `Visits P` holds of a run whose every visible state satisfies `P`:
where it waits, where it stalls and where it ends. `Returns a s` holds of a run that, polled to
its end, gives `a` in the state `s`. However a run is polled, the state it is left in is visited.
-/

namespace Templating

variable {σ τ α β : Type}

namespace Outcome

def isOk : Outcome α → Bool
  | ok _ => true
  | _ => false

end Outcome

namespace Run

/-- Every state that polling the run can show satisfies `P`. -/
def Visits (P : σ → Prop) : Run σ α → Prop
  | done _ s => P s
  | note _ rest => rest.Visits P
  | pause s rest => P s ∧ (rest ()).Visits P
  | stalled s => P s

/-- Polled to its end, the run gives `a` in the state `s`. -/
def Returns (r : Run σ α) (a : α) (s : σ) : Prop :=
  r.await.outcome? = some (.ok a) ∧ r.await.state = s

/-- A run that ends without a value ends the run it is continued by. -/
theorem bind_halted (k : α → σ → Run σ β) (o : Outcome α) (halted : o.isOk = false) :
    ∃ o' : Outcome β, o'.isOk = false ∧ ∀ s, (done o s).bind k = done o' s := by
  cases o with
  | ok a => cases halted
  | failed e => exact ⟨.failed e, rfl, fun _ => rfl⟩
  | misused m => exact ⟨.misused m, rfl, fun _ => rfl⟩
  | tooDeep => exact ⟨.tooDeep, rfl, fun _ => rfl⟩

theorem untilCancelled_stalled (cancelled : σ → Bool) (allowed : Option Nat) (s : σ) :
    (stalled s : Run σ α).untilCancelled cancelled allowed =
      if cancelled s then idle s 0
      else
        match allowed with
        | none => stalled s
        | some polls => idle s polls := by
  cases allowed <;> rfl

namespace Visits

variable {P Q : σ → Prop} {r : Run σ α}

theorem mono (imp : ∀ s, P s → Q s) (h : r.Visits P) : r.Visits Q := by
  induction r with
  | done o s => exact imp s h
  | note e rest ih => exact ih h
  | pause s rest ih => exact ⟨imp s h.1, ih () h.2⟩
  | stalled s => exact imp s h

theorem trivially (r : Run σ α) : r.Visits fun _ => True := by
  induction r with
  | done o s => trivial
  | note e rest ih => exact ih
  | pause s rest ih => exact ⟨trivial, ih ()⟩
  | stalled s => trivial

theorem bind {k : α → σ → Run σ β} (h : r.Visits P) (next : ∀ a s, P s → (k a s).Visits P) :
    (r.bind k).Visits P := by
  induction r with
  | done o s =>
    cases o with
    | ok a => exact next a s h
    | failed e => exact h
    | misused m => exact h
    | tooDeep => exact h
  | note e rest ih => exact ih h
  | pause s rest ih => exact ⟨h.1, ih () h.2⟩
  | stalled s => exact h

theorem recast {Q : τ → Prop} {project : σ → τ} {conclude : Outcome α → σ → Outcome β}
    (h : r.Visits P) (imp : ∀ s, P s → Q (project s)) : (r.recast project conclude).Visits Q := by
  induction r with
  | done o s => exact imp s h
  | note e rest ih => exact ih h
  | pause s rest ih => exact ⟨imp s h.1, ih () h.2⟩
  | stalled s => exact imp s h

theorem recast_const {Q : τ → Prop} {t : τ} (here : Q t) (r : Run σ α)
    (conclude : Outcome α → σ → Outcome β) : (r.recast (fun _ => t) conclude).Visits Q :=
  (trivially r).recast fun _ _ => here

theorem firstPoll (h : r.Visits P) : r.firstPoll.Visits P := by
  induction r with
  | done o s => exact h
  | note e rest ih => exact ih h
  | pause s rest ih => exact h.1
  | stalled s => exact h

theorem idle {s : σ} (h : P s) (polls : Nat) : (idle s polls : Run σ α).Visits P := by
  induction polls with
  | zero => exact ⟨h, h⟩
  | succ polls ih => exact ⟨h, ih⟩

theorem untilCancelled {cancelled : σ → Bool} {allowed : Option Nat} (h : r.Visits P) :
    (r.untilCancelled cancelled allowed).Visits P := by
  induction r generalizing allowed with
  | done o s => exact h
  | note e rest ih => exact ih h
  | pause s rest ih =>
    refine ⟨h.1, ?_⟩
    dsimp only
    split
    · exact h.1
    · exact ih () h.2
  | stalled s =>
    have here : P s := h
    rw [untilCancelled_stalled]
    split
    · exact idle here 0
    · cases allowed with
      | none => exact here
      | some polls => exact idle here polls

theorem await (h : r.Visits P) : P r.await.state := by
  induction r with
  | done o s => exact h
  | note e rest ih => exact ih h
  | pause s rest ih => exact ih () h.2
  | stalled s => exact h

theorem drive (h : r.Visits P) (more : Nat) : P (r.drive more).state := by
  induction r generalizing more with
  | done o s => exact h
  | note e rest ih => exact ih h more
  | pause s rest ih =>
    cases more with
    | zero => exact h.1
    | succ more => exact ih () h.2 more
  | stalled s => exact h

end Visits

theorem await_recast (r : Run σ α) (project : σ → τ) (conclude : Outcome α → σ → Outcome β) :
    (r.recast project conclude).await.state = project r.await.state ∧
      (r.recast project conclude).await.outcome? =
        r.await.outcome?.map fun o => conclude o r.await.state := by
  induction r with
  | done o s => exact ⟨rfl, rfl⟩
  | note e rest ih => exact ih
  | pause s rest ih => exact ih ()
  | stalled s => exact ⟨rfl, rfl⟩

/-- A run goes on after a value from where it was left; what does not give a value ends it. -/
theorem await_bind_state (r : Run σ α) (k : α → σ → Run σ β) :
    (r.bind k).await.state =
      match r.await.outcome? with
      | some (.ok a) => (k a r.await.state).await.state
      | _ => r.await.state := by
  induction r with
  | done o s => cases o <;> rfl
  | note e rest ih => exact ih
  | pause s rest ih => exact ih ()
  | stalled s => rfl

theorem returns_bind (r : Run σ α) (k : α → σ → Run σ β) (b : β) (t : σ) :
    (r.bind k).Returns b t ↔ ∃ a s, r.Returns a s ∧ (k a s).Returns b t := by
  induction r with
  | done o s =>
    cases o with
    | ok a =>
      constructor
      · exact fun h => ⟨a, s, ⟨rfl, rfl⟩, h⟩
      · rintro ⟨a', s', ⟨value, state⟩, h⟩
        cases value
        cases state
        exact h
    | failed e => simp [bind, Returns, await]
    | misused m => simp [bind, Returns, await]
    | tooDeep => simp [bind, Returns, await]
  | note e rest ih => exact ih
  | pause s rest ih => exact ih ()
  | stalled s => simp [bind, Returns, await]

theorem returns_done (o : Outcome α) (s : σ) (a : α) (t : σ) :
    (done o s).Returns a t ↔ o = .ok a ∧ s = t := by
  simp [Returns, await]

theorem not_returns_idle {s t : σ} {a : α} (polls : Nat) :
    ¬ (idle s polls : Run σ α).Returns a t := by
  induction polls with
  | zero => exact fun returned => nomatch returned.1
  | succ polls ih => exact ih

theorem returns_recast (r : Run σ α) (project : σ → τ) (a : α) (t : τ) :
    (r.recast project fun o _ => o).Returns a t ↔ ∃ s, r.Returns a s ∧ project s = t := by
  obtain ⟨state, outcome⟩ := await_recast r project fun o _ => o
  unfold Returns
  rw [state, outcome]
  constructor
  · rintro ⟨value, last⟩
    exact ⟨_, ⟨by simpa using value, rfl⟩, last⟩
  · rintro ⟨s, ⟨value, rfl⟩, last⟩
    exact ⟨by simp [value], last⟩

/-- An attempt gives the outcome, whatever it is. -/
theorem returns_attempt (r : Run σ α) (o : Outcome α) (s : σ) :
    (r.recast id fun o _ => (.ok o : Outcome (Outcome α))).Returns o s ↔
      r.await.outcome? = some o ∧ r.await.state = s := by
  obtain ⟨state, outcome⟩ := await_recast r id fun o _ => Outcome.ok o
  unfold Returns
  rw [state, outcome]
  simp

theorem Returns.of_firstPoll {r : Run σ α} {a : α} {s : σ} (returned : r.firstPoll.Returns a s) :
    r.Returns a s := by
  induction r with
  | done o s => exact returned
  | note e rest ih => exact ih returned
  | pause s rest ih => cases returned.1
  | stalled s => cases returned.1

theorem Returns.of_untilCancelled {cancelled : σ → Bool} {allowed : Option Nat} {r : Run σ α}
    {a : α} {s : σ} (returned : (r.untilCancelled cancelled allowed).Returns a s) :
    r.Returns a s := by
  induction r generalizing allowed with
  | done o s => exact returned
  | note e rest ih => exact ih returned
  | pause s rest ih =>
    unfold untilCancelled Returns at returned
    simp only [await] at returned
    split at returned
    · cases returned.1
    · exact ih () returned
  | stalled t =>
    rw [untilCancelled_stalled] at returned
    split at returned
    · exact absurd returned (not_returns_idle 0)
    · cases allowed with
      | none => exact returned
      | some polls => exact absurd returned (not_returns_idle polls)

/-- A value comes after some number of polls. -/
theorem Returns.drive {r : Run σ α} {a : α} {s : σ} (returned : r.Returns a s) :
    ∃ more, (r.drive more).outcome? = some (.ok a) ∧ (r.drive more).state = s := by
  induction r with
  | done o s => exact ⟨0, returned⟩
  | note e rest ih => exact ih returned
  | pause s rest ih =>
    obtain ⟨more, value, state⟩ := ih () returned
    exact ⟨more + 1, value, state⟩
  | stalled s => cases returned.1

theorem drive_recast (r : Run σ α) (project : σ → τ) (conclude : Outcome α → σ → Outcome β)
    (more : Nat) :
    (r.recast project conclude).drive more =
      { events := (r.drive more).events
        polls := (r.drive more).polls
        state := project (r.drive more).state
        outcome? := (r.drive more).outcome?.map fun o => conclude o (r.drive more).state } := by
  induction r generalizing more with
  | done o s => rfl
  | note e rest ih => simp only [recast, drive, ih more]
  | pause s rest ih =>
    cases more with
    | zero => rfl
    | succ more => simp only [recast, drive, ih () more]
  | stalled s => rfl

/-- Polled a limited number of times, a run that goes on after a value uses for that what polls
are left. -/
theorem drive_bind_state (r : Run σ α) (k : α → σ → Run σ β) (more : Nat) :
    ((r.bind k).drive more).state =
      match (r.drive more).outcome? with
      | some (.ok a) =>
        ((k a (r.drive more).state).drive (more + 1 - (r.drive more).polls)).state
      | _ => (r.drive more).state := by
  induction r generalizing more with
  | done o s => cases o <;> rfl
  | note e rest ih => exact ih more
  | pause s rest ih =>
    cases more with
    | zero => rfl
    | succ more =>
      have later := ih () more
      simp only [bind, drive, Nat.add_sub_add_right] at later ⊢
      exact later
  | stalled s => rfl

/-- Dropped after some polls, a run that goes on after a value was dropped after the value, or
before it came. -/
theorem drive_bind_cases (r : Run σ α) (k : α → σ → Run σ β) (more : Nat) :
    (∃ a later, (r.drive more).outcome? = some (.ok a) ∧
      ((r.bind k).drive more).events =
        (r.drive more).events ++ ((k a (r.drive more).state).drive later).events ∧
      ((r.bind k).drive more).state = ((k a (r.drive more).state).drive later).state ∧
      ((r.bind k).drive more).outcome? = ((k a (r.drive more).state).drive later).outcome?) ∨
    (∀ a, (r.drive more).outcome? ≠ some (.ok a)) ∧
      (∀ b, ((r.bind k).drive more).outcome? ≠ some (.ok b)) ∧
      ((r.bind k).drive more).events = (r.drive more).events ∧
      ((r.bind k).drive more).state = (r.drive more).state := by
  induction r generalizing more with
  | done o s =>
    cases o with
    | ok a => exact .inl ⟨a, more, rfl, rfl, rfl, rfl⟩
    | failed e => exact .inr ⟨fun _ ok => (nomatch ok), fun _ ok => (nomatch ok), rfl, rfl⟩
    | misused m => exact .inr ⟨fun _ ok => (nomatch ok), fun _ ok => (nomatch ok), rfl, rfl⟩
    | tooDeep => exact .inr ⟨fun _ ok => (nomatch ok), fun _ ok => (nomatch ok), rfl, rfl⟩
  | note e rest ih =>
    rcases ih more with ⟨a, later, value, events, state, outcome⟩ | ⟨first, halted, events, state⟩
    · exact .inl ⟨a, later, value, congrArg (e :: ·) events, state, outcome⟩
    · exact .inr ⟨first, halted, congrArg (e :: ·) events, state⟩
  | pause s rest ih =>
    cases more with
    | zero => exact .inr ⟨fun _ ok => (nomatch ok), fun _ ok => (nomatch ok), rfl, rfl⟩
    | succ more => exact ih () more
  | stalled s => exact .inr ⟨fun _ ok => (nomatch ok), fun _ ok => (nomatch ok), rfl, rfl⟩

end Run

namespace Action

@[simp] theorem read_bind (f : σ → α) (next : α → Action σ β) (s : σ) :
    (read f >>= next) s = next (f s) s := rfl

end Action

end Templating
