import Templating.Proofs.Completion

/-!
# Postconditions of runs

`Run.Visits` says the same of every state that a run shows. `Run.Ensures during post` tells them
apart: `during` holds wherever the run waits, and `post` of the outcome and the state that it ends
with. However a run is polled, it is found in one or the other.
-/

namespace Templating

variable {σ τ α β : Type}

namespace Run

/-- Every state that the run waits in satisfies `during`, and every end of it `post`. -/
def Ensures (during : σ → Prop) (post : Outcome α → σ → Prop) : Run σ α → Prop
  | done o s => post o s
  | note _ rest => rest.Ensures during post
  | pause s rest => during s ∧ (rest ()).Ensures during post
  | stalled s => during s

namespace Ensures

variable {during : σ → Prop} {post : Outcome α → σ → Prop} {r : Run σ α}

theorem of_visits {P : σ → Prop} (h : r.Visits P) (waits : ∀ s, P s → during s)
    (ends : ∀ o s, P s → post o s) : r.Ensures during post := by
  induction r with
  | done o s => exact ends o s h
  | note e rest ih => exact ih h
  | pause s rest ih => exact ⟨waits s h.1, ih () h.2⟩
  | stalled s => exact waits s h

theorem mono {during' : σ → Prop} {post' : Outcome α → σ → Prop} (h : r.Ensures during post)
    (waits : ∀ s, during s → during' s) (ends : ∀ o s, post o s → post' o s) :
    r.Ensures during' post' := by
  induction r with
  | done o s => exact ends o s h
  | note e rest ih => exact ih h
  | pause s rest ih => exact ⟨waits s h.1, ih () h.2⟩
  | stalled s => exact waits s h

theorem visits {P : σ → Prop} (h : r.Ensures during post) (waits : ∀ s, during s → P s)
    (ends : ∀ o s, post o s → P s) : r.Visits P := by
  induction r with
  | done o s => exact ends o s h
  | note e rest ih => exact ih h
  | pause s rest ih => exact ⟨waits s h.1, ih () h.2⟩
  | stalled s => exact waits s h

/-- A run that goes on after a value ends as what follows, or passes on what came instead. -/
theorem bind {k : α → σ → Run σ β} {post' : Outcome β → σ → Prop} (h : r.Ensures during post)
    (next : ∀ a s, post (.ok a) s → (k a s).Ensures during post')
    (halts : ∀ o s, post o s → ∀ o' : Outcome β, o.passOn? = some o' → post' o' s) :
    (r.bind k).Ensures during post' := by
  induction r with
  | done o s =>
    cases o with
    | ok a => exact next a s h
    | failed e => exact halts _ s h _ rfl
    | misused m => exact halts _ s h _ rfl
    | tooDeep => exact halts _ s h _ rfl
  | note e rest ih => exact ih h
  | pause s rest ih => exact ⟨h.1, ih () h.2⟩
  | stalled s => exact h

theorem recast {during' : τ → Prop} {post' : Outcome β → τ → Prop} {project : σ → τ}
    {conclude : Outcome α → σ → Outcome β} (h : r.Ensures during post)
    (waits : ∀ s, during s → during' (project s))
    (ends : ∀ o s, post o s → post' (conclude o s) (project s)) :
    (r.recast project conclude).Ensures during' post' := by
  induction r with
  | done o s => exact ends o s h
  | note e rest ih => exact ih h
  | pause s rest ih => exact ⟨waits s h.1, ih () h.2⟩
  | stalled s => exact waits s h

/-- What follows on every end of a run. -/
theorem attempt_bind {k : Outcome α → σ → Run σ β} {post' : Outcome β → σ → Prop}
    (h : r.Ensures during post) (next : ∀ o s, post o s → (k o s).Ensures during post') :
    ((r.recast id fun o _ => .ok o).bind k).Ensures during post' := by
  have attempted : (r.recast id fun o _ => (.ok o : Outcome (Outcome α))).Ensures during
      fun o s => ∃ end', o = .ok end' ∧ post end' s :=
    h.recast (fun _ waits => waits) fun o _ ends => ⟨o, rfl, ends⟩
  refine attempted.bind ?_ ?_
  · rintro o s ⟨o', same, ends⟩
    cases same
    exact next o s ends
  · rintro _ s ⟨o, rfl, ends⟩ o' passed
    cases passed

theorem firstPoll (h : r.Ensures during post)
    (givenUp : ∀ s, during s → post (.failed .nestedSuspended) s) :
    r.firstPoll.Ensures during post := by
  induction r with
  | done o s => exact h
  | note e rest ih => exact ih h
  | pause s rest ih => exact givenUp s h.1
  | stalled s => exact givenUp s h

theorem untilCancelled {cancelled : σ → Bool} {allowed : Option Nat} (h : r.Ensures during post)
    (stopped : ∀ s, during s → post (.failed .cancelled) s) :
    (r.untilCancelled cancelled allowed).Ensures during post := by
  induction r generalizing allowed with
  | done o s => exact h
  | note e rest ih => exact ih h
  | pause s rest ih =>
    refine ⟨h.1, ?_⟩
    dsimp only
    split
    · exact stopped s h.1
    · exact ih () h.2
  | stalled s =>
    have here : during s := h
    have idles : ∀ polls, (idle s polls : Run σ α).Ensures during post := by
      intro polls
      induction polls with
      | zero => exact ⟨here, stopped s here⟩
      | succ polls ih => exact ⟨here, ih⟩
    rw [untilCancelled_stalled]
    split
    · exact idles 0
    · cases allowed with
      | none => exact here
      | some polls => exact idles polls

/-- Polled a limited number of times a run has ended so, or it waits. -/
theorem drive (h : r.Ensures during post) (more : Nat) :
    (∀ o, (r.drive more).outcome? = some o → post o (r.drive more).state) ∧
      ((r.drive more).outcome? = none → during (r.drive more).state) := by
  induction r generalizing more with
  | done o s => exact ⟨fun _ ended => Option.some.inj ended ▸ h, nofun⟩
  | note e rest ih => exact ih h more
  | pause s rest ih =>
    cases more with
    | zero => exact ⟨nofun, fun _ => h.1⟩
    | succ more => exact ih () h.2 more
  | stalled s => exact ⟨nofun, fun _ => h⟩

end Ensures

end Run

end Templating
