import Templating.Proofs.Coupling
import Templating.Proofs.SilentRuns

/-!
# Paired runs

Two runs are paired if they wait alike, in states of which `during` holds, and end together, with
outcomes and states of which `post` holds. What the one ends with may be any other thing than what
the other ends with, as far as `post` allows, and what they report is left out. Where `post` speaks
of the outcome, it may say less of runs that fail.
-/

namespace Templating

variable {σ τ σ' τ' α β α' β' : Type}

namespace Run

inductive Paired (during : σ → τ → Prop) (post : Outcome α → Outcome β → σ → τ → Prop) :
    Run σ α → Run τ β → Prop
  | done {o : Outcome α} {o' : Outcome β} {s : σ} {t : τ} (ends : post o o' s t) :
      Paired during post (.done o s) (.done o' t)
  | noteLeft (e : Event) {r : Run σ α} {q : Run τ β} (rest : Paired during post r q) :
      Paired during post (.note e r) q
  | noteRight (e : Event) {r : Run σ α} {q : Run τ β} (rest : Paired during post r q) :
      Paired during post r (.note e q)
  | pause {s : σ} {t : τ} {r : Unit → Run σ α} {q : Unit → Run τ β} (waits : during s t)
      (rest : Paired during post (r ()) (q ())) : Paired during post (.pause s r) (.pause t q)
  | stalled {s : σ} {t : τ} (waits : during s t) : Paired during post (.stalled s) (.stalled t)

/-- The outcomes are the same, and the states belong together. -/
def Together (now : σ → τ → Prop) (o o' : Outcome α) (s : σ) (t : τ) : Prop :=
  o = o' ∧ now s t

/-- The outcomes are the same, and so are the states if they are values. -/
def Delivered (o o' : Outcome α) (s t : σ) : Prop :=
  o' = o ∧ (o.isOk = true → t = s)

end Run

/-- The caller saw two runs of which the one succeeds as the other, and leaves then the same. -/
structure Driven.SameDelivery (d d' : Driven σ α) : Prop where
  polls : d'.polls = d.polls
  outcome : d'.outcome? = d.outcome?
  state : ∀ a, d.outcome? = some (.ok a) → d'.state = d.state

namespace Run

namespace Paired

variable {during : σ → τ → Prop} {post : Outcome α → Outcome β → σ → τ → Prop}
  {r : Run σ α} {q : Run τ β}

theorem mono {during' : σ → τ → Prop} {post' : Outcome α → Outcome β → σ → τ → Prop}
    (h : r.Paired during post q) (waits : ∀ s t, during s t → during' s t)
    (ends : ∀ o o' s t, post o o' s t → post' o o' s t) : r.Paired during' post' q := by
  induction h with
  | done here => exact .done (ends _ _ _ _ here)
  | noteLeft e rest ih => exact .noteLeft e ih
  | noteRight e rest ih => exact .noteRight e ih
  | pause here rest ih => exact .pause (waits _ _ here) ih
  | stalled here => exact .stalled (waits _ _ here)

theorem of_follows {c : Coupling σ τ} (lossless : ¬ c.lossy) {r : Run σ α} {q : Run τ α}
    (h : r.Follows c q) : r.Paired c.now (Together c.now) q := by
  induction h with
  | done o same => exact .done ⟨rfl, same⟩
  | noteLeft e rest ih => exact .noteLeft e ih
  | noteRight e rest ih => exact .noteRight e ih
  | pause same later rest ih => exact .pause same ih
  | stalled same => exact .stalled same
  | halt lossy => exact absurd lossy lossless
  | wait slow => exact absurd (c.slow_lossy slow) lossless
  | hang slow => exact absurd (c.slow_lossy slow) lossless

/-- Runs that end at once but for their reports. -/
theorem of_silent {o : Outcome α} {o' : Outcome β} {s : σ} {t : τ} (ended : r.silent = .done o s)
    (ended' : q.silent = .done o' t) (ends : post o o' s t) : r.Paired during post q := by
  induction r with
  | done _ _ =>
    cases ended
    induction q with
    | done _ _ =>
      cases ended'
      exact .done ends
    | note e rest ih => exact .noteRight e (ih ended')
    | pause _ _ => cases ended'
    | stalled _ => cases ended'
  | note e rest ih => exact .noteLeft e (ih ended)
  | pause _ _ => cases ended
  | stalled _ => cases ended

/-- The outcome and the state that the first run ends with are what some number of polls shows. -/
theorem reached (h : r.Paired during post q) :
    r.Paired during (fun o o' s t => post o o' s t ∧
      ∃ more, (r.drive more).outcome? = some o ∧ (r.drive more).state = s) q := by
  induction h with
  | done ends => exact .done ⟨ends, 0, rfl, rfl⟩
  | noteLeft e rest ih => exact .noteLeft e ih
  | noteRight e rest ih => exact .noteRight e ih
  | pause waits rest ih =>
    refine .pause waits (ih.mono (fun _ _ here => here) ?_)
    rintro o o' s t ⟨ends, more, outcome, state⟩
    exact ⟨ends, more + 1, outcome, state⟩
  | stalled waits => exact .stalled waits

theorem bind {post' : Outcome α' → Outcome β' → σ → τ → Prop} {k : α → σ → Run σ α'}
    {l : β → τ → Run τ β'} (h : r.Paired during post q)
    (next : ∀ o o' s t, post o o' s t →
      ((Run.done o s).bind k).Paired during post' ((Run.done o' t).bind l)) :
    (r.bind k).Paired during post' (q.bind l) := by
  induction h with
  | done ends => exact next _ _ _ _ ends
  | noteLeft e rest ih => exact .noteLeft e ih
  | noteRight e rest ih => exact .noteRight e ih
  | pause waits rest ih => exact .pause waits ih
  | stalled waits => exact .stalled waits

theorem recast {during' : σ' → τ' → Prop} {post' : Outcome α' → Outcome β' → σ' → τ' → Prop}
    {project : σ → σ'} {project' : τ → τ'} {conclude : Outcome α → σ → Outcome α'}
    {conclude' : Outcome β → τ → Outcome β'} (h : r.Paired during post q)
    (waits : ∀ s t, during s t → during' (project s) (project' t))
    (ends : ∀ o o' s t, post o o' s t →
      post' (conclude o s) (conclude' o' t) (project s) (project' t)) :
    (r.recast project conclude).Paired during' post' (q.recast project' conclude') := by
  induction h with
  | done here => exact .done (ends _ _ _ _ here)
  | noteLeft e rest ih => exact .noteLeft e ih
  | noteRight e rest ih => exact .noteRight e ih
  | pause here rest ih => exact .pause (waits _ _ here) ih
  | stalled here => exact .stalled (waits _ _ here)

/-- What follows on the same outcome. -/
theorem attempt_bind {now : σ → τ → Prop} {post' : Outcome α' → Outcome β' → σ → τ → Prop}
    {r : Run σ α} {q : Run τ α} {k : Outcome α → σ → Run σ α'} {l : Outcome α → τ → Run τ β'}
    (h : r.Paired during (Together now) q)
    (next : ∀ o s t, now s t → (k o s).Paired during post' (l o t)) :
    ((r.recast id fun o _ => .ok o).bind k).Paired during post'
      ((q.recast id fun o _ => .ok o).bind l) := by
  induction h with
  | @done o o' s t ends =>
    obtain ⟨rfl, here⟩ := ends
    exact next o s t here
  | noteLeft e rest ih => exact .noteLeft e ih
  | noteRight e rest ih => exact .noteRight e ih
  | pause waits rest ih => exact .pause waits ih
  | stalled waits => exact .stalled waits

/-- Both callers cancel at the same poll, and both runs cancel themselves alike. -/
theorem untilCancelled {cancelled : σ → Bool} {cancelled' : τ → Bool}
    (same : ∀ s t, during s t → cancelled s = cancelled' t)
    (stops : ∀ s t, during s t → post (.failed .cancelled) (.failed .cancelled) s t)
    (h : r.Paired during post q) (allowed : Option Nat) :
    (r.untilCancelled cancelled allowed).Paired during post
      (q.untilCancelled cancelled' allowed) := by
  induction h generalizing allowed with
  | done ends => exact .done ends
  | noteLeft e rest ih => exact .noteLeft e (ih allowed)
  | noteRight e rest ih => exact .noteRight e (ih allowed)
  | @pause s t r q here rest ih =>
    refine .pause here ?_
    rw [same s t here]
    split
    · exact .done (stops s t here)
    · exact ih (allowed.map (· - 1))
  | @stalled s t here =>
    have idles : ∀ polls, (idle s polls : Run σ α).Paired during post (idle t polls) := by
      intro polls
      induction polls with
      | zero => exact .pause here (.done (stops s t here))
      | succ polls ih => exact .pause here ih
    rw [untilCancelled_stalled, untilCancelled_stalled, same s t here]
    split
    · exact idles 0
    · cases allowed with
      | none => exact .stalled here
      | some polls => exact idles polls

/-- Paired runs have ended after the same number of polls, or are both under way. -/
theorem drive (h : r.Paired during post q) (more : Nat) :
    (r.drive more).polls = (q.drive more).polls ∧
      ((r.drive more).outcome? = none ∧ (q.drive more).outcome? = none ∧
          during (r.drive more).state (q.drive more).state ∨
        ∃ o o', (r.drive more).outcome? = some o ∧ (q.drive more).outcome? = some o' ∧
          post o o' (r.drive more).state (q.drive more).state) := by
  induction h generalizing more with
  | done ends => exact ⟨rfl, .inr ⟨_, _, rfl, rfl, ends⟩⟩
  | noteLeft e rest ih => exact ih more
  | noteRight e rest ih => exact ih more
  | pause waits rest ih =>
    cases more with
    | zero => exact ⟨rfl, .inl ⟨rfl, rfl, waits⟩⟩
    | succ more =>
      obtain ⟨polls, ended⟩ := ih more
      exact ⟨congrArg (· + 1) polls, ended⟩
  | stalled waits => exact ⟨rfl, .inl ⟨rfl, rfl, waits⟩⟩

theorem sameDelivery {during : σ → σ → Prop} {r q : Run σ α}
    (h : r.Paired during Delivered q) (more : Nat) : (r.drive more).SameDelivery (q.drive more) := by
  obtain ⟨polls, ⟨waits, waits', -⟩ | ⟨_, o, ended, ended', rfl, state⟩⟩ := h.drive more
  · exact ⟨polls.symm, waits'.trans waits.symm, fun a ok => nomatch waits.symm.trans ok⟩
  · refine ⟨polls.symm, ended'.trans ended.symm, fun a ok => state ?_⟩
    obtain rfl : o = .ok a := Option.some.inj (ended.symm.trans ok)
    rfl

/-- Passes pair the tasks that they belong to. -/
theorem enter {act : Action (Frame σ) α} {act' : Action (Frame τ) β} {pass pass' : Pass}
    {task : Task σ} {task' : Task τ} {post : Outcome α → Outcome β → Task σ → Task τ → Prop}
    (h : (act { pass, task }).Paired (fun f g => f.task.cancelled = g.task.cancelled)
      (fun o o' f g => post o o' f.task g.task) (act' { pass := pass', task := task' })) :
    (Task.enter pass act task).Paired (fun s t => s.cancelled = t.cancelled) post
      (Task.enter pass' act' task') :=
  h.recast (fun _ _ same => same) fun _ _ _ _ ends => ends

end Paired

end Run

end Templating
