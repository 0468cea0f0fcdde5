import Templating.Proofs.RunStates
import Templating.Render

/-!
# Parallel runs

Two runs are parallel if they report the same, wait alike and end alike, all along in states that
belong together; values that they end with may differ as a relation permits. Two actions are
parallel if their runs are, wherever both start in states that belong together. This is kept by
everything that actions are composed with.
-/

namespace Templating

variable {σ τ σ' τ' α β α' β' : Type}

/-- Two outcomes are the same but for their values. -/
inductive Outcome.Alike (same : α → β → Prop) : Outcome α → Outcome β → Prop
  | ok {a : α} {b : β} (values : same a b) : Alike same (ok a) (ok b)
  | failed (e : RenderError) : Alike same (failed e) (failed e)
  | misused (m : Misuse) : Alike same (misused m) (misused m)
  | tooDeep : Alike same tooDeep tooDeep

namespace Outcome.Alike

theorem refl (o : Outcome α) : o.Alike Eq o := by
  cases o with
  | ok a => exact .ok rfl
  | failed e => exact .failed e
  | misused m => exact .misused m
  | tooDeep => exact .tooDeep

theorem eq {o o' : Outcome α} (alike : o.Alike Eq o') : o = o' := by
  cases alike with
  | ok values => rw [values]
  | failed e => rfl
  | misused m => rfl
  | tooDeep => rfl

theorem map {same : α → β → Prop} {same' : α' → β' → Prop} {f : α → α'} {g : β → β'}
    {o : Outcome α} {o' : Outcome β} (alike : o.Alike same o')
    (keep : ∀ a b, same a b → same' (f a) (g b)) : (o.map f).Alike same' (o'.map g) := by
  cases alike with
  | ok values => exact .ok (keep _ _ values)
  | failed e => exact .failed e
  | misused m => exact .misused m
  | tooDeep => exact .tooDeep

end Outcome.Alike

namespace Run

inductive Parallel (now : σ → τ → Prop) (same : α → β → Prop) : Run σ α → Run τ β → Prop
  | done {o : Outcome α} {o' : Outcome β} {s : σ} {t : τ} (ends : o.Alike same o')
      (states : now s t) : Parallel now same (.done o s) (.done o' t)
  | note (e : Event) {r : Run σ α} {q : Run τ β} (rest : Parallel now same r q) :
      Parallel now same (.note e r) (.note e q)
  | pause {s : σ} {t : τ} {r : Unit → Run σ α} {q : Unit → Run τ β} (states : now s t)
      (rest : Parallel now same (r ()) (q ())) : Parallel now same (.pause s r) (.pause t q)
  | stalled {s : σ} {t : τ} (states : now s t) : Parallel now same (.stalled s) (.stalled t)

namespace Parallel

variable {now : σ → τ → Prop} {same : α → β → Prop} {r : Run σ α} {q : Run τ β}

theorem bind {same' : α' → β' → Prop} {k : α → σ → Run σ α'} {l : β → τ → Run τ β'}
    (h : r.Parallel now same q)
    (next : ∀ a b s t, same a b → now s t → (k a s).Parallel now same' (l b t)) :
    (r.bind k).Parallel now same' (q.bind l) := by
  induction h with
  | done ends states =>
    cases ends with
    | ok values => exact next _ _ _ _ values states
    | failed e => exact .done (.failed e) states
    | misused m => exact .done (.misused m) states
    | tooDeep => exact .done .tooDeep states
  | note e rest ih => exact .note e ih
  | pause states rest ih => exact .pause states ih
  | stalled states => exact .stalled states

theorem recast {now' : σ' → τ' → Prop} {same' : α' → β' → Prop} {project : σ → σ'}
    {project' : τ → τ'} {conclude : Outcome α → σ → Outcome α'}
    {conclude' : Outcome β → τ → Outcome β'} (h : r.Parallel now same q)
    (projects : ∀ s t, now s t → now' (project s) (project' t))
    (concludes : ∀ o o' s t, o.Alike same o' → now s t →
      (conclude o s).Alike same' (conclude' o' t)) :
    (r.recast project conclude).Parallel now' same' (q.recast project' conclude') := by
  induction h with
  | done ends states => exact .done (concludes _ _ _ _ ends states) (projects _ _ states)
  | note e rest ih => exact .note e ih
  | pause states rest ih => exact .pause (projects _ _ states) ih
  | stalled states => exact .stalled (projects _ _ states)

theorem firstPoll (h : r.Parallel now same q) : r.firstPoll.Parallel now same q.firstPoll := by
  induction h with
  | done ends states => exact .done ends states
  | note e rest ih => exact .note e ih
  | pause states rest ih => exact .done (.failed _) states
  | stalled states => exact .done (.failed _) states

theorem untilCancelled {cancelled : σ → Bool} {cancelled' : τ → Bool}
    (agree : ∀ s t, now s t → cancelled s = cancelled' t) (h : r.Parallel now same q)
    (allowed : Option Nat) :
    (r.untilCancelled cancelled allowed).Parallel now same
      (q.untilCancelled cancelled' allowed) := by
  induction h generalizing allowed with
  | done ends states => exact .done ends states
  | note e rest ih => exact .note e (ih allowed)
  | @pause s t r q states rest ih =>
    refine .pause states ?_
    rw [agree s t states]
    split
    · exact .done (.failed _) states
    · exact ih (allowed.map (· - 1))
  | @stalled s t states =>
    have idles : ∀ polls, (idle s polls : Run σ α).Parallel now same (idle t polls) := by
      intro polls
      induction polls with
      | zero => exact .pause states (.done (.failed _) states)
      | succ polls ih => exact .pause states ih
    rw [untilCancelled_stalled, untilCancelled_stalled, agree s t states]
    split
    · exact idles 0
    · cases allowed with
      | none => exact .stalled states
      | some polls => exact idles polls

/-- At every poll parallel runs have reported the same, and have ended alike or not at all. -/
theorem drive (h : r.Parallel now same q) (more : Nat) :
    (r.drive more).events = (q.drive more).events ∧
      now (r.drive more).state (q.drive more).state ∧
      Option.Rel (Outcome.Alike same) (r.drive more).outcome? (q.drive more).outcome? := by
  induction h generalizing more with
  | done ends states => exact ⟨rfl, states, .some ends⟩
  | note e rest ih =>
    obtain ⟨events, states, ends⟩ := ih more
    exact ⟨congrArg (e :: ·) events, states, ends⟩
  | pause states rest ih =>
    cases more with
    | zero => exact ⟨rfl, states, .none⟩
    | succ more => exact ih more
  | stalled states => exact ⟨rfl, states, .none⟩

end Parallel

end Run

/-- Started in states that belong together, the actions go in parallel. -/
structure Action.Parallel (now : σ → τ → Prop) (same : α → β → Prop) (act : Action σ α)
    (act' : Action τ β) : Prop where
  run : ∀ {s t}, now s t → (act s).Parallel now same (act' t)

namespace Action.Parallel

variable {now : σ → τ → Prop} {same : α → β → Prop} {act : Action σ α} {act' : Action τ β}

theorem conclude {o : Outcome α} {o' : Outcome β} (ends : o.Alike same o') :
    Parallel now same (conclude o) (conclude o') :=
  ⟨fun states => .done ends states⟩

theorem pure {a : α} {b : β} (values : same a b) : Parallel now same (pure a) (pure b) :=
  conclude (.ok values)

theorem fail (e : RenderError) : Parallel now same (fail e) (fail e) :=
  conclude (.failed e)

theorem misuse (m : Misuse) : Parallel now same (misuse m) (misuse m) :=
  conclude (.misused m)

theorem report (e : Event) : Parallel now Eq (report e) (report e) :=
  ⟨fun states => .note e (.done (.ok rfl) states)⟩

theorem log (entry : LogEntry) : Parallel now Eq (log entry) (log entry) :=
  report (.log entry)

theorem read {f : σ → α} {g : τ → β} (reads : ∀ s t, now s t → same (f s) (g t)) :
    Parallel now same (read f) (read g) :=
  ⟨fun states => .done (.ok (reads _ _ states)) states⟩

theorem update {f : σ → σ} {g : τ → τ} (updates : ∀ s t, now s t → now (f s) (g t)) :
    Parallel now Eq (update f) (update g) :=
  ⟨fun states => .done (.ok rfl) (updates _ _ states)⟩

theorem bind {same' : α' → β' → Prop} {next : α → Action σ α'} {next' : β → Action τ β'}
    (h : Parallel now same act act')
    (hn : ∀ a b, same a b → Parallel now same' (next a) (next' b)) :
    Parallel now same' (act >>= next) (act' >>= next') :=
  ⟨fun states => (h.run states).bind fun a b _ _ values => (hn a b values).run⟩

/-- What follows on equal values. -/
theorem andThen {same' : α' → β' → Prop} {act : Action σ α} {act' : Action τ α}
    {next : α → Action σ α'} {next' : α → Action τ β'} (h : Parallel now Eq act act')
    (hn : ∀ a, Parallel now same' (next a) (next' a)) :
    Parallel now same' (act >>= next) (act' >>= next') :=
  h.bind fun a _ values => values ▸ hn a

theorem unit {act : Action σ Unit} {act' : Action τ Unit} (h : Parallel now Eq act act') :
    Parallel now Eq act.unit act'.unit :=
  h.andThen fun _ => .pure rfl

theorem wait (polls : Nat) : Parallel now Eq (wait polls) (wait polls) := by
  induction polls with
  | zero => exact pure rfl
  | succ polls ih => exact ⟨fun states => .pause states (ih.run states)⟩

theorem stall : Parallel now Eq stall stall :=
  ⟨fun states => .stalled states⟩

theorem firstPoll (h : Parallel now same act act') :
    Parallel now same act.firstPoll act'.firstPoll :=
  ⟨fun states => (h.run states).firstPoll⟩

theorem attempt (h : Parallel now same act act') :
    Parallel now (Outcome.Alike same) act.attempt act'.attempt :=
  ⟨fun states => (h.run states).recast (fun _ _ there => there) fun _ _ _ _ ends _ => .ok ends⟩

theorem untilCancelled {cancelled : σ → Bool} {cancelled' : τ → Bool}
    (agree : ∀ s t, now s t → cancelled s = cancelled' t) (h : Parallel now same act act')
    (allowed : Option Nat) :
    Parallel now same (act.untilCancelled cancelled allowed)
      (act'.untilCancelled cancelled' allowed) := by
  constructor
  intro s t states
  unfold Action.untilCancelled
  split
  · exact .done (.failed _) states
  · exact (h.run states).untilCancelled agree _

theorem drive (h : Parallel now same act act') {s : σ} {t : τ} (states : now s t)
    (polls : Nat) :
    (act.drive polls s).events = (act'.drive polls t).events ∧
      now (act.drive polls s).state (act'.drive polls t).state ∧
      Option.Rel (Outcome.Alike same) (act.drive polls s).outcome?
        (act'.drive polls t).outcome? := by
  cases polls with
  | zero => exact ⟨rfl, states, .none⟩
  | succ more => exact (h.run states).drive more

/-- Actions on parts of two states, performed within the whole. -/
theorem focus {now' : σ' → τ' → Prop} {part : Action σ' α} {part' : Action τ' β}
    {enter : σ → σ'} {leave : σ → σ' → σ} {enter' : τ → τ'} {leave' : τ → τ' → τ}
    (h : Parallel now' same part part') (enters : ∀ s t, now s t → now' (enter s) (enter' t))
    (leaves : ∀ s t x y, now s t → now' x y → now (leave s x) (leave' t y)) :
    Parallel now same (fun s => (part (enter s)).recast (leave s) fun o _ => o)
      (fun t => (part' (enter' t)).recast (leave' t) fun o _ => o) :=
  ⟨fun states => (h.run (enters _ _ states)).recast (fun x y => leaves _ _ x y states)
    fun _ _ _ _ ends _ => ends⟩

end Action.Parallel

end Templating
